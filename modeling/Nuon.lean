import Nuon.Text.CString
import Nuon.Container.Smartlist
import Nuon.Container.Memarea
import Nuon.Container.MemareaStats
import Nuon.Crypto.TaggedFile
import Nuon.CircuitStats.Basic
import Nuon.CircuitStats.Estimate
import Nuon.CircuitStats.StateFile
import Nuon.CircuitStats.Run
import Nuon.CircuitStats.Window
import Nuon.CircuitStats.Liveness
import Nuon.CircuitStats.Histogram
import Nuon.CircuitStats.RoundTrip
import Nuon.CircuitStats.Timeouts
import Nuon.CircuitStats.Counts
import Nuon.CircuitStats.CompletedHop
import Nuon.CircuitStats.Rates
import Nuon.CircuitStats.Xm
import Nuon.Net.Address
import Nuon.Net.AddrPort
import Nuon.Net.Sockaddr
import Nuon.Net.PtrName
import Nuon.Net.PtrRead
import Nuon.Net.MaskPorts
import Nuon.Net.Hostname
import Nuon.Net.Classify
import Nuon.Transports.TransportList
import Nuon.Transports.ManagedProxy
import Nuon.Transports.Run
import Nuon.Transports.SocksArgs
import Nuon.Transports.ServerOptions
import Nuon.Hibernate.Calendar
import Nuon.Hibernate.Period
import Nuon.Hibernate.Accounting
import Nuon.Hibernate.States
import Nuon.Hibernate.Shutdown
import Nuon.Hibernate.Getinfo
