import Nuon.Net.AddrPort
import Nuon.Container.Smartlist

/-!
# The transport list

`transport_list` (`feature/client/transports.c`) holds the pluggable transports Tor knows, each
under a name. `transport_get_by_name` returns the first transport of a name, so the list is meant to
hold each name once: `transport_resolve_conflicts` decides, before a transport is added, whether it
replaces the one of the same name, refreshes it, or is dropped. Every operation on the list keeps
the names distinct (`TransportNamesUnique`), and then `transport_add_from_config` returns `0`
exactly when the transport of that name is afterwards at the address and port asked for
(`transportAddFromConfig_eq_zero_iff`).
-/

namespace Nuon.Transports

open Nuon.Net Nuon.Container

/-- `transport_t`, with the fields the transport list reads. -/
structure Transport where
  name : List Char
  addr : TorAddr
  port : Nat
  markedForRemoval : Bool
  deriving DecidableEq, Repr

/-- `transport_new(addr, port, name, socks_ver, extra_info_args)`. -/
def transportNew (addr : TorAddr) (port : Nat) (name : List Char) : Transport :=
  ⟨name, addr, port, false⟩

/-- `mark_transport_list`. -/
def markTransportList (transports : List Transport) : List Transport :=
  transports.map fun t => { t with markedForRemoval := true }

/-- `sweep_transport_list`: delete the marked transports. -/
def sweepTransportList (transports : List Transport) : List Transport :=
  smartlistForeachDelAll (fun t => if t.markedForRemoval then none else some t) transports

/-- `transport_get_by_name`. -/
def transportGetByName (transports : List Transport) (name : List Char) : Option Transport :=
  transports.find? fun t => t.name = name

/-- The slot of the transport `transport_get_by_name` returns, with that transport. -/
def slotByName (name : List Char) : List Transport → Option (Nat × Transport)
  | [] => none
  | t :: rest =>
    if t.name = name then some (0, t) else (slotByName name rest).map fun found => (found.1 + 1, found.2)

/-- Set `marked_for_removal` on the transport `transport_get_by_name` returns, if any. -/
def setMarkedByName (transports : List Transport) (name : List Char) (marked : Bool) :
    List Transport :=
  match slotByName name transports with
  | none => transports
  | some found => transports.set found.1 { found.2 with markedForRemoval := marked }

variable (F : AddrFamilies)

/-- `transport_resolve_conflicts(t)` with the list it leaves: `0` when `t` should be registered
(a marked transport of that name at another address is deleted first), `1` when the same
transport is registered (it is unmarked), `-1` when an unmarked transport of that name at another
address stays. -/
def transportResolveConflicts (transports : List Transport) (t : Transport) :
    Int × List Transport :=
  match slotByName t.name transports with
  | none => (0, transports)
  | some found =>
    if torAddrEq F t.addr found.2.addr ∧ t.port = found.2.port then
      (1, transports.set found.1 { found.2 with markedForRemoval := false })
    else if found.2.markedForRemoval then (0, smartlistDel transports found.1)
    else (-1, transports)

/-- `transport_add(t)`: register `t` when the conflicts allow it. -/
def transportAdd (transports : List Transport) (t : Transport) : Int × List Transport :=
  let resolved := transportResolveConflicts F transports t
  if resolved.1 = 0 then (0, resolved.2 ++ [t]) else resolved

/-- `transport_add_from_config(addr, port, name, socks_ver)`: `0` when the transport is
registered, now or already, `-1` otherwise. -/
def transportAddFromConfig (transports : List Transport) (addr : TorAddr) (port : Nat)
    (name : List Char) : Int × List Transport :=
  let added := transportAdd F transports (transportNew addr port name)
  (if added.1 = 0 ∨ added.1 = 1 then 0 else -1, added.2)

/-- The transports of a client proxy, added one after the other as `register_client_proxy`
does (a copy of each; what `transport_add` returns is only logged). -/
def registerTransports (transports : List Transport) (proxyTransports : List Transport) :
    List Transport :=
  proxyTransports.foldl (fun list t => (transportAdd F list t).2) transports

/-! ## Lookup by name -/

/-- No two transports of the list share a name. -/
def TransportNamesUnique (transports : List Transport) : Prop :=
  (transports.map Transport.name).Nodup

private theorem transportGetByName_eq (transports : List Transport) (name : List Char) :
    transportGetByName transports name = (slotByName name transports).map Prod.snd := by
  induction transports with
  | nil => rfl
  | cons t rest inductionHypothesis =>
    by_cases named : t.name = name
    · simp [transportGetByName, slotByName, named]
    · simpa [transportGetByName, slotByName, named] using inductionHypothesis

private theorem slotByName_eq_none {transports : List Transport} {name : List Char} :
    slotByName name transports = none ↔ name ∉ transports.map Transport.name := by
  induction transports with
  | nil => simp [slotByName]
  | cons t rest inductionHypothesis =>
    by_cases named : t.name = name <;> simp [slotByName, named, inductionHypothesis, Ne.symm]

private theorem slotByName_spec {transports : List Transport} {name : List Char} {i : Nat}
    {t : Transport} (found : slotByName name transports = some (i, t)) :
    transports[i]? = some t ∧ t.name = name := by
  induction transports generalizing i with
  | nil => simp [slotByName] at found
  | cons u rest inductionHypothesis =>
    by_cases named : u.name = name
    · simp only [slotByName, named, if_true, Option.some.injEq, Prod.mk.injEq] at found
      obtain ⟨rfl, rfl⟩ := found
      exact ⟨by simp, named⟩
    · simp only [slotByName, named, if_false, Option.map_eq_some', Prod.exists] at found
      obtain ⟨j, u', inner, same⟩ := found
      obtain ⟨rfl, rfl⟩ := Prod.mk.inj same
      simpa using inductionHypothesis inner

/-- Rewriting the found transport under its own name keeps every name and the slot. -/
theorem slotByName_set {transports : List Transport} {name : List Char} {i : Nat}
    {t t' : Transport} (found : slotByName name transports = some (i, t))
    (sameName : t'.name = t.name) :
    (transports.set i t').map Transport.name = transports.map Transport.name ∧
      slotByName name (transports.set i t') = some (i, t') := by
  induction transports generalizing i with
  | nil => simp [slotByName] at found
  | cons u rest inductionHypothesis =>
    by_cases named : u.name = name
    · simp only [slotByName, named, if_true, Option.some.injEq, Prod.mk.injEq] at found
      obtain ⟨rfl, rfl⟩ := found
      simp [slotByName, sameName, named]
    · simp only [slotByName, named, if_false, Option.map_eq_some', Prod.exists] at found
      obtain ⟨j, u', inner, same⟩ := found
      obtain ⟨rfl, rfl⟩ := Prod.mk.inj same
      obtain ⟨names, slot⟩ := inductionHypothesis inner
      simp [slotByName, named, names, slot]

/-- With distinct names, deleting the found slot leaves no transport of that name. -/
theorem slotByName_eraseIdx {transports : List Transport} {name : List Char} {i : Nat}
    {t : Transport} (unique : TransportNamesUnique transports)
    (found : slotByName name transports = some (i, t)) :
    name ∉ (transports.eraseIdx i).map Transport.name := by
  induction transports generalizing i with
  | nil => simp [slotByName] at found
  | cons u rest inductionHypothesis =>
    have restUnique : TransportNamesUnique rest := (List.nodup_cons.mp unique).2
    by_cases named : u.name = name
    · simp only [slotByName, named, if_true, Option.some.injEq, Prod.mk.injEq] at found
      obtain ⟨rfl, rfl⟩ := found
      simpa [← named] using (List.nodup_cons.mp unique).1
    · simp only [slotByName, named, if_false, Option.map_eq_some', Prod.exists] at found
      obtain ⟨j, u', inner, same⟩ := found
      obtain ⟨rfl, rfl⟩ := Prod.mk.inj same
      simp only [List.eraseIdx_cons_succ, List.map_cons, List.mem_cons, not_or]
      exact ⟨Ne.symm named, inductionHypothesis restUnique inner⟩

private theorem transportGetByName_append_fresh {transports : List Transport} {name : List Char}
    (fresh : name ∉ transports.map Transport.name) {t : Transport} (named : t.name = name) :
    transportGetByName (transports ++ [t]) name = some t := by
  have absent : transports.find? (fun u => u.name = name) = none :=
    List.find?_eq_none.mpr fun u member same => fresh (List.mem_map.mpr ⟨u, member, by simpa using same⟩)
  simp [transportGetByName, List.find?_append, absent, named]

/-! ## Every operation keeps the names distinct -/

/-- Marking keeps the names. -/
theorem markTransportList_names (transports : List Transport) :
    (markTransportList transports).map Transport.name = transports.map Transport.name := by
  simp [markTransportList]

private theorem sweep_sublist (transports : List Transport) :
    List.Sublist (transports.filterMap fun t => if t.markedForRemoval then none else some t)
      transports := by
  induction transports with
  | nil => exact List.Sublist.slnil
  | cons t rest inductionHypothesis =>
    by_cases marked : t.markedForRemoval
    · simpa [marked] using inductionHypothesis.cons t
    · simpa [marked] using inductionHypothesis.cons₂ t

/-- Sweeping keeps the names distinct. -/
theorem sweepTransportList_unique {transports : List Transport}
    (unique : TransportNamesUnique transports) :
    TransportNamesUnique (sweepTransportList transports) :=
  (((smartlistForeachDelAll_perm _ transports).map Transport.name).nodup_iff).mpr
    (((sweep_sublist transports).map Transport.name).nodup unique)

private theorem setMarkedByName_names (transports : List Transport) (name : List Char) (marked : Bool) :
    (setMarkedByName transports name marked).map Transport.name =
      transports.map Transport.name := by
  unfold setMarkedByName
  split
  · rfl
  · next pair found =>
    obtain ⟨i, old⟩ := pair
    dsimp only
    exact (slotByName_set found (by rfl)).1

/-- The list `transport_resolve_conflicts` leaves keeps the names distinct, and when it answers
`0` the new name is free. -/
theorem transportResolveConflicts_unique {transports : List Transport}
    (unique : TransportNamesUnique transports) (t : Transport) :
    TransportNamesUnique (transportResolveConflicts F transports t).2 ∧
      ((transportResolveConflicts F transports t).1 = 0 →
        t.name ∉ (transportResolveConflicts F transports t).2.map Transport.name) := by
  unfold transportResolveConflicts
  split
  · next absent => exact ⟨unique, fun _ => slotByName_eq_none.mp absent⟩
  · next pair found =>
    obtain ⟨i, old⟩ := pair
    have inRange := (List.getElem?_eq_some_iff.mp (slotByName_spec found).1).1
    have deleted := (smartlistDel_perm inRange).map Transport.name
    dsimp only
    split_ifs
    · refine ⟨?_, by simp⟩
      unfold TransportNamesUnique
      rw [(slotByName_set found (by rfl)).1]
      exact unique
    · refine ⟨deleted.nodup_iff.mpr (((List.eraseIdx_sublist _ _).map _).nodup unique), fun _ => ?_⟩
      rw [deleted.mem_iff]
      exact slotByName_eraseIdx unique found
    · exact ⟨unique, by simp⟩

private theorem transportAdd_unique {transports : List Transport}
    (unique : TransportNamesUnique transports) (t : Transport) :
    TransportNamesUnique (transportAdd F transports t).2 := by
  obtain ⟨resolvedUnique, fresh⟩ := transportResolveConflicts_unique F unique t
  dsimp only [transportAdd]
  split_ifs with registered
  · simpa [TransportNamesUnique, List.nodup_append] using
      ⟨resolvedUnique, fun u member same => fresh registered (List.mem_map.mpr ⟨u, member, same⟩)⟩
  · exact resolvedUnique

/-- `transport_add_from_config` keeps the names distinct. -/
theorem transportAddFromConfig_unique {transports : List Transport}
    (unique : TransportNamesUnique transports) (addr : TorAddr) (port : Nat) (name : List Char) :
    TransportNamesUnique (transportAddFromConfig F transports addr port name).2 :=
  transportAdd_unique F unique _

/-- Registering a proxy's transports keeps the names distinct. -/
theorem registerTransports_unique {transports : List Transport}
    (unique : TransportNamesUnique transports) (proxyTransports : List Transport) :
    TransportNamesUnique (registerTransports F transports proxyTransports) := by
  induction proxyTransports generalizing transports with
  | nil => exact unique
  | cons t rest inductionHypothesis => exact inductionHypothesis (transportAdd_unique F unique t)

/-- Marking transports by name keeps the names. -/
theorem foldl_setMarkedByName_names {β : Type} (xs : List β) (nameOf : β → List Char)
    (marked : Bool) (transports : List Transport) :
    (xs.foldl (fun list x => setMarkedByName list (nameOf x) marked) transports).map
      Transport.name = transports.map Transport.name := by
  induction xs generalizing transports with
  | nil => rfl
  | cons x xs inductionHypothesis =>
    rw [List.foldl_cons, inductionHypothesis, setMarkedByName_names]

/-- With distinct names, the transport `transport_get_by_name` finds is the only one of its
name. -/
theorem transportGetByName_only {transports : List Transport} (unique : TransportNamesUnique transports)
    {name : List Char} {t u : Transport} (found : transportGetByName transports name = some t)
    (member : u ∈ transports) (named : u.name = name) : u = t :=
  have foundNamed : t.name = name := by simpa using List.find?_some found
  List.inj_on_of_nodup_map unique member (List.mem_of_find?_eq_some found)
    (named.trans foundNamed.symm)

/-! ## What `transport_add_from_config` answers -/

/-- On a list with distinct names, `transport_add_from_config` returns `0` exactly when the
transport `transport_get_by_name` then finds under that name is at the address and port given. -/
theorem transportAddFromConfig_eq_zero_iff {transports : List Transport}
    (unique : TransportNamesUnique transports) (addr : TorAddr) (port : Nat) (name : List Char) :
    (transportAddFromConfig F transports addr port name).1 = 0 ↔
      ∃ t, transportGetByName (transportAddFromConfig F transports addr port name).2 name =
        some t ∧ t.addr = addr ∧ t.port = port := by
  simp only [transportAddFromConfig, transportAdd, transportResolveConflicts, transportNew]
  cases found : slotByName name transports with
  | none =>
    have added : transportGetByName (transports ++ [⟨name, addr, port, false⟩]) name =
        some ⟨name, addr, port, false⟩ :=
      transportGetByName_append_fresh (slotByName_eq_none.mp found) rfl
    simp [added]
  | some pair =>
    obtain ⟨i, old⟩ := pair
    have inRange := (List.getElem?_eq_some_iff.mp (slotByName_spec found).1).1
    dsimp only
    by_cases same : torAddrEq F addr old.addr = true ∧ port = old.port
    · have lookup : transportGetByName (transports.set i { old with markedForRemoval := false })
          name = some { old with markedForRemoval := false } := by
        rw [transportGetByName_eq, (slotByName_set found (by rfl)).2]
        rfl
      have equal := (torAddrEq_iff F).mp same.1
      rw [if_pos same]
      simp [lookup, equal, same.2]
    · by_cases marked : old.markedForRemoval = true
      · have fresh := fun member => slotByName_eraseIdx unique found
          (((smartlistDel_perm inRange).map Transport.name).mem_iff.mp member)
        have added : transportGetByName (smartlistDel transports i ++
            [⟨name, addr, port, false⟩]) name = some ⟨name, addr, port, false⟩ :=
          transportGetByName_append_fresh fresh rfl
        rw [if_neg same, if_pos marked]
        simp [added]
      · have lookup : transportGetByName transports name = some old := by
          rw [transportGetByName_eq, found]
          rfl
        rw [if_neg same, if_neg marked]
        rw [torAddrEq_iff] at same
        simpa [lookup, eq_comm] using same

end Nuon.Transports
