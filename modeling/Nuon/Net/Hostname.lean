import Nuon.Net.AddrPort

/-!
# Host names a client may connect to

`string_is_valid_nonrfc_hostname` splits a name at every `.` with `smartlist_split_string` (no
flags), drops one empty last piece (a trailing dot), and checks that every piece starts with
neither `-` nor `_` and is made of ASCII letters, digits, `-` and `_`; a name that
`tor_inet_pton` reads as an IPv4 address is refused first. The split is `List.splitOn`
(`smartlistSplitString_single`), and the check is exactly the grammar of such names: one or more
labels joined by `.`, with at most one `.` after the last (`stringIsValidNonrfcHostname_iff`).

`string_is_valid_dest` takes off one pair of brackets around the whole text, whatever it holds,
before it asks for an IPv4 address, an IPv6 address or such a name.
-/

namespace Nuon.Net

/-- Modelled from the spec: `TOR_ISALNUM` (`compat_ctype.h`, not among the sources): an ASCII letter
or digit. -/
def torIsAlnum (c : Char) : Bool :=
  c.isAlphanum

/-- `string_is_valid_ipv4_address(string)`: `tor_inet_pton(AF_INET, string, &addr) == 1`. -/
def stringIsValidIpv4Address (I : InetLib) (string : List Char) : Bool :=
  (I.pton4 string).isSome

/-- The `do … while` loop over one label: each character up to the NUL must be alphanumeric, `-`
or `_`. The first is tested even when it is the NUL, and fails. -/
def labelCharsOk : List Char → Bool
  | [] => false
  | c :: rest => (torIsAlnum c || c == '-' || c == '_') && (rest.isEmpty || labelCharsOk rest)

/-- The test of one label in the `SMARTLIST_FOREACH`: no leading `-` or `_`, then the loop. -/
def labelOk (c : List Char) : Bool :=
  !(c.headD '\x00' == '-' || c.headD '\x00' == '_') && labelCharsOk c

/-- `string_is_valid_nonrfc_hostname(string)` on the characters of the C string `string`. The
`SMARTLIST_FOREACH` stops at the first failing label, so its `result` is whether all pass. -/
def stringIsValidNonrfcHostname (I : InetLib) (string : List Char) : Bool :=
  if string = [] then false
  else if stringIsValidIpv4Address I string then false
  else
    let components := smartlistSplitString string ['.'] false false
    if components.length = 0 then false
    else
      let components :=
        if components.getLast?.getD [] = [] then components.dropLast else components
      components.all labelOk

/-! ## The grammar -/

/-- A label: non-empty, starting with an ASCII letter or digit, and made of ASCII letters,
digits, `-` and `_`. -/
def HostLabel (label : List Char) : Prop :=
  ∃ c rest, label = c :: rest ∧ c.isAlphanum ∧ ∀ d ∈ rest, d.isAlphanum ∨ d = '-' ∨ d = '_'

/-- The names the specification describes: non-empty, not read by `tor_inet_pton` as an IPv4
address, and one or more labels joined by `.`, with at most one `.` after the last. -/
def NonrfcHostname (I : InetLib) (s : List Char) : Prop :=
  s ≠ [] ∧ I.pton4 s = none ∧ ∃ labels : List (List Char), labels ≠ [] ∧
    (∀ label ∈ labels, HostLabel label) ∧
    (s = ['.'].intercalate labels ∨ s = ['.'].intercalate labels ++ ['.'])

/-! ## Splitting at one character -/

/-- `strstr` for a one-character separator: no occurrence, or the text before the first and
the text after it. -/
theorem splitAtSep_single (c : Char) (l : List Char) :
    splitAtSep [c] l = (l, none) ∧ c ∉ l ∨
      ∃ before after, splitAtSep [c] l = (before, some after) ∧ l = before ++ c :: after ∧
        c ∉ before := by
  induction l with
  | nil => exact .inl ⟨rfl, List.not_mem_nil c⟩
  | cons d l inductionHypothesis =>
    by_cases here : d = c
    · subst here
      exact .inr ⟨[], l, by simp [splitAtSep], rfl, List.not_mem_nil d⟩
    have notSep : ¬ [c] <+: d :: l := by
      simpa only [List.cons_prefix_cons, List.nil_prefix, and_true] using Ne.symm here
    rw [splitAtSep, if_neg notSep]
    rcases inductionHypothesis with ⟨cut, absent⟩ | ⟨before, after, cut, split, absent⟩
    · exact .inl ⟨by rw [cut], by simp [absent, Ne.symm here]⟩
    · exact .inr ⟨d :: before, after, by rw [cut], by rw [split]; rfl,
        by simp [absent, Ne.symm here]⟩

private theorem smartlistSplitStringAux_single (c : Char) :
    ∀ (fuel : Nat) (l : List Char), l.length < fuel →
      smartlistSplitStringAux (splitAtSep [c]) false false fuel l = l.splitOn c
  | 0, _, short => absurd short (Nat.not_lt_zero _)
  | fuel + 1, l, short => by
    simp only [smartlistSplitStringAux, Bool.false_eq_true, if_false, and_false]
    rcases splitAtSep_single c l with ⟨cut, absent⟩ | ⟨before, after, cut, split, absent⟩
    · rw [cut, List.splitOn, List.splitOnP_eq_single _ _ fun x member same =>
        absent ((beq_iff_eq.mp same : x = c) ▸ member)]
    · have shorter : after.length < fuel := by
        rw [split, List.length_append, List.length_cons] at short
        omega
      rw [cut]
      dsimp only
      rw [smartlistSplitStringAux_single c fuel after shorter, split]
      unfold List.splitOn
      rw [List.splitOnP_first _ _
          (fun x member same => absent ((beq_iff_eq.mp same : x = c) ▸ member)) c (beq_self_eq_true c)]
      rfl

/-- `smartlist_split_string` at a one-character separator, with no flags, is `List.splitOn`. -/
theorem smartlistSplitString_single (s : List Char) (c : Char) :
    smartlistSplitString s [c] false false = s.splitOn c :=
  smartlistSplitStringAux_single c _ s (Nat.lt_succ_self _)

/-- An empty last piece joins as a separator at the end. -/
theorem intercalate_append_nil {α : Type} (sep : List α) {pieces : List (List α)}
    (nonempty : pieces ≠ []) :
    sep.intercalate (pieces ++ [[]]) = sep.intercalate pieces ++ sep := by
  induction pieces with
  | nil => contradiction
  | cons piece pieces inductionHypothesis =>
    cases pieces with
    | nil => simp [List.intercalate]
    | cons next pieces =>
      have rest := inductionHypothesis (List.cons_ne_nil _ _)
      simp only [List.intercalate, List.cons_append, List.intersperse_cons₂,
        List.flatten_cons] at rest ⊢
      rw [rest]
      simp only [List.append_assoc]

/-! ## Labels -/

private theorem labelCharsOk_iff (l : List Char) :
    labelCharsOk l = true ↔ l ≠ [] ∧ ∀ d ∈ l, d.isAlphanum ∨ d = '-' ∨ d = '_' := by
  induction l with
  | nil => simp [labelCharsOk]
  | cons c rest inductionHypothesis =>
    cases rest with
    | nil => simp [labelCharsOk, torIsAlnum, or_assoc]
    | cons d rest =>
      rw [labelCharsOk]
      simp [torIsAlnum, or_assoc, inductionHypothesis]

/-- The test of a label is the grammar of a label. -/
theorem labelOk_iff (l : List Char) : labelOk l = true ↔ HostLabel l := by
  rcases l with _ | ⟨c, rest⟩
  · simp [labelOk, labelCharsOk, HostLabel]
  · simp only [labelOk, List.headD_cons, labelCharsOk_iff, HostLabel, List.cons.injEq,
      Bool.and_eq_true, Bool.not_eq_true', Bool.or_eq_false_iff, beq_eq_false_iff_ne, ne_eq,
      List.cons_ne_nil, not_false_eq_true, List.forall_mem_cons, true_and]
    constructor
    · rintro ⟨⟨notDash, notUnder⟩, first, others⟩
      refine ⟨c, rest, ⟨rfl, rfl⟩, ?_, others⟩
      rcases first with alnum | dash | under
      · exact alnum
      · exact absurd dash notDash
      · exact absurd under notUnder
    · rintro ⟨_, _, ⟨rfl, rfl⟩, alnum, others⟩
      refine ⟨⟨?_, ?_⟩, .inl alnum, others⟩ <;> rintro rfl <;> exact absurd alnum (by decide)

/-- A label is not empty. -/
theorem HostLabel.ne_nil {label : List Char} (host : HostLabel label) : label ≠ [] := by
  obtain ⟨c, rest, rfl, -⟩ := host
  exact List.cons_ne_nil c rest

/-- A label holds no dot. -/
theorem HostLabel.dot_not_mem {label : List Char} (host : HostLabel label) : '.' ∉ label := by
  obtain ⟨c, rest, rfl, alnum, others⟩ := host
  intro member
  rcases List.mem_cons.mp member with same | member
  · exact absurd (same ▸ alnum) (by decide)
  · rcases others '.' member with wrong | wrong | wrong <;> exact absurd wrong (by decide)

/-! ## The whole name -/

private theorem all_labelOk_iff (labels : List (List Char)) :
    labels.all labelOk = true ↔ ∀ label ∈ labels, HostLabel label := by
  simp only [List.all_eq_true, labelOk_iff]

/-- Dropping one empty last piece, the pieces of a non-empty name pass the label test exactly
when the name is labels joined by `.`, with at most one `.` after them. -/
theorem labels_splitOn_iff {s : List Char} (nonempty : s ≠ []) :
    (if (s.splitOn '.').getLast?.getD [] = [] then (s.splitOn '.').dropLast
      else s.splitOn '.').all labelOk = true ↔
      ∃ labels : List (List Char), labels ≠ [] ∧ (∀ label ∈ labels, HostLabel label) ∧
        (s = ['.'].intercalate labels ∨ s = ['.'].intercalate labels ++ ['.']) := by
  constructor
  · intro allOk
    have joined := List.intercalate_splitOn s '.'
    rcases List.eq_nil_or_concat (s.splitOn '.') with none | ⟨pieces, last, split⟩
    · exact absurd none (List.splitOnP_ne_nil _ s)
    rw [split, List.concat_eq_append] at allOk joined
    rw [List.getLast?_concat, Option.getD_some] at allOk
    by_cases trailing : last = []
    · subst trailing
      have labelled : pieces ≠ [] := by
        rintro rfl
        exact nonempty (joined.symm.trans rfl)
      rw [if_pos rfl, List.dropLast_concat, all_labelOk_iff] at allOk
      exact ⟨pieces, labelled, allOk, .inr (by rw [← joined, intercalate_append_nil _ labelled])⟩
    · rw [if_neg trailing, all_labelOk_iff] at allOk
      exact ⟨pieces ++ [last], List.append_ne_nil_of_right_ne_nil _ (List.cons_ne_nil _ _), allOk,
        .inl joined.symm⟩
  · rintro ⟨labels, labelled, hosts, rfl | rfl⟩
    · have split := List.splitOn_intercalate labels '.'
        (fun label member => (hosts label member).dot_not_mem) labelled
      obtain ⟨pieces, last, shape⟩ := (List.eq_nil_or_concat labels).resolve_left labelled
      rw [List.concat_eq_append] at shape
      subst shape
      have lastHost := hosts last (List.mem_append_right _ (List.mem_singleton_self last))
      rw [split, List.getLast?_concat, Option.getD_some, if_neg lastHost.ne_nil, all_labelOk_iff]
      exact hosts
    · have noDot : ∀ label ∈ labels ++ [[]], '.' ∉ label := by
        intro label member
        rcases List.mem_append.mp member with member | member
        · exact (hosts label member).dot_not_mem
        · rw [List.mem_singleton.mp member]; exact List.not_mem_nil _
      rw [← intercalate_append_nil _ labelled, List.splitOn_intercalate _ '.' noDot
          (List.append_ne_nil_of_right_ne_nil _ (List.cons_ne_nil _ _)),
        List.getLast?_concat, Option.getD_some, if_pos rfl, List.dropLast_concat, all_labelOk_iff]
      exact hosts

/-- `string_is_valid_nonrfc_hostname` accepts exactly the names of the grammar. -/
theorem stringIsValidNonrfcHostname_iff (I : InetLib) (s : List Char) :
    stringIsValidNonrfcHostname I s = true ↔ NonrfcHostname I s := by
  unfold stringIsValidNonrfcHostname NonrfcHostname stringIsValidIpv4Address
  by_cases empty : s = []
  · simp [empty]
  by_cases ipv4 : (I.pton4 s).isSome = true
  · rw [if_neg empty, if_pos ipv4]
    simp [Option.isSome_iff_ne_none.mp ipv4]
  have pieces : (s.splitOn '.').length ≠ 0 := by
    simpa using List.splitOnP_ne_nil _ s
  rw [if_neg empty, if_neg ipv4, smartlistSplitString_single, if_neg pieces]
  dsimp only
  rw [labels_splitOn_iff empty]
  simp [empty, Option.not_isSome_iff_eq_none.mp ipv4]

example : stringIsValidNonrfcHostname ⟨fun _ => [], fun _ => [], fun _ => none, fun _ => none⟩
    "exit_1.torproject.org.".toList = true := by
  decide

example : stringIsValidNonrfcHostname ⟨fun _ => [], fun _ => [], fun _ => none, fun _ => none⟩
    "torproject..org".toList = false := by
  decide

/-! ## Destinations -/

/-- `string_is_valid_ipv6_address(string)`: `tor_inet_pton(AF_INET6, string, &addr) == 1`. -/
def stringIsValidIpv6Address (I : InetLib) (string : List Char) : Bool :=
  (I.pton6 string).isSome

/-- `string_is_valid_dest(string)`, `NULL` being `none`: a `[` first and a `]` last are taken
off, whatever stands between them, before the three tests. -/
def stringIsValidDest (I : InetLib) : Option (List Char) → Bool
  | none => false
  | some string =>
    if string = [] then false
    else
      let string := if string.head? = some '[' ∧ string.getLast? = some ']' then
        (string.drop 1).take (string.length - 2) else string
      stringIsValidIpv4Address I string || stringIsValidIpv6Address I string ||
        stringIsValidNonrfcHostname I string

end Nuon.Net
