import Mathlib.Data.List.Basic

/-!
# SOCKS arguments for a pluggable transport

`pt_stringify_socks_args` passes a bridge line's arguments to the transport proxy as one string:
each argument is escaped by `tor_escape_str_for_pt_args`, which puts a backslash before every `;`
and `\`, and the results are joined with `;`. Reading the string back, splitting at every `;` no
backslash escapes and dropping the escaping backslashes (`unescapeSocksArgs`), gives the arguments
again (`unescapeSocksArgs_join`), so two argument lists with the same string are equal
(`ptStringifySocksArgs_injective`).

The escaper returns `NULL` for a text longer than `(SIZE_MAX - 1) / 2`, where the doubled length
would not fit in a `size_t`, and then so does `pt_stringify_socks_args`; the reading back is about
the strings it returns.
-/

namespace Nuon.Transports

/-- Modelled from the spec: `smartlist_join_strings(sl, join, 0, NULL)`: the strings with `join`
between them. -/
def smartlistJoinStrings (sl : List (List Char)) (join : List Char) : List Char :=
  join.intercalate sl

/-- The loop of `tor_escape_str_for_pt_args`: a backslash before each character to escape. -/
def escapeChars (charsToEscape : List Char) (string : List Char) : List Char :=
  string.flatMap fun c => if c ∈ charsToEscape then ['\\', c] else [c]

section Escape

variable (sizeMax : Nat)

/-- `tor_escape_str_for_pt_args(string, chars_to_escape)`, with `SIZE_MAX` given. `none` is the
`NULL` returned when `length * 2 + 1` would not fit in a `size_t`. -/
def torEscapeStrForPtArgs (string charsToEscape : List Char) : Option (List Char) :=
  if string.length = 0 then some []
  else if (sizeMax - 1) / 2 < string.length then none
  else some (escapeChars charsToEscape string)

/-- `pt_stringify_socks_args(socks_args)`: `none` for the `tor_assert` on an empty list, and for
the `NULL` of an escape that fails. -/
def ptStringifySocksArgs (socksArgs : List (List Char)) : Option (List Char) :=
  if socksArgs.length = 0 then none
  else
    (socksArgs.mapM fun s => torEscapeStrForPtArgs sizeMax s [';', '\\']).map fun escaped =>
      smartlistJoinStrings escaped [';']

end Escape

/-- The reading the specification gives the string: split at every `;` that no backslash
escapes, and drop each escaping backslash. -/
def unescapeSocksArgs : List Char → List (List Char)
  | [] => [[]]
  | [c] => if c = ';' then [[], []] else [[c]]
  | c :: d :: rest =>
    if c = '\\' then (unescapeSocksArgs rest).modifyHead (d :: ·)
    else if c = ';' then [] :: unescapeSocksArgs (d :: rest)
    else (unescapeSocksArgs (d :: rest)).modifyHead (c :: ·)

/-! ## Reading the string back -/

/-- An unescaped `;` starts a new piece. -/
theorem unescapeSocksArgs_semicolon (rest : List Char) :
    unescapeSocksArgs (';' :: rest) = [] :: unescapeSocksArgs rest := by
  cases rest <;> simp [unescapeSocksArgs]

private theorem unescapeSocksArgs_escaped (c : Char) (rest : List Char) :
    unescapeSocksArgs ('\\' :: c :: rest) = (unescapeSocksArgs rest).modifyHead (c :: ·) := by
  simp [unescapeSocksArgs]

/-- Any other character goes into the current piece. -/
theorem unescapeSocksArgs_plain {c : Char} (notSemicolon : c ≠ ';') (notBackslash : c ≠ '\\')
    (rest : List Char) :
    unescapeSocksArgs (c :: rest) = (unescapeSocksArgs rest).modifyHead (c :: ·) := by
  cases rest <;> simp [unescapeSocksArgs, notSemicolon, notBackslash]

/-- Text whose every special character is escaped reads back as the start of the first piece of
what follows it, for any set of escaped characters that holds `;` and `\`. -/
theorem unescapeSocksArgs_escapeChars_of_mem {chars : List Char} (semicolon : ';' ∈ chars)
    (backslash : '\\' ∈ chars) (s t : List Char) :
    unescapeSocksArgs (escapeChars chars s ++ t) = (unescapeSocksArgs t).modifyHead (s ++ ·) := by
  induction s with
  | nil =>
    rw [escapeChars, List.flatMap_nil, List.nil_append]
    cases unescapeSocksArgs t <;> rfl
  | cons c s inductionHypothesis =>
    rw [escapeChars, List.flatMap_cons, List.append_assoc, ← escapeChars]
    by_cases special : c ∈ chars
    · rw [if_pos special, List.cons_append, List.singleton_append, unescapeSocksArgs_escaped,
        inductionHypothesis, List.modifyHead_modifyHead]
      rfl
    · have plainSemicolon : c ≠ ';' := fun same => special (same ▸ semicolon)
      have plainBackslash : c ≠ '\\' := fun same => special (same ▸ backslash)
      rw [if_neg special, List.singleton_append, unescapeSocksArgs_plain plainSemicolon
        plainBackslash, inductionHypothesis, List.modifyHead_modifyHead]
      rfl

/-- An escaped text reads back as the start of the first piece of what follows it. -/
theorem unescapeSocksArgs_escapeChars (s t : List Char) :
    unescapeSocksArgs (escapeChars [';', '\\'] s ++ t) =
      (unescapeSocksArgs t).modifyHead (s ++ ·) :=
  unescapeSocksArgs_escapeChars_of_mem (by decide) (by decide) s t

/-- Splitting the escaped texts joined with `;` at the unescaped `;` gives the texts back. -/
theorem unescapeSocksArgs_join {args : List (List Char)} (nonempty : args ≠ []) :
    unescapeSocksArgs (smartlistJoinStrings (args.map (escapeChars [';', '\\'])) [';']) = args := by
  induction args with
  | nil => contradiction
  | cons s rest inductionHypothesis =>
    cases rest with
    | nil =>
      simpa [smartlistJoinStrings, List.intercalate, unescapeSocksArgs] using
        unescapeSocksArgs_escapeChars s []
    | cons t rest =>
      have joined : smartlistJoinStrings ((s :: t :: rest).map (escapeChars [';', '\\'])) [';'] =
          escapeChars [';', '\\'] s ++
            ';' :: smartlistJoinStrings ((t :: rest).map (escapeChars [';', '\\'])) [';'] := by
        simp [smartlistJoinStrings, List.intercalate, List.intersperse_cons₂]
      rw [joined, unescapeSocksArgs_escapeChars, unescapeSocksArgs_semicolon,
        inductionHypothesis (List.cons_ne_nil t rest), List.modifyHead_cons, List.append_nil]

/-! ## The string of an argument list -/

section Stringify

variable {sizeMax : Nat}

private theorem torEscapeStrForPtArgs_eq_some {string charsToEscape escaped : List Char}
    (returned : torEscapeStrForPtArgs sizeMax string charsToEscape = some escaped) :
    escaped = escapeChars charsToEscape string := by
  unfold torEscapeStrForPtArgs at returned
  split_ifs at returned with empty
  · cases returned
    rw [List.length_eq_zero.mp empty]
    rfl
  · cases returned
    rfl

private theorem mapM_torEscapeStrForPtArgs {args escaped : List (List Char)}
    (returned : args.mapM (fun s => torEscapeStrForPtArgs sizeMax s [';', '\\']) = some escaped) :
    escaped = args.map (escapeChars [';', '\\']) := by
  induction args generalizing escaped with
  | nil => cases returned; rfl
  | cons s rest inductionHypothesis =>
    simp only [List.mapM_cons, Option.bind_eq_bind, Option.bind_eq_some, Option.pure_def,
      Option.some.injEq] at returned
    obtain ⟨first, firstReturned, others, othersReturned, rfl⟩ := returned
    rw [torEscapeStrForPtArgs_eq_some firstReturned, inductionHypothesis othersReturned,
      List.map_cons]

/-- What `pt_stringify_socks_args` returns is the escapes of a non-empty list, joined with `;`. -/
theorem ptStringifySocksArgs_eq_some {args : List (List Char)} {out : List Char}
    (stringified : ptStringifySocksArgs sizeMax args = some out) :
    args ≠ [] ∧ out = smartlistJoinStrings (args.map (escapeChars [';', '\\'])) [';'] := by
  unfold ptStringifySocksArgs at stringified
  split_ifs at stringified with empty
  obtain ⟨escaped, returned, rfl⟩ := Option.map_eq_some'.mp stringified
  exact ⟨fun nil => empty (by rw [nil]; rfl), by rw [mapM_torEscapeStrForPtArgs returned]⟩

/-- Two argument lists with the same string are equal, and reading the string back, split at the
unescaped `;` and without the escaping backslashes, gives the list. -/
theorem ptStringifySocksArgs_injective {args args' : List (List Char)} {out : List Char}
    (stringified : ptStringifySocksArgs sizeMax args = some out)
    (stringified' : ptStringifySocksArgs sizeMax args' = some out) :
    args = args' ∧ unescapeSocksArgs out = args := by
  obtain ⟨nonempty, joined⟩ := ptStringifySocksArgs_eq_some stringified
  obtain ⟨nonempty', joined'⟩ := ptStringifySocksArgs_eq_some stringified'
  have read : unescapeSocksArgs out = args := by rw [joined, unescapeSocksArgs_join nonempty]
  have read' : unescapeSocksArgs out = args' := by rw [joined', unescapeSocksArgs_join nonempty']
  exact ⟨read.symm.trans read', read⟩

end Stringify

/-- Two arguments holding `;` and `\`: their string reads back as them. -/
theorem ptStringifySocksArgs_injective_twoArgs :
    ptStringifySocksArgs 18446744073709551615 ["a;b".toList, "c\\".toList] =
        some "a\\;b;c\\\\".toList ∧
      ["a;b".toList, "c\\".toList] = ["a;b".toList, "c\\".toList] ∧
        unescapeSocksArgs "a\\;b;c\\\\".toList = ["a;b".toList, "c\\".toList] :=
  have stringified : ptStringifySocksArgs 18446744073709551615 ["a;b".toList, "c\\".toList] =
      some "a\\;b;c\\\\".toList := by decide
  ⟨stringified, ptStringifySocksArgs_injective stringified stringified⟩

end Nuon.Transports
