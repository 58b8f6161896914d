import Mathlib.Data.Nat.Digits

/-!
# C strings and the string helpers of `lib/string`

Text is modelled as a `List Char`. A C buffer may hold NUL bytes; `cstr` cuts it at the first
one, which is what `strlen`, `strcmp` and friends see.

Modelled from the spec: the helpers below (`strcmpstart`, `tor_parse_long`,
`smartlist_split_string`, `hex_decode_digit`, ...) live in `lib/` files that are not among the
sources, and the C library functions they stand beside in none; each is modelled by the contract
its callers rely on, and the comparison helpers return `0` exactly when the C function does, which
is all their callers test.
-/

namespace Nuon

/-- Modelled from the spec: `TOR_ISSPACE`: the six ASCII white-space characters. -/
def torIsSpace (c : Char) : Bool :=
  c = ' ' || c = '\t' || c = '\n' || c = '\r' || c = '\x0b' || c = '\x0c'

/-- The C string stored at the start of a buffer: everything before the first NUL. -/
def cstr (buf : List Char) : List Char :=
  buf.takeWhile (· ≠ '\x00')

/-- Modelled from the spec: `strlen` of the C string at the start of a buffer. -/
def strlen (buf : List Char) : Nat :=
  (cstr buf).length

/-- Modelled from the spec: `strcmpstart(s1, s2)`: `0` iff the C string `s1` starts with `s2`. -/
def strcmpstart (s1 s2 : List Char) : Int :=
  if cstr s2 <+: cstr s1 then 0 else 1

/-- Modelled from the spec: `strcmpend(s1, s2)`: `0` iff the C string `s1` ends with `s2`. -/
def strcmpend (s1 s2 : List Char) : Int :=
  if cstr s2 <:+ cstr s1 then 0 else 1

/-- Modelled from the spec: ASCII `tolower`, applied character by character by the case-insensitive
comparisons. -/
def lowerAscii (s : List Char) : List Char :=
  s.map Char.toLower

/-- Modelled from the spec: `strcasecmp(s1, s2)`: `0` iff the two C strings agree up to ASCII
case. -/
def strcasecmp (s1 s2 : List Char) : Int :=
  if lowerAscii (cstr s1) = lowerAscii (cstr s2) then 0 else 1

/-- Modelled from the spec: `strcasecmpend(s1, s2)`: `0` iff `s1` ends with `s2` up to ASCII
case. -/
def strcasecmpend (s1 s2 : List Char) : Int :=
  if lowerAscii (cstr s2) <:+ lowerAscii (cstr s1) then 0 else 1

/-- Modelled from the spec: `hex_decode_digit`: the value of a hexadecimal digit of either case,
`-1` otherwise. -/
def hexDecodeDigit (c : Char) : Int :=
  if '0' ≤ c ∧ c ≤ '9' then c.toNat - '0'.toNat
  else if 'a' ≤ c ∧ c ≤ 'f' then c.toNat - 'a'.toNat + 10
  else if 'A' ≤ c ∧ c ≤ 'F' then c.toNat - 'A'.toNat + 10
  else -1

/-- Modelled from the spec: the character printed for one decimal digit. -/
def digitChar (d : Nat) : Char :=
  Char.ofNat ('0'.toNat + d)

/-- Modelled from the spec: `printf("%u")` (and `"%d"` of a non-negative value): the decimal digits,
most significant first, with `"0"` for zero. -/
def decimalChars (n : Nat) : List Char :=
  if n = 0 then ['0'] else ((Nat.digits 10 n).map digitChar).reverse

/-- Modelled from the spec: the number a run of decimal digits denotes, as `strtol` accumulates
it. -/
def decimalValue (digits : List Char) : Nat :=
  digits.foldl (fun acc c => 10 * acc + (c.toNat - '0'.toNat)) 0

/-- A wider integer converted to a 32-bit `int`, modulo `2^32`. -/
def int32OfInt (v : Int) : Int :=
  if v % 2 ^ 32 < 2 ^ 31 then v % 2 ^ 32 else v % 2 ^ 32 - 2 ^ 32

/-- The outcome of `tor_parse_long` / `tor_parse_ulong`: the value returned, `*ok`, and the
position `*next` is set to. -/
structure Parsed (α : Type) where
  value : α
  ok : Bool
  next : List Char
  deriving Repr, DecidableEq

/-- Modelled from the spec: the optional sign `strtol` accepts: whether it was `-`, and the text
after it. -/
def splitSign : List Char → Bool × List Char
  | '-' :: rest => (true, rest)
  | '+' :: rest => (false, rest)
  | rest => (false, rest)

/-- Modelled from the spec: the scan of `strtol(s, &endptr, 10)`: leading white space, an optional
sign and at least one digit. Returns the sign, the magnitude and the unread rest; `none` when no
digit is read (then `endptr == s`). -/
def strtolScan (s : List Char) : Option (Bool × Nat × List Char) :=
  let signed := splitSign (s.dropWhile torIsSpace)
  let digits := signed.2.takeWhile Char.isDigit
  if digits = [] then none
  else some (signed.1, decimalValue digits, signed.2.dropWhile Char.isDigit)

/-- Modelled from the spec: `tor_parse_long(s, 10, min, max, &ok, next)`, with `hasNext` telling
whether the caller passed a `next` pointer (without one, trailing characters are an error). -/
def torParseLong (s : List Char) (min max : Int) (hasNext : Bool) : Parsed Int :=
  match strtolScan s with
  | none => ⟨0, false, s⟩
  | some (negative, magnitude, rest) =>
    let r : Int := if negative then -(magnitude : Int) else magnitude
    if r < -2 ^ 63 ∨ 2 ^ 63 - 1 < r then ⟨0, false, rest⟩
    else if !hasNext ∧ rest ≠ [] then ⟨0, false, rest⟩
    else if max < min then ⟨0, false, rest⟩
    else if r < min ∨ max < r then ⟨0, false, rest⟩
    else ⟨r, true, rest⟩

/-- Modelled from the spec: `tor_parse_ulong(s, 10, min, max, &ok, next)` on a 64-bit
`unsigned long`: `strtoul` negates a leading `-` modulo `2^64` and reports `ERANGE` past
`ULONG_MAX`. -/
def torParseULong (s : List Char) (min max : Nat) (hasNext : Bool) : Parsed Nat :=
  match strtolScan s with
  | none => ⟨0, false, s⟩
  | some (negative, magnitude, rest) =>
    let r : Nat := if negative then (2 ^ 64 - magnitude) % 2 ^ 64 else magnitude
    if 2 ^ 64 - 1 < magnitude then ⟨0, false, rest⟩
    else if !hasNext ∧ rest ≠ [] then ⟨0, false, rest⟩
    else if max < min then ⟨0, false, rest⟩
    else if r < min ∨ max < r then ⟨0, false, rest⟩
    else ⟨r, true, rest⟩

/-- Modelled from the spec: `strstr` followed by a cut: the text before the first occurrence of
`sep` and, when there is one, the text after it. -/
def splitAtSep (sep : List Char) : List Char → List Char × Option (List Char)
  | [] => ([], none)
  | c :: rest =>
    if sep <+: c :: rest then ([], some ((c :: rest).drop sep.length))
    else
      let cut := splitAtSep sep rest
      (c :: cut.1, cut.2)

/-- Modelled from the spec: the cut of `smartlist_split_string` with a `NULL` separator: at the
first space or tab, the spaces and tabs after it skipped. -/
def splitAtBlanks : List Char → List Char × Option (List Char)
  | [] => ([], none)
  | c :: rest =>
    if c = ' ' ∨ c = '\t' then ([], some (rest.dropWhile fun d => d = ' ' ∨ d = '\t'))
    else
      let cut := splitAtBlanks rest
      (c :: cut.1, cut.2)

/-- Modelled from the spec: the loop of `smartlist_split_string`, cutting with `cutAt`, bounded by
`fuel`. -/
def smartlistSplitStringAux (cutAt : List Char → List Char × Option (List Char))
    (skipSpace ignoreBlank : Bool) : Nat → List Char → List (List Char)
  | 0, _ => []
  | fuel + 1, cp =>
    let cp := if skipSpace then cp.dropWhile torIsSpace else cp
    let cut := cutAt cp
    let piece := if skipSpace then (cut.1.reverse.dropWhile torIsSpace).reverse else cut.1
    let pieces := if piece = [] ∧ ignoreBlank then [] else [piece]
    match cut.2 with
    | none => pieces
    | some rest => pieces ++ smartlistSplitStringAux cutAt skipSpace ignoreBlank fuel rest

/-- Modelled from the spec: `smartlist_split_string(sl, s, sep, flags, 0)` with `SPLIT_SKIP_SPACE`
and `SPLIT_IGNORE_BLANK` given as booleans. -/
def smartlistSplitString (s sep : List Char) (skipSpace ignoreBlank : Bool) :
    List (List Char) :=
  smartlistSplitStringAux (splitAtSep sep) skipSpace ignoreBlank (s.length + 1) s

/-- Modelled from the spec: `smartlist_split_string(sl, s, NULL, flags, -1)`: split at runs of
spaces and tabs. -/
def smartlistSplitStringBlanks (s : List Char) (skipSpace ignoreBlank : Bool) :
    List (List Char) :=
  smartlistSplitStringAux splitAtBlanks skipSpace ignoreBlank (s.length + 1) s

/-! ## C strings in buffers -/

/-- `strcmpstart` is `0` exactly on a prefix. -/
theorem strcmpstart_eq_zero {s1 s2 : List Char} : strcmpstart s1 s2 = 0 ↔ cstr s2 <+: cstr s1 := by
  unfold strcmpstart
  split <;> simp_all

/-- `strcmpend` is `0` exactly on a suffix. -/
theorem strcmpend_eq_zero {s1 s2 : List Char} : strcmpend s1 s2 = 0 ↔ cstr s2 <:+ cstr s1 := by
  unfold strcmpend
  split <;> simp_all

/-- A C string holds no NUL. -/
theorem cstr_nulFree (buf : List Char) : '\x00' ∉ cstr buf := fun member => by
  simpa using List.mem_takeWhile_imp member

/-- The C string of a buffer starting with NUL-free text runs on past it. -/
theorem cstr_append_of_nulFree {s : List Char} (nulFree : '\x00' ∉ s) (t : List Char) :
    cstr (s ++ t) = s ++ cstr t := by
  unfold cstr
  rw [List.takeWhile_append_of_pos fun c member => decide_eq_true (ne_of_mem_of_not_mem member nulFree)]

/-- Text without NUL is its own C string. -/
theorem cstr_of_nulFree {s : List Char} (nulFree : '\x00' ∉ s) : cstr s = s := by
  simpa [cstr] using cstr_append_of_nulFree nulFree []

/-- Lowering the case works character by character. -/
theorem lowerAscii_append (s t : List Char) : lowerAscii (s ++ t) = lowerAscii s ++ lowerAscii t :=
  List.map_append _ _ _

/-- Text without NUL is its own C string, whatever NUL padding follows it. -/
theorem cstr_append_replicate_nul {s : List Char} (nulFree : '\x00' ∉ s) (n : Nat) :
    cstr (s ++ List.replicate n '\x00') = s := by
  rw [cstr_append_of_nulFree nulFree]
  cases n <;> simp [cstr]

/-- The C string at offset `k` of NUL-padded text is the text from `k` on. -/
theorem cstr_drop_padded {s : List Char} (nulFree : '\x00' ∉ s) (n k : Nat) :
    cstr ((s ++ List.replicate n '\x00').drop k) = s.drop k := by
  rw [List.drop_append_eq_append_drop, List.drop_replicate]
  exact cstr_append_replicate_nul (fun member => nulFree (List.mem_of_mem_drop member)) _

/-! ## Decimal numbers -/

/-- A decimal digit prints as a digit character that reads back as itself. -/
theorem digitChar_spec {d : Nat} (small : d < 10) :
    (digitChar d).isDigit ∧ (digitChar d).toNat - '0'.toNat = d := by
  interval_cases d <;> decide

private theorem decimalValue_reverse_map (ds : List Nat) (small : ∀ d ∈ ds, d < 10) :
    decimalValue ((ds.map digitChar).reverse) = Nat.ofDigits 10 ds := by
  induction ds with
  | nil => rfl
  | cons d ds inductionHypothesis =>
    have tail := inductionHypothesis fun e member => small e (List.mem_cons_of_mem d member)
    have head := (digitChar_spec (small d (List.mem_cons_self d ds))).2
    simp only [decimalValue, List.map_cons, List.reverse_cons, List.foldl_append,
      List.foldl_cons, List.foldl_nil, Nat.ofDigits_cons] at tail ⊢
    rw [tail, head]
    omega

/-- Reading back what `%u` prints gives the number. -/
theorem decimalValue_decimalChars (n : Nat) : decimalValue (decimalChars n) = n := by
  unfold decimalChars
  split
  · subst n; rfl
  · rw [decimalValue_reverse_map _ fun d member => Nat.digits_lt_base (by norm_num) member,
      Nat.ofDigits_digits]

/-- `%u` prints only digits. -/
theorem decimalChars_isDigit (n : Nat) : ∀ c ∈ decimalChars n, c.isDigit := by
  unfold decimalChars
  split
  · decide
  · simp only [List.mem_reverse, List.mem_map]
    rintro c ⟨d, member, rfl⟩
    exact (digitChar_spec (Nat.digits_lt_base (by norm_num) member)).1

/-- `%u` prints at most three digits for a byte. -/
theorem decimalChars_length_le {n : Nat} (small : n < 256) : (decimalChars n).length ≤ 3 := by
  unfold decimalChars
  split
  · simp
  · simpa using (Nat.le_digits_len_le 10 n 255 (by omega)).trans (by norm_num)

/-- `%u` prints at least one digit. -/
theorem decimalChars_ne_nil (n : Nat) : decimalChars n ≠ [] := by
  unfold decimalChars
  split
  · simp
  · simpa [Nat.digits_ne_nil_iff_ne_zero]

private theorem digit_not_space {c : Char} (digit : c.isDigit) : torIsSpace c = false := by
  simp only [Char.isDigit, Bool.and_eq_true, decide_eq_true_eq] at digit
  simp only [torIsSpace, Bool.or_eq_false_iff, decide_eq_false_iff_not]
  refine ⟨⟨⟨⟨⟨?_, ?_⟩, ?_⟩, ?_⟩, ?_⟩, ?_⟩ <;> rintro rfl <;> revert digit <;> decide

private theorem splitSign_digit {c : Char} (digit : c.isDigit) (rest : List Char) :
    splitSign (c :: rest) = (false, c :: rest) := by
  have notMinus : c ≠ '-' := by rintro rfl; revert digit; decide
  have notPlus : c ≠ '+' := by rintro rfl; revert digit; decide
  simp [splitSign, notMinus, notPlus]

/-- `strtol` reads a run of digits up to the first non-digit and leaves `endptr` there. -/
theorem strtolScan_digits_append {ds rest : List Char} (nonempty : ds ≠ [])
    (digits : ∀ c ∈ ds, c.isDigit) (stop : ∀ c ∈ rest.head?, c.isDigit = false) :
    strtolScan (ds ++ rest) = some (false, decimalValue ds, rest) := by
  obtain ⟨c, cs, rfl⟩ := List.exists_cons_of_ne_nil nonempty
  have headDigit := digits c (List.mem_cons_self c cs)
  have noSpace : (c :: (cs ++ rest)).dropWhile torIsSpace = c :: (cs ++ rest) := by
    simp [List.dropWhile_cons, digit_not_space headDigit]
  have takes : (c :: (cs ++ rest)).takeWhile Char.isDigit = c :: cs := by
    rw [← List.cons_append]
    rw [List.takeWhile_append_of_pos digits]
    cases rest with
    | nil => simp
    | cons r rs => simp [List.takeWhile_cons, stop r rfl]
  have drops : (c :: (cs ++ rest)).dropWhile Char.isDigit = rest := by
    rw [← List.cons_append]
    rw [List.dropWhile_append_of_pos digits]
    cases rest with
    | nil => simp
    | cons r rs => simp [List.dropWhile_cons, stop r rfl]
  simp [strtolScan, noSpace, splitSign_digit headDigit, takes, drops]

/-- `tor_parse_ulong` without `next` reads back every in-range number printed by `%u`. -/
theorem torParseULong_decimalChars {n min max : Nat} (low : min ≤ n) (high : n ≤ max)
    (fits : n < 2 ^ 64) : torParseULong (decimalChars n) min max false = ⟨n, true, []⟩ := by
  have scan : strtolScan (decimalChars n ++ []) = _ :=
    strtolScan_digits_append (decimalChars_ne_nil n) (decimalChars_isDigit n) (by simp)
  rw [List.append_nil, decimalValue_decimalChars] at scan
  simp only [torParseULong, scan, Bool.false_eq_true, if_false]
  rw [if_neg (by omega), if_neg (by simp), if_neg (by omega), if_neg (by omega)]

/-- `tor_parse_long` without `next` reads back every in-range number printed by `%u`. -/
theorem torParseLong_decimalChars {n : Nat} {min max : Int} (low : min ≤ n) (high : n ≤ max)
    (fits : n < 2 ^ 63) : torParseLong (decimalChars n) min max false = ⟨n, true, []⟩ := by
  have scan : strtolScan (decimalChars n ++ []) = _ :=
    strtolScan_digits_append (decimalChars_ne_nil n) (decimalChars_isDigit n) (by simp)
  rw [List.append_nil, decimalValue_decimalChars] at scan
  simp only [torParseLong, scan, Bool.false_eq_true, if_false]
  rw [if_neg (by omega), if_neg (by simp), if_neg (by omega), if_neg (by omega)]

/-- A value that fits in an `int` keeps its value. -/
theorem int32OfInt_of_lt {v : Int} (lo : -2 ^ 31 ≤ v) (hi : v < 2 ^ 31) : int32OfInt v = v := by
  unfold int32OfInt; split_ifs <;> omega

/-- What `tor_parse_long` accepts lies in the range it was asked for. -/
theorem torParseLong_range {s : List Char} {min max : Int} {hasNext : Bool}
    (ok : (torParseLong s min max hasNext).ok = true) :
    min ≤ (torParseLong s min max hasNext).value ∧ (torParseLong s min max hasNext).value ≤ max := by
  unfold torParseLong at ok ⊢
  generalize strtolScan s = scan at ok ⊢
  rcases scan with _ | ⟨negative, magnitude, rest⟩
  · cases ok
  · dsimp only at ok ⊢
    split_ifs at ok ⊢
    all_goals dsimp only at ok ⊢; omega

/-! ## Splitting -/

private theorem dropWhile_space_digits {w : List Char} (digits : ∀ c ∈ w, c.isDigit)
    (rest : List Char) (nonempty : w ≠ []) : (w ++ rest).dropWhile torIsSpace = w ++ rest := by
  obtain ⟨c, cs, rfl⟩ := List.exists_cons_of_ne_nil nonempty
  simp [List.dropWhile_cons, digit_not_space (digits c (List.mem_cons_self c cs))]

private theorem splitAtSep_digits {w : List Char} (digits : ∀ c ∈ w, c.isDigit) (rest : List Char) :
    splitAtSep [' '] (w ++ rest) =
      if [' '] <+: rest then (w, some (rest.drop 1))
      else (w ++ (splitAtSep [' '] rest).1, (splitAtSep [' '] rest).2) := by
  induction w with
  | nil => cases rest <;> simp [splitAtSep]; split <;> simp
  | cons c cs inductionHypothesis =>
    have notSep : ¬ [' '] <+: c :: (cs ++ rest) := by
      have digit := digits c (List.mem_cons_self c cs)
      simp only [List.cons_prefix_cons, List.nil_prefix, and_true]
      rintro rfl
      revert digit
      decide
    rw [List.cons_append, splitAtSep, if_neg notSep,
      inductionHypothesis fun d member => digits d (List.mem_cons_of_mem c member)]
    split <;> rfl

/-- Two numbers printed by `%u` with a space between split back into their digits. -/
theorem smartlistSplitString_decimalPair (a b : Nat) :
    smartlistSplitString (decimalChars a ++ ' ' :: decimalChars b) [' '] true true =
      [decimalChars a, decimalChars b] := by
  have aDigits := decimalChars_isDigit a
  have bDigits := decimalChars_isDigit b
  have firstCut : splitAtSep [' '] (decimalChars a ++ ' ' :: decimalChars b) =
      (decimalChars a, some (decimalChars b)) := by
    rw [splitAtSep_digits aDigits]
    simp
  have lastCut : splitAtSep [' '] (decimalChars b) = (decimalChars b, none) := by
    simpa [splitAtSep] using splitAtSep_digits bDigits []
  have trim : ∀ n, ((decimalChars n).reverse.dropWhile torIsSpace).reverse = decimalChars n := by
    intro n
    have kept := dropWhile_space_digits (w := (decimalChars n).reverse)
      (by simpa using decimalChars_isDigit n) [] (by simpa using decimalChars_ne_nil n)
    rw [List.append_nil] at kept
    rw [kept, List.reverse_reverse]
  have bKept : (decimalChars b).dropWhile torIsSpace = decimalChars b := by
    simpa using dropWhile_space_digits bDigits [] (decimalChars_ne_nil b)
  unfold smartlistSplitString
  rw [show (decimalChars a ++ ' ' :: decimalChars b).length + 1 =
    (decimalChars a).length + (decimalChars b).length + 1 + 1 by simp; omega]
  simp only [smartlistSplitStringAux, if_true, dropWhile_space_digits aDigits _ (decimalChars_ne_nil a),
    firstCut, trim, decimalChars_ne_nil, false_and, if_false, bKept, lastCut]
  rfl

end Nuon
