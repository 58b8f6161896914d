import Nuon.Text.CString

/-!
# Tagged data files

`crypto_format.c` stores a key as a 32-byte header, the NUL-padded text
`"== typestring: tag =="`, followed by the data. The reader checks the header piece by piece and
copies the tag out with `tor_strndup(prefix+5+strlen(typestring), strlen(prefix)-8-strlen(typestring))`.

Whatever the writer writes, the reader gives back (`cryptoReadTaggedContentsFromFile_written`).
The checks do not make the length of the tag non-negative, though: in `"== T: =="` the `": "`
after the type and the closing `" =="` share their space, every check passes, and the length
wraps to `SIZE_MAX` (`cryptoReadTaggedContentsFromFile_sharedSpace`).

File contents are lists of characters, one per byte; writing and reading the file are taken to
succeed, so a run starts from the bytes the file holds.
-/

namespace Nuon.Crypto

/-- The text `tor_snprintf(header, 32, "== %s: %s ==", typestring, tag)` prints. -/
def taggedHeaderText (typestring tag : List Char) : List Char :=
  "== ".toList ++ cstr typestring ++ ": ".toList ++ cstr tag ++ " ==".toList

/-- `crypto_write_tagged_contents_to_file(fname, typestring, tag, data, datalen)`: the bytes
written, the zeroed 32-byte header with the text in front, then the data. `tor_snprintf` returns
`-1` when the text and its NUL do not fit in 32 bytes, and then nothing is written (`none`). -/
def cryptoWriteTaggedContentsToFile (typestring tag data : List Char) : Option (List Char) :=
  let text := taggedHeaderText typestring tag
  if 32 ≤ text.length then none
  else some (text ++ List.replicate (32 - text.length) '\x00' ++ data)

/-- Modelled from the spec: `fast_mem_is_zero(mem, len)` on the `len` bytes given. -/
def fastMemIsZero (bytes : List Char) : Bool :=
  bytes.all (· = '\x00')

variable (torStrndup : List Char → Nat → Option (List Char))

/-- `crypto_read_tagged_contents_from_file(fname, typestring, &tag, data_out, data_out_len)` on a
file holding `content`: the return value, `*tag_out` and the bytes copied to `data_out`.
`tor_strndup` (`lib/malloc/malloc.c`, not among the sources) is a parameter, given the C string
at its pointer and the `size_t` length; the result is `none` when it aborts. -/
def cryptoReadTaggedContentsFromFile (typestring : List Char) (dataOutLen : Int)
    (content : List Char) : Option (Int × Option (List Char) × List Char) :=
  let header := content.take 32 ++ ['\x00']
  if content.length < 32 ∨ 32 + dataOutLen < content.length then some (-1, none, [])
  else if strcmpstart header "== ".toList ≠ 0 ∨ strcmpend header " ==".toList ≠ 0 ∨
      !fastMemIsZero ((header.drop (strlen header)).take (32 - strlen header)) then
    some (-1, none, [])
  else if strcmpstart (header.drop 3) typestring ≠ 0 ∨ 32 ≤ 3 + strlen typestring ∨
      strcmpstart (header.drop (3 + strlen typestring)) ": ".toList ≠ 0 then
    some (-1, none, [])
  else
    (torStrndup (cstr (header.drop (5 + strlen typestring)))
        (((strlen header : Int) - 8 - strlen typestring) % 2 ^ 64).toNat).map fun tag =>
      (content.length - 32, some tag, content.drop 32)

/-- What the reader relies on from `tor_strndup(s, n)`: for a length that fits in the header it
returns the first `n` characters of the C string `s`. -/
def CopiesShortStrings : Prop :=
  ∀ s n, n < 32 → torStrndup s n = some ((cstr s).take n)

/-! ## The writer -/

private theorem taggedHeaderText_length (typestring tag : List Char) :
    (taggedHeaderText typestring tag).length = 8 + strlen typestring + strlen tag := by
  simp only [taggedHeaderText, List.length_append, strlen]
  simp
  omega

private theorem taggedHeaderText_nulFree (typestring tag : List Char) :
    '\x00' ∉ taggedHeaderText typestring tag := by
  simp only [taggedHeaderText, List.mem_append, not_or]
  exact ⟨⟨⟨⟨by decide, cstr_nulFree typestring⟩, by decide⟩, cstr_nulFree tag⟩, by decide⟩

/-- The writer fails exactly when the type and the tag together are longer than 23 characters
(the comment above it allows 24). -/
theorem cryptoWriteTaggedContentsToFile_eq_none_iff (typestring tag data : List Char) :
    cryptoWriteTaggedContentsToFile typestring tag data = none ↔
      23 < strlen typestring + strlen tag := by
  simp only [cryptoWriteTaggedContentsToFile, taggedHeaderText_length]
  split <;> simp <;> omega

/-! ## The reader on a NUL-padded header -/

section Reader

variable {torStrndup}

/-- On a header holding NUL-free text padded with NULs, the reader's checks are checks of the
text, and the tag is read from the text. -/
theorem cryptoReadTaggedContentsFromFile_padded (typestring : List Char) {text data : List Char}
    (nulFree : '\x00' ∉ text) (short : text.length < 32) {dataOutLen : Int}
    (room : data.length ≤ dataOutLen) :
    cryptoReadTaggedContentsFromFile torStrndup typestring dataOutLen
        (text ++ List.replicate (32 - text.length) '\x00' ++ data) =
      if "== ".toList <+: text ∧ " ==".toList <:+ text ∧ cstr typestring <+: text.drop 3 ∧
          3 + strlen typestring < 32 ∧ ": ".toList <+: text.drop (3 + strlen typestring) then
        (torStrndup (text.drop (5 + strlen typestring))
            (((text.length : Int) - 8 - strlen typestring) % 2 ^ 64).toNat).map fun tag =>
          ((data.length : Int), some tag, data)
      else some (-1, none, []) := by
  have padded : (text ++ List.replicate (32 - text.length) '\x00').length = 32 := by
    simp only [List.length_append, List.length_replicate]
    omega
  have header : (text ++ List.replicate (32 - text.length) '\x00' ++ data).take 32 ++ ['\x00'] =
      text ++ List.replicate (33 - text.length) '\x00' := by
    rw [List.take_left' padded, List.append_assoc, ← List.replicate_succ']
    exact congrArg (fun n => text ++ List.replicate n '\x00') (by omega)
  have cut := cstr_drop_padded nulFree (33 - text.length)
  have whole : cstr (text ++ List.replicate (33 - text.length) '\x00') = text := by
    simpa using cut 0
  have zero : fastMemIsZero (((text ++ List.replicate (33 - text.length) '\x00').drop
      text.length).take (32 - text.length)) = true := by
    simp [fastMemIsZero, List.take_replicate]
  have literal : ∀ s : List Char, '\x00' ∉ s → cstr s = s := fun s nul => by
    simpa using cstr_append_replicate_nul nul 0
  simp only [cryptoReadTaggedContentsFromFile, header, strlen, whole, cut, zero, ne_eq,
    strcmpstart_eq_zero, strcmpend_eq_zero, List.length_append, List.length_replicate,
    literal "== ".toList (by decide), literal " ==".toList (by decide),
    literal ": ".toList (by decide), List.drop_left' padded]
  have long : ¬(text.length + (32 - text.length) + data.length < 32 ∨
      32 + dataOutLen < ((text.length + (32 - text.length) + data.length : Nat) : Int)) := by
    omega
  have count : ((text.length + (32 - text.length) + data.length : Nat) : Int) - 32 =
      data.length := by
    omega
  rw [if_neg long, count]
  simp only [Bool.not_true, Bool.false_eq_true, or_false, ← Nat.not_lt, ← not_and_or, ite_not,
    ite_and]

/-- The reader's checks pass on a header holding `"== "`, the type, `": "` and a text ending in
`" =="`, and the tag is read from after the `": "`. -/
private theorem typedHeader_spec (typestring tail text : List Char)
    (shape : text = "== ".toList ++ (cstr typestring ++ (": ".toList ++ tail)))
    (short : 3 + strlen typestring < 32) (ends : " ==".toList <:+ ": ".toList ++ tail) :
    ("== ".toList <+: text ∧ " ==".toList <:+ text ∧ cstr typestring <+: text.drop 3 ∧
        3 + strlen typestring < 32 ∧ ": ".toList <+: text.drop (3 + strlen typestring)) ∧
      text.drop (5 + strlen typestring) = tail := by
  subst shape
  have afterType : ("== ".toList ++ (cstr typestring ++ (": ".toList ++ tail))).drop 3 =
      cstr typestring ++ (": ".toList ++ tail) :=
    List.drop_left' rfl
  have afterColon : ("== ".toList ++ (cstr typestring ++ (": ".toList ++ tail))).drop
      (3 + strlen typestring) = ": ".toList ++ tail := by
    rw [← List.drop_drop, afterType, strlen, List.drop_left]
  refine ⟨⟨List.prefix_append _ _, ends.trans ((List.suffix_append _ _).trans (List.suffix_append _ _)),
    by rw [afterType]; exact List.prefix_append _ _, short,
    by rw [afterColon]; exact List.prefix_append _ _⟩, ?_⟩
  rw [show 5 + strlen typestring = 3 + strlen typestring + 2 by omega, ← List.drop_drop, afterColon]
  exact List.drop_left' rfl

/-- Reading what the writer wrote gives back its tag, as a C string, and its data. -/
theorem cryptoReadTaggedContentsFromFile_written (copies : CopiesShortStrings torStrndup)
    {typestring tag data file : List Char}
    (written : cryptoWriteTaggedContentsToFile typestring tag data = some file) {dataOutLen : Int}
    (room : data.length ≤ dataOutLen) :
    cryptoReadTaggedContentsFromFile torStrndup typestring dataOutLen file =
      some ((data.length : Int), some (cstr tag), data) := by
  have fits : ¬32 ≤ (taggedHeaderText typestring tag).length := fun tooLong => by
    simp [cryptoWriteTaggedContentsToFile, tooLong] at written
  simp only [cryptoWriteTaggedContentsToFile, if_neg fits, Option.some.injEq] at written
  subst written
  have size := taggedHeaderText_length typestring tag
  obtain ⟨checks, atTag⟩ := typedHeader_spec typestring (cstr tag ++ " ==".toList)
    (taggedHeaderText typestring tag) (by simp only [taggedHeaderText, List.append_assoc]) (by omega)
    ((List.suffix_append _ _).trans (List.suffix_append _ _))
  have tagLength : (((taggedHeaderText typestring tag).length : Int) - 8 - strlen typestring) %
      2 ^ 64 = strlen tag := by
    rw [size, Int.emod_eq_of_lt (by omega) (by omega)]
    omega
  have copied : (cstr (cstr tag ++ " ==".toList)).take (strlen tag) = cstr tag := by
    rw [cstr_append_of_nulFree (cstr_nulFree tag), strlen, List.take_left]
  rw [cryptoReadTaggedContentsFromFile_padded typestring (taggedHeaderText_nulFree _ _) (by omega)
    room, if_pos checks, atTag, tagLength, Int.toNat_natCast, copies _ _ (by omega), copied]
  rfl

/-- A header whose `": "` and `" =="` share one space, `"== T: =="` for a type `T`, passes every
check of the reader, and the tag length `strlen(prefix)-8-strlen(typestring)` is `-1`, which as a
`size_t` is `SIZE_MAX`: the reader calls `tor_strndup("==", SIZE_MAX)` and returns whatever that
does. -/
theorem cryptoReadTaggedContentsFromFile_sharedSpaceAny (typestring data : List Char)
    (short : strlen typestring ≤ 24) {dataOutLen : Int} (room : data.length ≤ dataOutLen) :
    cryptoReadTaggedContentsFromFile torStrndup typestring dataOutLen
        ("== ".toList ++ cstr typestring ++ ": ==".toList ++
          List.replicate (25 - strlen typestring) '\x00' ++ data) =
      (torStrndup "==".toList (2 ^ 64 - 1)).map fun tag => ((data.length : Int), some tag, data) := by
  have nulFree : '\x00' ∉ "== ".toList ++ cstr typestring ++ ": ==".toList := by
    have := taggedHeaderText_nulFree typestring []
    simp only [taggedHeaderText, List.mem_append, not_or] at this ⊢
    exact ⟨this.1.1.1, by decide⟩
  have size : ("== ".toList ++ cstr typestring ++ ": ==".toList).length = 7 + strlen typestring := by
    simp [strlen]
    omega
  have padding : 25 - strlen typestring = 32 - ("== ".toList ++ cstr typestring ++ ": ==".toList).length := by
    omega
  obtain ⟨checks, atEnd⟩ := typedHeader_spec typestring "==".toList
    ("== ".toList ++ cstr typestring ++ ": ==".toList) (by rw [List.append_assoc]; rfl) (by omega)
    (by decide)
  have wrapped : (((7 + strlen typestring : Nat) : Int) - 8 - strlen typestring) % 2 ^ 64 =
      2 ^ 64 - 1 := by
    rw [show ((7 + strlen typestring : Nat) : Int) - 8 - strlen typestring = -1 by omega]
    rfl
  rw [padding, cryptoReadTaggedContentsFromFile_padded typestring nulFree (by omega) room, size,
    if_pos checks, atEnd, wrapped]
  rfl

end Reader

/-- The file of the type `"T"` whose header is `"== T: =="` and which holds no data: the reader
calls `tor_strndup("==", SIZE_MAX)`. -/
theorem cryptoReadTaggedContentsFromFile_sharedSpace :
    cryptoReadTaggedContentsFromFile torStrndup "T".toList 0
        ("== T: ==".toList ++ List.replicate 24 '\x00') =
      (torStrndup "==".toList (2 ^ 64 - 1)).map fun tag => (0, some tag, []) :=
  cryptoReadTaggedContentsFromFile_sharedSpaceAny "T".toList [] (by decide) (by decide)

end Nuon.Crypto
