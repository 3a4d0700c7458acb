import PivotOracle.Text

/-!
# UTF-8

Bytes are read as text without loss: a well-formed sequence becomes its character, and each byte
outside such a sequence stays a stray byte. `Text.utf8_ofUtf8` says that writing the text back gives
the same bytes.
-/

namespace PivotOracle

/-- The bytes of a symbol. -/
def Symbol.utf8 : Symbol → List UInt8
  | .char c => String.utf8EncodeChar c
  | .byte b => [b]

namespace Text

/-- The bytes of a text. -/
def utf8 (t : Text) : List UInt8 := t.flatMap Symbol.utf8

/-- The code point that the first bytes would stand for, by the length that the first one
announces. Whether they do is for `leadingChar?` to say. -/
def leadingCode (bytes : List UInt8) : Nat :=
  let byte (i : Nat) : Nat := (bytes.getD i 0).toNat
  let tail (i : Nat) : Nat := byte i % 64
  if byte 0 < 0x80 then byte 0
  else if byte 0 < 0xE0 then byte 0 % 32 * 64 + tail 1
  else if byte 0 < 0xF0 then (byte 0 % 16 * 64 + tail 1) * 64 + tail 2
  else ((byte 0 % 8 * 64 + tail 1) * 64 + tail 2) * 64 + tail 3

/-- The character whose encoding starts the bytes, and the bytes after it. -/
def leadingChar? (bytes : List UInt8) : Option (Char × List UInt8) :=
  let c := Char.ofNat (leadingCode bytes)
  let encoding := String.utf8EncodeChar c
  if encoding.isPrefixOf bytes then some (c, bytes.drop encoding.length) else none

theorem eq_append_of_leadingChar? {bytes rest : List UInt8} {c : Char}
    (h : leadingChar? bytes = some (c, rest)) : bytes = String.utf8EncodeChar c ++ rest := by
  simp only [leadingChar?] at h
  split at h
  · next hp =>
    cases h
    exact (List.prefix_iff_eq_append.1 (List.isPrefixOf_iff_prefix.1 hp)).symm
  · cases h

theorem utf8EncodeChar_length_pos (c : Char) : 0 < (String.utf8EncodeChar c).length := by
  rw [String.length_utf8EncodeChar]
  exact Char.utf8Size_pos c

theorem length_lt_of_leadingChar? {bytes rest : List UInt8} {c : Char}
    (h : leadingChar? bytes = some (c, rest)) : rest.length < bytes.length := by
  rw [eq_append_of_leadingChar? h, List.length_append]
  have := utf8EncodeChar_length_pos c
  omega

/-- The text that bytes hold. -/
def ofUtf8 (bytes : List UInt8) : Text :=
  match _h : leadingChar? bytes with
  | some (c, rest) => .char c :: ofUtf8 rest
  | none =>
    match bytes with
    | [] => []
    | b :: rest => .byte b :: ofUtf8 rest
termination_by bytes.length
decreasing_by
  · exact length_lt_of_leadingChar? _h
  · simp

/-- Reading bytes as text loses nothing. -/
theorem utf8_ofUtf8 (bytes : List UInt8) : (ofUtf8 bytes).utf8 = bytes := by
  fun_induction ofUtf8 bytes with
  | case1 bytes c rest h ih =>
    simp only [utf8, List.flatMap_cons, Symbol.utf8] at ih ⊢
    rw [ih]
    exact (eq_append_of_leadingChar? h).symm
  | case2 => rfl
  | case3 b rest h ih =>
    simp only [utf8, List.flatMap_cons, Symbol.utf8] at ih ⊢
    rw [ih]
    rfl

end Text

end PivotOracle
