import PivotOracle.Text

/-!
# Blanks

Two notions of blank: the white space of Unicode, and the wider set that also holds the four
information separators `U+001C` to `U+001F`.
-/

namespace PivotOracle

/-- The characters with the Unicode property White_Space. -/
def isWhiteSpace (c : Char) : Bool :=
  let n := c.toNat
  (9 ≤ n && n ≤ 13) || n = 0x20 || n = 0x85 || n = 0xA0 || n = 0x1680
    || (0x2000 ≤ n && n ≤ 0x200A) || n = 0x2028 || n = 0x2029 || n = 0x202F || n = 0x205F
    || n = 0x3000

/-- Whether a symbol leaves nothing to see: white space or an information separator. -/
def Symbol.isBlank : Symbol → Bool
  | .char c => isWhiteSpace c || (0x1C ≤ c.toNat && c.toNat ≤ 0x1F)
  | .byte _ => false

namespace Text

/-- Whether a text has no symbol but blanks. -/
def isBlank (t : Text) : Bool := t.all Symbol.isBlank

/-- The text without the white space at its two ends. -/
def trimWhiteSpace (t : Text) : Text :=
  let isWhite : Symbol → Bool := fun
    | .char c => isWhiteSpace c
    | .byte _ => false
  ((t.dropWhile isWhite).reverse.dropWhile isWhite).reverse

end Text

end PivotOracle
