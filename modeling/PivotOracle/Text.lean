/-!
# Text

What a SQL engine stores as text is a sequence of characters, but its driver may hand over bytes
that form no character. A text here is therefore a list of symbols, each a character or a stray
byte. Messages, SQL statements and reports are texts too, so that a stray byte survives in them.

* `Text.compare` — the order of texts: symbol by symbol, a proper prefix first.
* `Text.isUnicode` — a text without stray bytes.
-/

namespace PivotOracle

/-- One symbol of a text: a character, or a byte that belongs to no well-formed UTF-8 sequence. -/
inductive Symbol where
  | char (c : Char)
  | byte (b : UInt8)
deriving DecidableEq, Repr

/-- The place of a symbol in the order of symbols. A stray byte `b` stands at `0xDC00 + b`, a place
that no character has. -/
def Symbol.code : Symbol → Nat
  | .char c => c.toNat
  | .byte b => 0xDC00 + b.toNat

/-- The character of a symbol, if it is one. -/
def Symbol.char? : Symbol → Option Char
  | .char c => some c
  | .byte _ => none

/-- A sequence of symbols. -/
abbrev Text := List Symbol

namespace Text

/-- The text of a string of characters. -/
def ofString (s : String) : Text := s.toList.map .char

instance : Coe String Text := ⟨ofString⟩

/-- The string of a text without stray bytes. -/
def toString? (t : Text) : Option String :=
  (t.mapM Symbol.char?).map String.ofList

/-- Whether a text has no stray bytes, so that it is valid Unicode. -/
def isUnicode (t : Text) : Bool := t.all fun s => s.char?.isSome

@[simp] theorem isUnicode_ofString (s : String) : (ofString s).isUnicode = true := by
  simp [ofString, isUnicode, Symbol.char?]

/-- Texts are ordered symbol by symbol; a proper prefix comes first. -/
def compare : Text → Text → Ordering
  | [], [] => .eq
  | [], _ :: _ => .lt
  | _ :: _, [] => .gt
  | a :: s, b :: t => (Ord.compare a.code b.code).then (compare s t)

/-- A text with a replacement in the place of every occurrence of the symbol `s`. -/
def replace (t : Text) (s : Symbol) (replacement : Text) : Text :=
  t.flatMap fun x => if x = s then replacement else [x]

/-- The text without its trailing occurrences of a symbol. -/
def trimEnd (s : Symbol) (t : Text) : Text :=
  (t.reverse.dropWhile (· = s)).reverse

/-- Whether every symbol is a character that satisfies `p`. -/
def allChars (p : Char → Bool) (t : Text) : Bool :=
  t.all fun
    | .char c => p c
    | .byte _ => false

end Text

end PivotOracle
