import PivotOracle.Text.Printable

/-!
# Quoted form

A message shows a text between quotes on one line of visible characters: single quotes, or double
ones where that avoids an escape. What is not printable is written by its code point.
-/

namespace PivotOracle

/-- `n` in hexadecimal, with at least `width` digits. -/
def hexDigits (width n : Nat) : List Char :=
  let digits := Nat.toDigits 16 n
  List.replicate (width - digits.length) '0' ++ digits

namespace Text

/-- The quote around a text: a single one, unless the text holds single quotes and no double
one. -/
def quoteFor (t : Text) : Char :=
  if t.contains (.char '\'') && !t.contains (.char '"') then '"' else '\''

/-- How a symbol is written between the quotes `quote`. -/
def quotedSymbol (quote : Char) (s : Symbol) : List Char :=
  if s = .char quote then ['\\', quote]
  else if s = .char '\\' then ['\\', '\\']
  else if s = .char '\n' then ['\\', 'n']
  else if s = .char '\r' then ['\\', 'r']
  else if s = .char '\t' then ['\\', 't']
  else if s.isPrintable then s.char?.toList
  else if s.code < 0x100 then '\\' :: 'x' :: hexDigits 2 s.code
  else if s.code < 0x10000 then '\\' :: 'u' :: hexDigits 4 s.code
  else '\\' :: 'U' :: hexDigits 8 s.code

/-- The form of a text in messages. -/
def quoted (t : Text) : Text :=
  let quote := t.quoteFor
  .char quote :: (t.flatMap fun s => (quotedSymbol quote s).map .char) ++ [.char quote]

end Text

end PivotOracle
