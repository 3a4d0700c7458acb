import PivotOracle.Text

/-!
# Control sequences

A terminal takes the escape character, a bracket, parameters and a letter as an order to change colour or
move, and shows nothing of them. What is printed for a person is printed without such sequences.

* `Text.dropControls` — a text without its control sequences.
-/

namespace PivotOracle

/-- The character that starts a control sequence. -/
def escapeSymbol : Symbol := .char '\x1b'

/-- Whether a symbol can be part of the parameters of a control sequence. -/
def isControlParameter : Symbol → Bool
  | .char c => c.isDigit || c = ';' || c = '?'
  | .byte _ => false

/-- Whether a symbol is a letter of the Latin alphabet. -/
def Symbol.isLatinLetter : Symbol → Bool
  | .char c => c.isAlpha
  | .byte _ => false

namespace Text

/-- How many symbols a control sequence takes after its escape character, if what stands there makes
one. -/
def controlLength? : Text → Option Nat
  | .char '[' :: t =>
    let parameters := t.takeWhile isControlParameter
    if (t[parameters.length]?).any Symbol.isLatinLetter then some (parameters.length + 2) else none
  | _ => none

/-- A text without its control sequences, after the symbols that belong to one already found. -/
def dropControlsFrom : Nat → Text → Text
  | _, [] => []
  | found + 1, _ :: t => dropControlsFrom found t
  | 0, s :: t =>
    if s = escapeSymbol then
      match controlLength? t with
      | some length => dropControlsFrom length t
      | none => s :: dropControlsFrom 0 t
    else s :: dropControlsFrom 0 t

/-- A text without its control sequences. -/
def dropControls (t : Text) : Text := dropControlsFrom 0 t

end Text

end PivotOracle
