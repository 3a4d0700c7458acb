import PivotOracle.Data
import PivotOracle.Text.LowerCase

/-!
# Vocabularies

An enumeration of the language of expressions has for each member a name, which messages use, and a
spelling, which documents use. A vocabulary holds both, and says by which other words a member may be
meant and whether case matters.

* `Vocabulary.find?` — the member that a word means, case taken as it stands.
* `Vocabulary.read` — the member that given data means, or why there is none.
-/

namespace PivotOracle

/-- The words for the members of an enumeration. -/
structure Vocabulary (α : Type) where
  /-- The name of the enumeration. -/
  title : Text
  /-- The members, in declared order. -/
  members : List α
  /-- The name of a member. -/
  name : α → Text
  /-- The word that stands for a member in documents. -/
  spelling : α → Text
  /-- Further words for members. -/
  aliases : List (Text × α) := []
  /-- Whether a word in capitals means what it means in lower case. -/
  ignoresCase : Bool := false

/-- Data that is no word of a vocabulary, as a message shows it, and the title of the vocabulary. -/
structure UnknownWord where
  shown : Text
  title : Text
deriving DecidableEq, Repr

/-- The message about an unknown word. -/
def UnknownWord.message (u : UnknownWord) : Text := u.shown ++ " is not a valid " ++ u.title

namespace Vocabulary

variable {α : Type}

/-- The member that a word means as it stands. -/
def find? (v : Vocabulary α) (word : Text) : Option α :=
  match v.members.find? fun a => v.spelling a = word with
  | some a => some a
  | none => v.aliases.lookup word

/-- The member that data means. Where case does not matter, what is not found as it stands is tried
once more in lower case, and the message then shows it so. -/
def read (v : Vocabulary α) (d : Data) : Except UnknownWord α :=
  let found := match d with
    | .text word => v.find? word
    | _ => none
  match found with
  | some a => .ok a
  | none =>
    let lowered := d.shown.lower
    if v.ignoresCase ∧ lowered ≠ d.shown then
      match v.find? lowered with
      | some a => .ok a
      | none => .error ⟨lowered.quoted, v.title⟩
    else .error ⟨d.literal, v.title⟩

/-- A member as messages about the enumeration show it. -/
def qualifiedName (v : Vocabulary α) (a : α) : Text := v.title ++ "." ++ v.name a

end Vocabulary

end PivotOracle
