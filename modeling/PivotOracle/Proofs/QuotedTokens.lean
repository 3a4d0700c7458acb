import PivotOracle.Proofs.Lexeme

/-!
# Tokens between quotes

How an engine takes a quoted token off the start of SQL text. A quote inside the token is written twice; in a text
literal of MySQL a backslash starts an escape too. The rules are those of the engines, with all escapes that they know,
and the texts of the dialects obey them: a literal and a quoted identifier end where they are meant to, whatever quotes
and backslashes they are made of, and are read as what was written. That an engine takes U+0000 for the end of all SQL
text is left out: these rules have no symbol that ends a text.

* `QuotingRules`, `QuotingRules.readToken` — the lexical rules of a quoted token.
* `Dialect.literalRules`, `Dialect.identifierRules` — the rules of the two engines.
* `QuotingRules.readBody_escaped` — an escaped text is read back, and reading goes on after it.
* `Dialect.readToken_written_iff` — a literal and a quoted identifier are read back exactly where no other quote follows.
-/

namespace PivotOracle

/-! ### Rules -/

/-- The lexical rules of a quoted token: the quote on both sides, and what a symbol after a backslash stands for where
a backslash starts an escape. -/
structure QuotingRules where
  quote : Symbol
  escape : Option (Symbol → Text)

namespace QuotingRules

/-- What the symbol after this one stands for, if this one starts an escape. -/
def escapeAfter (rules : QuotingRules) (s : Symbol) : Option (Symbol → Text) :=
  if s = .char '\\' then rules.escape else none

/-- The content of a token after its opening quote, and the text after its closing quote. A token that is not closed
is none. -/
def readBody (rules : QuotingRules) : Text → Option (Text × Text)
  | [] => none
  | [s] => if s = rules.quote then some ([], []) else none
  | s :: s' :: rest =>
    if s = rules.quote then
      if s' = rules.quote then
        (rules.readBody rest).map fun (content, rest) => (s :: content, rest)
      else some ([], s' :: rest)
    else match rules.escapeAfter s with
      | some escape => (rules.readBody rest).map fun (content, rest) => (escape s' ++ content, rest)
      | none => (rules.readBody (s' :: rest)).map fun (content, rest) => (s :: content, rest)

/-- The content of the quoted token that starts a text, and the text after it. -/
def readToken (rules : QuotingRules) : Text → Option (Text × Text)
  | [] => none
  | s :: rest => if s = rules.quote then rules.readBody rest else none

end QuotingRules

namespace Dialect

/-- What a symbol after a backslash stands for in a text literal of MySQL: some letters and the digit zero for control
characters; the two wildcards of patterns for themselves with the backslash; every other symbol for itself. -/
def mysqlEscape : Symbol → Text
  | .char '0' => [.char '\x00']
  | .char 'b' => [.char '\x08']
  | .char 't' => [.char '\t']
  | .char 'n' => [.char '\n']
  | .char 'r' => [.char '\r']
  | .char 'Z' => [.char '\x1a']
  | .char '%' => [.char '\\', .char '%']
  | .char '_' => [.char '\\', .char '_']
  | s => [s]

/-- The rules of text literals. -/
def literalRules : Dialect → QuotingRules
  | .mysql => ⟨.char '\'', some mysqlEscape⟩
  | .sqlite => ⟨.char '\'', none⟩

/-- The rules of quoted identifiers. -/
def identifierRules : Dialect → QuotingRules
  | .mysql => ⟨.char '`', none⟩
  | .sqlite => ⟨.char '"', none⟩

end Dialect

/-! ### Reading what is written -/

namespace QuotingRules

/-- Text that is written with backslashes twice, or not, is meant for these rules: a backslash after a backslash stands
for one, or a backslash starts no escape. -/
def Undoes (rules : QuotingRules) (escapes : Bool) : Prop :=
  if escapes then ∃ escape, rules.escape = some escape ∧ escape (.char '\\') = [.char '\\']
  else rules.escape = none

variable {rules : QuotingRules} {escapes : Bool}

/-- After the closing quote of a token no other quote follows; else it is one quote of the content. -/
theorem readBody_quote (rules : QuotingRules) (rest : Text) :
    rules.readBody (rules.quote :: rest) =
      match rest with
      | [] => some ([], [])
      | s :: rest =>
        if s = rules.quote then
          (rules.readBody rest).map fun (content, rest) => (rules.quote :: content, rest)
        else some ([], s :: rest) := by
  cases rest with
  | nil => simp [readBody]
  | cons s rest => simp [readBody]

/-- A symbol that is no quote and starts no escape stands for itself. -/
theorem readBody_plain {s : Symbol} (notQuote : s ≠ rules.quote) (plain : rules.escapeAfter s = none) (rest : Text) :
    rules.readBody (s :: rest) =
      (rules.readBody rest).map fun (content, rest) => (s :: content, rest) := by
  cases rest with
  | nil => simp [readBody, notQuote]
  | cons s' rest => simp [readBody, notQuote, plain]

/-- A symbol that is written by the dialect is read as that symbol, whatever follows. -/
theorem readBody_escapeSymbol (undoes : rules.Undoes escapes) (s : Symbol) (rest : Text) :
    rules.readBody (Text.escapeSymbol rules.quote escapes s ++ rest) =
      (rules.readBody rest).map fun (content, rest) => (s :: content, rest) := by
  unfold Text.escapeSymbol
  by_cases isQuote : s = rules.quote
  · subst isQuote
    rw [if_pos rfl]
    exact (readBody_quote rules _).trans (if_pos rfl)
  · rw [if_neg isQuote]
    by_cases isBackslash : s = .char '\\'
    · cases escapes with
      | true =>
          obtain ⟨escape, starts, itself⟩ := undoes
          subst isBackslash
          simp [readBody, isQuote, escapeAfter, starts, itself]
      | false =>
          have plain : rules.escapeAfter s = none := (if_pos isBackslash).trans undoes
          exact readBody_plain isQuote plain rest
    · have plain : rules.escapeAfter s = none := if_neg isBackslash
      simp only [isBackslash, decide_false, Bool.and_false, Bool.false_eq_true, if_false]
      exact readBody_plain isQuote plain rest

/-- A text that is written by the dialect is read as that text, whatever follows. -/
theorem readBody_escaped (undoes : rules.Undoes escapes) (t rest : Text) :
    rules.readBody (t.flatMap (Text.escapeSymbol rules.quote escapes) ++ rest) =
      (rules.readBody rest).map fun (content, rest) => (t ++ content, rest) := by
  induction t with
  | nil => simp
  | cons s t ih =>
      rw [List.flatMap_cons, List.append_assoc, readBody_escapeSymbol undoes, ih, Option.map_map]
      rfl

/-- A quoted text is read back, and what follows it is left, exactly where that does not start with one more quote. -/
theorem readToken_quotedBy_iff (undoes : rules.Undoes escapes) (t rest : Text) :
    rules.readToken (t.quotedBy rules.quote escapes ++ rest) = some (t, rest) ↔
      rest.head? ≠ some rules.quote := by
  have shape : t.quotedBy rules.quote escapes ++ rest =
      rules.quote :: (t.flatMap (Text.escapeSymbol rules.quote escapes) ++ (rules.quote :: rest)) := by
    simp [Text.quotedBy]
  rw [shape, readToken, if_pos rfl, readBody_escaped undoes, readBody_quote]
  cases rest with
  | nil => simp
  | cons s rest =>
      by_cases another : s = rules.quote
      · -- The quotes are one more symbol of the content, which is then longer than the text.
        subst another
        simp only [if_true, Option.map_map, List.head?_cons, ne_eq, not_true_eq_false, iff_false]
        intro read
        obtain ⟨⟨content, after⟩, _, same⟩ := Option.map_eq_some_iff.mp read
        have longer := congrArg (fun r => r.1.length) same
        simp at longer
      · simp [another]

end QuotingRules

/-! ### Literals and identifiers -/

namespace Dialect

/-- The quote of a text literal is the same in both engines. -/
theorem quote_literalRules (d : Dialect) : d.literalRules.quote = .char '\'' := by
  cases d <;> rfl

theorem quote_identifierRules (d : Dialect) : d.identifierRules.quote = d.quoteSymbol := by
  cases d <;> rfl

/-- A dialect writes backslashes twice where the engine reads an escape. -/
theorem undoes_literalRules (d : Dialect) : d.literalRules.Undoes d.escapesBackslash := by
  cases d with
  | mysql => exact ⟨mysqlEscape, rfl, rfl⟩
  | sqlite => rfl

theorem undoes_identifierRules (d : Dialect) : d.identifierRules.Undoes false := by
  cases d <;> rfl

/-- The engine of a dialect reads a text back from its literal, and an identifier back from its quoted form, and stops
right after it, exactly where what follows does not start with one more quote. -/
theorem readToken_written_iff (d : Dialect) :
    (∀ t rest : Text,
      d.literalRules.readToken (d.literal (.text t) ++ rest) = some (t, rest) ↔ rest.head? ≠ some (.char '\'')) ∧
    ∀ identifier rest : Text,
      d.identifierRules.readToken (d.quote identifier ++ rest) = some (identifier, rest) ↔
        rest.head? ≠ some d.quoteSymbol := by
  constructor
  · intro t rest
    rw [literal_text_eq, ← quote_literalRules d]
    exact QuotingRules.readToken_quotedBy_iff d.undoes_literalRules t rest
  · intro identifier rest
    rw [quote_eq, ← quote_identifierRules d]
    exact QuotingRules.readToken_quotedBy_iff d.undoes_identifierRules identifier rest

/-- A backslash and a quote at the end of a text do not reach beyond its literal. -/
example : mysql.literalRules.readToken (mysql.literal (.text "a\\'") ++ ", 'n'") =
    some (Text.ofString "a\\'", Text.ofString ", 'n'") := by
  decide

end Dialect

end PivotOracle
