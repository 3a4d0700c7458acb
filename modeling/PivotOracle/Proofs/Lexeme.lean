import Mathlib.Data.List.Infix
import PivotOracle.Proofs.Numeral
import PivotOracle.Sql.Render

/-!
# Words of SQL text

The words that SQL text is made of — keywords, integers, quoted texts and identifiers — and how each
is read back from the start of a text, whatever follows it.

* `readKeyword_append` — a keyword of a table is read back where no keyword starts another one.
* `readQuoted_append` — so is a quoted text, unless one more quote follows it.
* `readBigint_append` — and so is an integer, unless one more digit follows it.
* `length_lt_parenthesized`, `length_le_commaList_of_mem` — parts are shorter than the whole.
-/

namespace PivotOracle

/-! ### Keywords -/

section Keywords

variable {α : Type}

/-- The meaning of the keyword that starts a text, and the text after it. -/
def readKeyword (table : List (Text × α)) (t : Text) : Option (α × Text) :=
  table.findSome? fun entry => (t.dropPrefix? entry.1).map fun rest => (entry.2, rest)

/-- No keyword of a table starts another one. -/
def PrefixFree (table : List (Text × α)) : Prop :=
  table.Pairwise fun a b => ¬ a.1 <+: b.1 ∧ ¬ b.1 <+: a.1

instance (table : List (Text × α)) : Decidable (PrefixFree table) :=
  inferInstanceAs (Decidable (table.Pairwise _))

/-- The table of words that have a meaning, each with its word; what has no word is left out. -/
def keywordTable (meanings : List α) (word : α → Option Text) : List (Text × α) :=
  meanings.filterMap fun meaning => (word meaning).map fun keyword => (keyword, meaning)

theorem mem_keywordTable {meanings : List α} {word : α → Option Text} {meaning : α} {keyword : Text}
    (mem : meaning ∈ meanings) (has : word meaning = some keyword) :
    (keyword, meaning) ∈ keywordTable meanings word :=
  List.mem_filterMap.mpr ⟨meaning, mem, by rw [has]; rfl⟩

theorem dropPrefix?_append (keyword rest : Text) :
    (keyword ++ rest).dropPrefix? keyword = some rest :=
  List.dropPrefix?_eq_some_iff.mpr ⟨keyword, rfl, by simp⟩

theorem dropPrefix?_eq_none {keyword t : Text} (other : ¬ keyword <+: t) :
    t.dropPrefix? keyword = none := by
  cases dropped : t.dropPrefix? keyword with
  | none => rfl
  | some rest =>
      obtain ⟨start, split, same⟩ := List.dropPrefix?_eq_some_iff.mp dropped
      obtain rfl := eq_of_beq same
      exact absurd ⟨rest, split.symm⟩ other

theorem readKeyword_append {table : List (Text × α)} (free : PrefixFree table) {keyword : Text}
    {meaning : α} (mem : (keyword, meaning) ∈ table) (rest : Text) :
    readKeyword table (keyword ++ rest) = some (meaning, rest) := by
  induction table with
  | nil => cases mem
  | cons entry table ih =>
      obtain ⟨apart, below⟩ := List.pairwise_cons.mp free
      rw [readKeyword, List.findSome?_cons]
      rcases List.mem_cons.mp mem with rfl | mem
      · rw [dropPrefix?_append]
        rfl
      · -- Of two keywords that start one text, one starts the other.
        have other : ¬ entry.1 <+: keyword ++ rest := by
          intro starts
          rcases List.prefix_or_prefix_of_prefix starts (List.prefix_append keyword rest) with h | h
          · exact (apart _ mem).1 h
          · exact (apart _ mem).2 h
        rw [dropPrefix?_eq_none other]
        exact ih below mem

end Keywords

/-! ### Quoted texts -/

namespace Text

/-- How a symbol is written between quotes: a quote is written twice, and so is a backslash where it
would start an escape. -/
def escapeSymbol (quote : Symbol) (escapes : Bool) (s : Symbol) : Text :=
  if s = quote then [quote, quote]
  else if escapes && s = .char '\\' then [s, s]
  else [s]

/-- A text between quotes. -/
def quotedBy (quote : Symbol) (escapes : Bool) (t : Text) : Text :=
  [quote] ++ t.flatMap (escapeSymbol quote escapes) ++ [quote]

/-- The text up to the closing quote, and what follows that quote. -/
def readQuoted (quote : Symbol) (escapes : Bool) : Text → Option (Text × Text)
  | [] => none
  | [s] => if s = quote then some ([], []) else none
  | s :: s' :: t =>
    if s = quote then
      if s' = quote then (readQuoted quote escapes t).map fun (content, rest) => (s :: content, rest)
      else some ([], s' :: t)
    else if escapes && s = .char '\\' then
      (readQuoted quote escapes t).map fun (content, rest) => (s' :: content, rest)
    else (readQuoted quote escapes (s' :: t)).map fun (content, rest) => (s :: content, rest)

variable (quote : Symbol) (escapes : Bool)

theorem readQuoted_nil {rest : Text} (stop : rest.head? ≠ some quote) :
    readQuoted quote escapes (quote :: rest) = some ([], rest) := by
  cases rest with
  | nil => simp [readQuoted]
  | cons s rest =>
      have other : s ≠ quote := by
        rintro rfl
        exact stop rfl
      simp [readQuoted, other]

theorem readQuoted_escapeSymbol (s : Symbol) {u content rest : Text}
    (read : readQuoted quote escapes u = some (content, rest)) :
    readQuoted quote escapes (escapeSymbol quote escapes s ++ u) = some (s :: content, rest) := by
  cases u with
  | nil => cases read
  | cons s' u =>
      unfold escapeSymbol
      split
      · rename_i same
        simp [readQuoted, read, same]
      · rename_i other
        split
        · rename_i escaped
          simp [readQuoted, read, other, escaped]
        · rename_i plain
          simp [readQuoted, read, other, plain]

/-- A quoted text ends at the quote that no other quote follows. -/
theorem readQuoted_append (t : Text) {rest : Text} (stop : rest.head? ≠ some quote) :
    readQuoted quote escapes (t.flatMap (escapeSymbol quote escapes) ++ (quote :: rest)) =
      some (t, rest) := by
  induction t with
  | nil => exact readQuoted_nil quote escapes stop
  | cons s t ih =>
      rw [List.flatMap_cons, List.append_assoc]
      exact readQuoted_escapeSymbol quote escapes s ih

end Text

theorem quote_eq (d : Dialect) (identifier : Text) :
    d.quote identifier = identifier.quotedBy d.quoteSymbol false := by
  have escape : Text.escapeSymbol d.quoteSymbol false =
      fun s => if s = d.quoteSymbol then [d.quoteSymbol, d.quoteSymbol] else [s] := by
    funext s
    simp [Text.escapeSymbol]
  rw [Dialect.quote, Text.quotedBy, Text.replace, escape]

theorem literal_text_eq (d : Dialect) (t : Text) :
    d.literal (.text t) = t.quotedBy (.char '\'') d.escapesBackslash := by
  cases d with
  | sqlite =>
      have escape : Text.escapeSymbol (.char '\'') false =
          fun s => if s = .char '\'' then ([.char '\'', .char '\''] : Text) else [s] := by
        funext s
        simp [Text.escapeSymbol]
      rw [Dialect.escapesBackslash, Text.quotedBy, escape]
      rfl
  | mysql =>
      -- A backslash is written twice first, and holds no quote.
      have escape : Text.escapeSymbol (.char '\'') true =
          fun s => Text.replace (if s = .char '\\' then "\\\\" else [s]) (.char '\'') "''" := by
        funext s
        by_cases backslash : s = .char '\\'
        · subst backslash
          rfl
        · by_cases quote : s = .char '\''
          · subst quote
            rfl
          · simp [Text.escapeSymbol, Text.replace, backslash, quote]
      rw [Dialect.escapesBackslash, Text.quotedBy, escape]
      simp only [Dialect.literal, Dialect.escapesBackslash, if_true, Text.replace, List.flatMap_assoc]
      rfl

/-! ### Integers -/

theorem asciiDigit_hasAscii : asciiDigit.HasAscii := by
  intro c isDigit
  obtain ⟨low, high⟩ := isDigit_iff.mp isDigit
  exact if_pos ⟨low, high⟩

/-- The integer that starts a text, if it is in range, and the text after it. -/
def readBigint (t : Text) : Option (Bigint × Text) := do
  let (numeral, rest) ← IntegerNumeral.read asciiDigit t
  let n ← Bigint.ofInt? (numeral.value asciiDigit)
  return (n, rest)

theorem readBigint_append (n : Bigint) {rest : Text} (stop : rest.StopsDigits asciiDigit) :
    readBigint (Text.ofInt n.val ++ rest) = some (n, rest) := by
  have read := IntegerNumeral.read_append asciiDigit_hasAscii (decide (n.val < 0))
    (Nat.toDigits_ne_nil (n := n.val.natAbs) (b := 10)) (fun c => isDigit_of_mem_toDigits) stop
  rw [readBigint, Text.ofInt_eq, List.append_assoc, read]
  simp [IntegerNumeral.value_ofInt asciiDigit_hasAscii, Bigint.ofInt?_val]

/-- A text is no start of an integer, whatever follows it. -/
def Text.refusesDigits (t : Text) : Bool :=
  match t.takeSign.2 with
  | [] => false
  | .char c :: _ => (asciiDigit c).isNone
  | .byte _ :: _ => true

theorem readBigint_of_refusesDigits {t : Text} (refuses : t.refusesDigits = true) (rest : Text) :
    readBigint (t ++ rest) = none := by
  have sign : (t ++ rest).takeSign = (t.takeSign.1, t.takeSign.2 ++ rest) := by
    cases t with
    | nil => cases refuses
    | cons s t =>
        simp only [List.cons_append]
        unfold Text.takeSign
        split <;> simp_all
  have stop : (t.takeSign.2 ++ rest).StopsDigits asciiDigit := by
    unfold Text.refusesDigits at refuses
    split at refuses
    · cases refuses
    · rename_i starts
      rw [starts]
      rintro _ ⟨⟩
      simpa using refuses
    · rename_i starts
      rw [starts]
      rintro _ ⟨⟩
  rw [readBigint, IntegerNumeral.read, sign]
  simp only [Text.takeDigits_of_stopsDigits stop]
  rfl

/-! ### Parentheses and lists -/

theorem length_lt_parenthesized (t : Text) : t.length < t.parenthesized.length := by
  have parentheses : (Text.ofString "(").length = 1 ∧ (Text.ofString ")").length = 1 := ⟨rfl, rfl⟩
  simp only [Text.parenthesized, List.length_append]
  omega

theorem commaList_singleton (t : Text) : Text.commaList [t] = t := List.intercalate_singleton

theorem commaList_cons_cons (first second : Text) (texts : List Text) :
    Text.commaList (first :: second :: texts) =
      first ++ (", " ++ Text.commaList (second :: texts)) := by
  rw [Text.commaList, List.intercalate_cons_cons, List.append_assoc, Text.commaList]

theorem length_le_commaList_of_mem {t : Text} {texts : List Text} (mem : t ∈ texts) :
    t.length ≤ (Text.commaList texts).length := by
  induction texts with
  | nil => cases mem
  | cons first texts ih =>
      cases texts with
      | nil =>
          cases List.mem_singleton.mp mem
          rw [commaList_singleton]
      | cons second texts =>
          rw [commaList_cons_cons, List.length_append, List.length_append]
          rcases List.mem_cons.mp mem with rfl | mem
          · omega
          · have := ih mem
            omega

/-- A list of texts is at least as long as there are texts, with the parenthesis that closes it. -/
theorem length_le_commaList (texts : List Text) :
    texts.length ≤ (Text.commaList texts).length + 1 := by
  induction texts with
  | nil => simp
  | cons t texts ih =>
      cases texts with
      | nil => simp
      | cons t' texts =>
          rw [commaList_cons_cons]
          simp only [List.length_append, List.length_cons] at ih ⊢
          have comma : (Text.ofString ", ").length = 2 := rfl
          omega

end PivotOracle
