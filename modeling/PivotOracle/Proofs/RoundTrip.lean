import PivotOracle.Proofs.Reader
import PivotOracle.Proofs.Rebuild
import PivotOracle.Proofs.Validation

/-!
# The SQL text of an expression determines it

Every operand stands between parentheses, lists and calls close with one, and what is quoted hides
everything inside. So the reader finds in the text of an expression the expression itself, whatever
texts, names and nesting it has, but for the value and the type of columns, which the text does not
show.

* `Expr.withoutRow` — a tree in which columns have neither values nor types.
* `Text.EndsExpr` — what may follow an expression in a text.
* `ReadsBack` — a reader finds an expression at the start of a text, whatever follows.
* `Expr.Readable` — a single expression of a kind that is read back.
* `Expr.readExpr_render`, `Expr.readSql_render` — the text of an expression is read back.
* `Expr.render_injective` — two expressions of one text are equal up to values and types of columns.
-/

namespace PivotOracle

namespace Expr

/-- A column without its value and type; any other expression as it is. -/
def forgetRow : Expr → Expr
  | .column c _ => .column { c with datatype := .null } .null
  | e => e

/-- The tree in which columns have neither values nor types. -/
def withoutRow (e : Expr) : Expr := e.rebuild forgetRow

theorem withoutRow_isIn (negated : Bool) (e : Expr) (candidates : List Expr) :
    (isIn negated e candidates).withoutRow =
      isIn negated e.withoutRow (candidates.map withoutRow) :=
  rebuild_isIn negated e candidates

theorem withoutRow_call (f : FunctionName) (arguments : List Expr) :
    (call f arguments).withoutRow = call f (arguments.map withoutRow) :=
  rebuild_call f arguments

end Expr

/-! ### What follows an expression -/

/-- Nothing follows an expression in a text, or a parenthesis, a comma or a blank does. -/
def Text.EndsExpr (rest : Text) : Prop :=
  ∀ s, rest.head? = some s → s = .char ')' ∨ s = .char ',' ∨ s = .char ' '

namespace Text.EndsExpr

theorem nil : EndsExpr [] := nofun

theorem close (rest : Text) : EndsExpr (")" ++ rest) := by
  rintro s ⟨⟩
  exact .inl rfl

theorem comma (rest : Text) : EndsExpr (", " ++ rest) := by
  rintro s ⟨⟩
  exact .inr (.inl rfl)

theorem asKeyword (rest : Text) : EndsExpr (" AS " ++ rest) := by
  rintro s ⟨⟩
  exact .inr (.inr rfl)

variable {rest : Text}

theorem stopsDigits (h : rest.EndsExpr) : rest.StopsDigits asciiDigit := by
  intro c head
  rcases h _ head with same | same | same <;> cases same <;> rfl

theorem head?_ne_apostrophe (h : rest.EndsExpr) : rest.head? ≠ some (.char '\'') := by
  intro head
  rcases h _ head with same | same | same <;> cases same

theorem head?_ne_quoteSymbol (h : rest.EndsExpr) (d : Dialect) :
    rest.head? ≠ some d.quoteSymbol := by
  intro head
  rcases h _ head with same | same | same <;> cases d <;> cases same

end Text.EndsExpr

/-! ### Reading parts back -/

/-- A reader finds an expression, up to values and types of columns, at the start of every text that
goes on with what may follow an expression. -/
def ReadsBack (read : Text → Option (Expr × Text)) (e : Expr) (t : Text) : Prop :=
  ∀ rest : Text, rest.EndsExpr → read (t ++ rest) = some (e.withoutRow, rest)

section Parts

variable {read : Text → Option (Expr × Text)} {d : Dialect} {e : Expr} {t : Text}

theorem readClosed_append (back : ReadsBack read e t) (rest : Text) :
    readClosed read (t ++ (")" ++ rest)) = some (e.withoutRow, rest) := by
  rw [readClosed, back _ (.close rest)]
  simp [dropPrefix?_append]

theorem readItems_append {es : List Expr} {texts : List Text} (nonempty : es ≠ [])
    (back : List.Forall₂ (ReadsBack read) es texts) {count : Nat} (enough : es.length ≤ count)
    (rest : Text) :
    readItems read count (Text.commaList texts ++ (")" ++ rest)) =
      some (es.map Expr.withoutRow, rest) := by
  induction back generalizing count with
  | nil => exact absurd rfl nonempty
  | @cons e t es texts head tail ih =>
      cases count with
      | zero => cases enough
      | succ count =>
          rw [readItems]
          cases tail with
          | nil =>
              have close : ((")" : Text), true) ∈ separators := by decide
              have last := readKeyword_append separators_prefixFree close rest
              have first := head _ (.close rest)
              rw [commaList_singleton]
              simp [first, last]
          | @cons e' t' es texts head' tail =>
              have comma : ((", " : Text), false) ∈ separators := by decide
              have more := readKeyword_append separators_prefixFree comma
                (Text.commaList (t' :: texts) ++ (")" ++ rest))
              have fewer : (e' :: es).length ≤ count := by simpa using enough
              have others := ih (by simp) fewer
              rw [commaList_cons_cons, List.append_assoc, List.append_assoc, head _ (.comma _)]
              simp [more, others]

/-- Expressions between parentheses are read back, none among them too where no expression starts
with a closing parenthesis. -/
theorem readList_append (refuses : ∀ rest : Text, read (")" ++ rest) = none) {es : List Expr}
    {texts : List Text} (back : List.Forall₂ (ReadsBack read) es texts) (rest : Text) :
    readList read (Text.commaList texts ++ (")" ++ rest)) =
      some (es.map Expr.withoutRow, rest) := by
  cases es with
  | nil =>
      cases back
      have none : readItems read (")" ++ rest : Text).length (")" ++ rest) = none := by
        change readItems read (rest.length + 1) (")" ++ rest) = none
        rw [readItems, refuses]
        rfl
      change readList read (")" ++ rest) = _
      rw [readList, none, dropPrefix?_append]
      rfl
  | cons e es =>
      have enough : (e :: es).length ≤ (Text.commaList texts ++ (")" ++ rest)).length := by
        have close : (Text.ofString ")").length = 1 := rfl
        have bound := length_le_commaList texts
        rw [back.length_eq, List.length_append, List.length_append]
        omega
      rw [readList, readItems_append (by simp) back enough rest]

/-- The words that start an expression tell its kind. -/
theorem readStep_opening (opening : Opening) {keyword : Text}
    (has : opening.word d = some keyword) (rest : Text) :
    readStep read d (keyword ++ rest) = readOpened read d opening rest := by
  have mem : (keyword, opening) ∈ openings d := mem_keywordTable opening.mem_all has
  rw [readStep, readBigint_of_refusesDigits (openings_refuseDigits d _ mem),
    readKeyword_append (openings_prefixFree d) mem]
  rfl

/-- The words that follow a first operand tell its operator. -/
theorem readStep_operand (back : ReadsBack read e t) (continuation : Continuation) {keyword : Text}
    (has : continuation.word d = some keyword) (rest : Text) :
    readStep read d (t.parenthesized ++ (keyword ++ rest)) =
      readContinuation read e.withoutRow continuation rest := by
  have mem : (keyword, continuation) ∈ continuations d := mem_keywordTable continuation.mem_all has
  have shape : t.parenthesized ++ (keyword ++ rest) =
      "(" ++ (t ++ (")" ++ (keyword ++ rest))) := by
    simp [Text.parenthesized]
  rw [shape, readStep_opening .operand rfl, readOpened, readClosed_append back]
  simp [readKeyword_append (continuations_prefixFree d) mem]

/-- No expression starts with a closing parenthesis. -/
theorem readExpr_close (d : Dialect) (depth : Nat) (rest : Text) :
    readExpr d depth (")" ++ rest) = none := by
  cases depth with
  | zero => rfl
  | succ depth => cases d <;> rfl

end Parts

/-! ### Reading expressions back -/

namespace Expr

/-- A single expression is of a kind that is read back; a call is of a function of the dialect, with
as many arguments as the function takes. -/
def Readable (d : Dialect) : Expr → Prop
  | .collate _ _ | .typeName _ | .sortTerm _ | .join _ | .existsRow _ _ | .subquery _ _ => False
  | .call f arguments => (call f arguments).Proper d
  | _ => True

section Step

variable {read : Text → Option (Expr × Text)} {d : Dialect}

theorem readStep_constant (v : Scalar) {rest : Text} (stop : rest.EndsExpr) :
    readStep read d (d.literal v ++ rest) = some (.constant v, rest) := by
  cases v with
  | null => exact readStep_opening .null rfl rest
  | int n =>
      change readStep read d (Text.ofInt n.val ++ rest) = _
      rw [readStep, readBigint_append n stop.stopsDigits]
  | text t =>
      rw [literal_text_eq, Text.quotedBy, List.append_assoc, List.append_assoc]
      refine (readStep_opening .literal rfl _).trans ?_
      rw [readOpened, List.singleton_append, Text.readQuoted_append _ _ t stop.head?_ne_apostrophe]
      rfl

theorem readStep_column (c : Column) {rest : Text} (stop : rest.EndsExpr) :
    readStep read d (c.render d ++ rest) =
      some (.column { c with datatype := .null } .null, rest) := by
  have name := Text.readQuoted_append _ false c.name (stop.head?_ne_quoteSymbol d)
  have dot : ("." ++ [d.quoteSymbol] ++ (c.name.flatMap (Text.escapeSymbol d.quoteSymbol false)
      ++ d.quoteSymbol :: rest)).head? ≠ some d.quoteSymbol := by
    cases d <;> nofun
  have table := Text.readQuoted_append _ false c.table dot
  have shape : c.render d ++ rest = [d.quoteSymbol] ++
      (c.table.flatMap (Text.escapeSymbol d.quoteSymbol false) ++ d.quoteSymbol ::
        ("." ++ [d.quoteSymbol] ++ (c.name.flatMap (Text.escapeSymbol d.quoteSymbol false)
          ++ d.quoteSymbol :: rest))) := by
    simp [Column.render, quote_eq, Text.quotedBy]
  rw [shape, readStep_opening .column rfl, readOpened, table]
  simp only [Option.bind_eq_bind, Option.bind_some, dropPrefix?_append, name]
  rfl

/-- The words of a unary operator are read with the operand that they stand before. -/
theorem readStep_unary {op : UnaryOperator} {e : Expr} {t : Text} (back : ReadsBack read e t)
    (rest : Text) :
    readStep read d (unaryWord op ++ (t.parenthesized ++ rest)) =
      some (.unary op e.withoutRow, rest) := by
  have shape : unaryWord op ++ (t.parenthesized ++ rest) =
      (unaryWord op ++ "(") ++ (t ++ (")" ++ rest)) := by
    simp [Text.parenthesized]
  rw [shape, readStep_opening (.unary op) rfl, readOpened, readClosed_append back]
  rfl

theorem readStep_cast {e : Expr} {t : Text} (back : ReadsBack read e t) (target : CastTarget)
    (rest : Text) :
    readStep read d ("CAST(" ++ (t ++ (" AS " ++ d.castKeyword target ++ ")" ++ rest))) =
      some (.cast e.withoutRow target, rest) := by
  have mem : (" AS " ++ d.castKeyword target ++ ")", target) ∈ castEndings d :=
    mem_keywordTable (by cases target <;> decide) rfl
  have operand := back (" AS " ++ d.castKeyword target ++ ")" ++ rest) (by
    rw [List.append_assoc, List.append_assoc]
    exact .asKeyword _)
  rw [readStep_opening .cast rfl, readOpened, operand]
  simp only [Option.bind_eq_bind, Option.bind_some,
    readKeyword_append (castEndings_prefixFree d) mem]
  rfl

/-- A first operand is read with the operator after it, up to the parenthesis that opens a second
one. -/
theorem readStep_continuation {l : Expr} {a : Text} (left : ReadsBack read l a)
    (continuation : Continuation) {word : Text} (has : continuation.word d = some (word ++ "("))
    (t : Text) :
    readStep read d (a.parenthesized ++ (word ++ ("(" ++ t))) =
      readContinuation read l.withoutRow continuation t := by
  have shape : a.parenthesized ++ (word ++ ("(" ++ t)) = a.parenthesized ++ ((word ++ "(") ++ t) := by
    simp
  rw [shape, readStep_operand left continuation has]

/-- Two operands are read with the operator between them, where `make` is what it makes of them. -/
theorem readStep_binary {l r : Expr} {a b word : Text} (left : l.render d = .ok a)
    (right : r.render d = .ok b)
    (below : ∀ p ∈ [l, r], ∀ u, p.render d = .ok u →
      u.length < (a.parenthesized ++ " " ++ word ++ " " ++ b.parenthesized).length →
      ReadsBack read p u)
    (continuation : Continuation)
    (has : continuation.word d = some (" " ++ word ++ " " ++ "(")) {make : Expr → Expr → Expr}
    (makes : ∀ e t, readContinuation read e continuation t =
      (readClosed read t).map fun (r, t) => (make e r, t)) (rest : Text) :
    readStep read d (a.parenthesized ++ " " ++ word ++ " " ++ b.parenthesized ++ rest) =
      some (make l.withoutRow r.withoutRow, rest) := by
  have shorterLeft := length_lt_parenthesized a
  have shorterRight := length_lt_parenthesized b
  have backLeft := below l (by simp) a left (by simp only [List.length_append]; omega)
  have backRight := below r (by simp) b right (by simp only [List.length_append]; omega)
  have shape : a.parenthesized ++ " " ++ word ++ " " ++ b.parenthesized ++ rest =
      a.parenthesized ++ ((" " ++ word ++ " ") ++ ("(" ++ (b ++ (")" ++ rest)))) := by
    simp [Text.parenthesized]
  rw [shape, readStep_continuation backLeft continuation has, makes, readClosed_append backRight]
  rfl

theorem readStep_between (negated : Bool) {e low high : Expr} {a b c : Text}
    (subject : ReadsBack read e a) (lower : ReadsBack read low b) (upper : ReadsBack read high c)
    (rest : Text) :
    readStep read d (a.parenthesized ++ (if negated then " NOT BETWEEN " else " BETWEEN ")
        ++ b.parenthesized ++ " AND " ++ c.parenthesized ++ rest) =
      some (.between negated e.withoutRow low.withoutRow high.withoutRow, rest) := by
  have shape : a.parenthesized ++ (if negated then " NOT BETWEEN " else " BETWEEN ")
        ++ b.parenthesized ++ " AND " ++ c.parenthesized ++ rest =
      a.parenthesized ++ ((if negated then " NOT BETWEEN " else " BETWEEN ") ++ ("(" ++
        (b ++ (")" ++ ((" AND " ++ "(") ++ (c ++ (")" ++ rest))))))) := by
    simp [Text.parenthesized]
  rw [shape, readStep_continuation subject (.between negated) rfl, readContinuation,
    readClosed_append lower]
  simp only [Option.bind_eq_bind, Option.bind_some, dropPrefix?_append, readClosed_append upper]
  rfl

theorem readStep_isIn (refuses : ∀ rest : Text, read (")" ++ rest) = none) (negated : Bool)
    {e : Expr} {a : Text} (subject : ReadsBack read e a) {candidates : List Expr}
    {texts : List Text} (each : List.Forall₂ (ReadsBack read) candidates texts) (rest : Text) :
    readStep read d (a.parenthesized ++ (if negated then " NOT IN " else " IN ")
        ++ (Text.commaList texts).parenthesized ++ rest) =
      some (.isIn negated e.withoutRow (candidates.map withoutRow), rest) := by
  have shape : a.parenthesized ++ (if negated then " NOT IN " else " IN ")
        ++ (Text.commaList texts).parenthesized ++ rest =
      a.parenthesized ++ ((if negated then " NOT IN " else " IN ") ++ ("(" ++
        (Text.commaList texts ++ (")" ++ rest)))) := by
    simp [Text.parenthesized]
  rw [shape, readStep_continuation subject (.among negated) rfl, readContinuation,
    readList_append refuses each]
  rfl

theorem readStep_call (refuses : ∀ rest : Text, read (")" ++ rest) = none) {f : FunctionName}
    {form : Text × Option Nat} (called : d.callForm f = .ok form) {arguments : List Expr}
    {texts : List Text} (each : List.Forall₂ (ReadsBack read) arguments texts) (rest : Text) :
    readStep read d (form.1 ++ (Text.commaList texts).parenthesized ++ rest) =
      some (.call f (arguments.map withoutRow), rest) := by
  have has : (Opening.call f).word d = some (form.1 ++ "(") := by
    rw [Opening.word, called]
    rfl
  have shape : form.1 ++ (Text.commaList texts).parenthesized ++ rest =
      (form.1 ++ "(") ++ (Text.commaList texts ++ (")" ++ rest)) := by
    simp [Text.parenthesized]
  rw [shape, readStep_opening (.call f) has, readOpened, readList_append refuses each]
  rfl

/-- Expressions with commas between them are read back where each of them is, as far as the text of
all is short enough. -/
theorem readsBack_of_renderAll {es : List Expr} {texts : List Text}
    (rendered : renderAll d es = .ok texts) {bound : Nat}
    (below : ∀ p ∈ es, ∀ u, p.render d = .ok u → u.length < bound → ReadsBack read p u)
    (short : (Text.commaList texts).length < bound) : List.Forall₂ (ReadsBack read) es texts := by
  replace short : ∀ u ∈ texts, u.length < bound := fun u mem =>
    Nat.lt_of_le_of_lt (length_le_commaList_of_mem mem) short
  induction es generalizing texts with
  | nil =>
      cases rendered
      exact .nil
  | cons e es ih =>
      obtain ⟨t, head, rest⟩ := bind_eq_ok.mp rendered
      obtain ⟨tail, renderedTail, same⟩ := bind_eq_ok.mp rest
      cases same
      obtain ⟨belowHead, belowTail⟩ := List.forall_mem_cons.mp below
      obtain ⟨shortHead, shortTail⟩ := List.forall_mem_cons.mp short
      exact .cons (belowHead t head shortHead) (ih renderedTail belowTail shortTail)

/-- Where a number of arguments is written of a call, the function takes that many. -/
theorem length_of_callForm {f : FunctionName} {arguments : List Expr}
    (proper : (call f arguments).Proper d) {name : Text} {count : Nat}
    (called : d.callForm f = .ok (name, some count)) : arguments.length = count := by
  obtain ⟨definition, registered, counted⟩ := proper
  have counts := FunctionDefinition.checkCount_eq_ok.mp counted
  cases d <;> cases f <;> cases registered <;> cases called <;> simpa using counts

/-- All arguments of a proper call are written. -/
theorem callText_eq {f : FunctionName} {arguments : List Expr}
    (proper : (call f arguments).Proper d) {form : Text × Option Nat}
    (called : d.callForm f = .ok form) {texts : List Text}
    (lengths : arguments.length = texts.length) :
    callText form texts = .ok (form.1 ++ (Text.commaList texts).parenthesized) := by
  obtain ⟨name, count⟩ := form
  cases count with
  | none => simp [callText]
  | some count =>
      have all : texts.length = count := lengths.symm.trans (length_of_callForm proper called)
      simp [callText, ← all]

/-- A step of the reader reads an expression back where the reader below it reads the parts back. -/
theorem readStep_render (refuses : ∀ rest : Text, read (")" ++ rest) = none) {e : Expr}
    (readable : e.Readable d) {t : Text} (rendered : e.render d = .ok t)
    (below : ∀ p ∈ e.parts, ∀ u, p.render d = .ok u → u.length < t.length → ReadsBack read p u)
    {rest : Text} (stop : rest.EndsExpr) :
    readStep read d (t ++ rest) = some (e.withoutRow, rest) := by
  -- By the outermost node. What is written before, between and after its parts tells the reader which node it is; the
  -- parts are shorter, and so they are read back.
  cases e with
  | constant v =>
      cases rendered
      exact readStep_constant v stop
  | column c v =>
      cases rendered
      exact readStep_column c stop
  | unary op e =>
      obtain ⟨a, operand, same⟩ := bind_eq_ok.mp rendered
      obtain rfl : unaryWord op ++ a.parenthesized = t := by
        cases op <;> cases same <;> rfl
      have length := length_lt_parenthesized a
      have back := below e (by simp [parts]) a operand (by rw [List.length_append]; omega)
      rw [List.append_assoc]
      exact readStep_unary back rest
  | postfixTest op e =>
      obtain ⟨a, operand, same⟩ := bind_eq_ok.mp rendered
      cases same
      have length := length_lt_parenthesized a
      have back := below e (by simp [parts]) a operand (by simp only [List.length_append]; omega)
      have shape : a.parenthesized ++ " " ++ PostfixTest.vocabulary.spelling op ++ rest =
          a.parenthesized ++ ((" " ++ PostfixTest.vocabulary.spelling op) ++ rest) := by
        simp
      rw [shape, readStep_operand back (.test op) rfl]
      rfl
  | arithmetic op l r =>
      obtain ⟨a, left, rest'⟩ := bind_eq_ok.mp rendered
      obtain ⟨b, right, same⟩ := bind_eq_ok.mp rest'
      cases same
      exact readStep_binary left right below (.arithmetic op) rfl (fun _ _ => rfl) rest
  | comparison op l r =>
      obtain ⟨a, left, rest'⟩ := bind_eq_ok.mp rendered
      obtain ⟨b, right, same⟩ := bind_eq_ok.mp rest'
      cases same
      exact readStep_binary left right below (.comparison op) rfl (fun _ _ => rfl) rest
  | connective op l r =>
      obtain ⟨keyword, known, rest'⟩ := bind_eq_ok.mp rendered
      obtain ⟨a, left, rest'⟩ := bind_eq_ok.mp rest'
      obtain ⟨b, right, same⟩ := bind_eq_ok.mp rest'
      cases same
      have has : (Continuation.connective op).word d = some (" " ++ keyword ++ " " ++ "(") := by
        rw [Continuation.word, known]
        rfl
      exact readStep_binary left right below (.connective op) has (fun _ _ => rfl) rest
  | cast e target =>
      obtain ⟨a, operand, same⟩ := bind_eq_ok.mp rendered
      cases same
      have word : (Text.ofString "CAST(").length = 5 := rfl
      have back := below e (by simp [parts]) a operand (by simp only [List.length_append]; omega)
      have shape : "CAST(" ++ a ++ " AS " ++ d.castKeyword target ++ ")" ++ rest =
          "CAST(" ++ (a ++ (" AS " ++ d.castKeyword target ++ ")" ++ rest)) := by
        simp
      rw [shape]
      exact readStep_cast back target rest
  | between negated e low high =>
      obtain ⟨a, subject, rest'⟩ := bind_eq_ok.mp rendered
      obtain ⟨b, lower, rest'⟩ := bind_eq_ok.mp rest'
      obtain ⟨c, upper, same⟩ := bind_eq_ok.mp rest'
      cases same
      have lengthSubject := length_lt_parenthesized a
      have lengthLower := length_lt_parenthesized b
      have lengthUpper := length_lt_parenthesized c
      have backSubject := below e (by simp [parts]) a subject
        (by simp only [List.length_append]; omega)
      have backLower := below low (by simp [parts]) b lower
        (by simp only [List.length_append]; omega)
      have backUpper := below high (by simp [parts]) c upper
        (by simp only [List.length_append]; omega)
      exact readStep_between negated backSubject backLower backUpper rest
  | isIn negated e candidates =>
      obtain ⟨texts, written, rest'⟩ := bind_eq_ok.mp rendered
      obtain ⟨a, subject, same⟩ := bind_eq_ok.mp rest'
      cases same
      have lengthSubject := length_lt_parenthesized a
      have lengthList := length_lt_parenthesized (Text.commaList texts)
      have backSubject := below e (by simp [parts]) a subject
        (by simp only [List.length_append]; omega)
      have each := readsBack_of_renderAll written (fun p mem => below p (by simp [parts, mem]))
        (by simp only [List.length_append]; omega)
      rw [withoutRow_isIn]
      -- No expression starts with a closing parenthesis, which tells an empty list from one with an expression in it.
      exact readStep_isIn refuses negated backSubject each rest
  | call f arguments =>
      obtain ⟨form, called, rest'⟩ := bind_eq_ok.mp rendered
      obtain ⟨texts, written, whole⟩ := bind_eq_ok.mp rest'
      have count : arguments.length = texts.length := length_of_renderAll written
      rw [callText_eq readable called count] at whole
      cases whole
      have lengthList := length_lt_parenthesized (Text.commaList texts)
      have each := readsBack_of_renderAll written (fun p mem => below p (by simp [parts, mem]))
        (by simp only [List.length_append]; omega)
      rw [withoutRow_call]
      exact readStep_call refuses called each rest
  | collate e collation => exact readable.elim
  | typeName t => exact readable.elim
  | sortTerm term => exact readable.elim
  | join clause => exact readable.elim
  | existsRow negated query => exact readable.elim
  | subquery query expected => exact readable.elim

end Step

/-- The reader finds an expression at the start of a text, up to values and types of columns, if it
reads as deep as the text of the expression is long. -/
theorem readExpr_render {d : Dialect} {e : Expr} (readable : ∀ n : Expr, n.Within e → n.Readable d)
    {t : Text} (rendered : e.render d = .ok t) {depth : Nat} (deep : t.length < depth) :
    ReadsBack (readExpr d depth) e t := by
  -- By the depth to which the reader goes. The text of a part is shorter, so that one level less is enough for it.
  induction depth generalizing e t with
  | zero => cases deep
  | succ depth ih =>
      intro rest stop
      refine readStep_render (readExpr_close d depth) (readable e (.self e)) rendered
        (fun p mem u part shorter => ?_) stop
      exact ih (fun n inner => readable n (.part mem inner)) part (by omega)

/-- The text of an expression is read back as the expression itself, up to values and types of
columns. -/
theorem readSql_render {d : Dialect} {e : Expr} (readable : ∀ n : Expr, n.Within e → n.Readable d)
    {t : Text} (rendered : e.render d = .ok t) : readSql d t = some (e.withoutRow, []) := by
  have back := readExpr_render readable rendered (Nat.lt_succ_self t.length) [] .nil
  rwa [List.append_nil] at back

/-- The SQL text of an expression determines the expression. Two expressions that pass validation
with one and the same text are equal but for the values and types of their columns, if they are made
of constants, columns, operators, casts, tests and calls with as many arguments as the functions
take. -/
theorem render_injective {d : Dialect} {e e' : Expr}
    (readable : ∀ n : Expr, n.Within e → n.Readable d)
    (readable' : ∀ n : Expr, n.Within e' → n.Readable d) {t : Text}
    (accepted : e.validate d = .ok t) (accepted' : e'.validate d = .ok t) :
    e.withoutRow = e'.withoutRow := by
  have read := readSql_render readable (validate_eq_ok.mp accepted)
  have read' := readSql_render readable' (validate_eq_ok.mp accepted')
  rw [read] at read'
  exact congrArg Prod.fst (Option.some.inj read')

/-- Two tests of a column, which one takes for an integer and the other for a text, against a text
with a comma in it and a call. -/
theorem render_injective_comma :
    let candidates : List Expr :=
      [.constant (.text ", ("), .call .abs [.constant (.int ⟨-1, by decide⟩)]]
    let e := Expr.isIn false (.column ⟨"c", "t", .integer⟩ (.int 1)) candidates
    let e' := Expr.isIn false (.column ⟨"c", "t", .text⟩ .null) candidates
    e.validate .sqlite = .ok "(\"t\".\"c\") IN (', (', ABS(-1))" ∧
      e'.validate .sqlite = e.validate .sqlite ∧ e.withoutRow = e'.withoutRow := by
  intro candidates e e'
  have leaf (v : Scalar) : ∀ n : Expr, n.Within (.constant v) → n.Readable .sqlite :=
    forall_within_iff.mpr ⟨trivial, nofun⟩
  have column (c : Column) (v : Scalar) : ∀ n : Expr, n.Within (.column c v) → n.Readable .sqlite :=
    forall_within_iff.mpr ⟨trivial, nofun⟩
  have magnitude (v : Scalar) :
      ∀ n : Expr, n.Within (.call .abs [.constant v]) → n.Readable .sqlite :=
    forall_within_iff.mpr ⟨⟨_, rfl, rfl⟩, List.forall_mem_singleton.mpr (leaf v)⟩
  have readable (c : Column) (v : Scalar) :
      ∀ n : Expr, n.Within (.isIn false (.column c v) candidates) → n.Readable .sqlite :=
    forall_within_iff.mpr ⟨trivial, List.forall_mem_cons.mpr ⟨column c v, List.forall_mem_cons.mpr
      ⟨leaf _, List.forall_mem_singleton.mpr (magnitude _)⟩⟩⟩
  have accepted : e.validate .sqlite = .ok "(\"t\".\"c\") IN (', (', ABS(-1))" := rfl
  exact ⟨accepted, rfl, render_injective (readable _ _) (readable _ _) accepted rfl⟩

end Expr

end PivotOracle
