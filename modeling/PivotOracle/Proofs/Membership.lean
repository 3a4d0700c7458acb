import PivotOracle.Proofs.ComparisonLaws
import PivotOracle.Proofs.Ranges

/-!
# Membership

Whether a value is among candidates is the disjunction of its equalities with them, in three-valued logic. The
test ends at the first candidate that is equal, so that it may have an answer where the disjunction is not known;
but what it answers is a matter of the candidates alone, not of their order or of how often they stand. One case
is apart: of null among no candidates the test tells nothing, where the disjunction is false.

* `anyEqual` — the disjunction of the equalities.
* `Belongs` — what the equalities tell of the membership, in whatever order they are looked at;
  `Belongs.unique`, `Belongs.of_same_members`.
* `belongs_of_isAmong`, `belongs_of_anyEqual` — the test and the disjunction both come to it.
* `isIn_eq_anyEqual` — the test is the disjunction, but for null among no candidates.
* `Expr.predict_isIn_of_same_candidates` — two tests with the same candidates have one prediction.
-/

namespace PivotOracle

/-- A truth value, or its negation where a condition is negated. -/
def Kleene.negateIf (negated : Bool) (k : Kleene) : Kleene := if negated then Kleene.not k else k

/-- Negation of a condition is that of its truth value. -/
theorem negate_eq_negateIf (negated : Bool) (k : Kleene) :
    negate negated (.ofTruth k) = .ok (.ofTruth (k.negateIf negated)) := by
  cases negated with
  | false => rfl
  | true => rcases k with _ | _ | _ <;> rfl

theorem Scalar.ofTruth_injective {k k' : Kleene} (same : Scalar.ofTruth k = .ofTruth k') : k = k' := by
  have read : truthOf .sqlite (.ofTruth k) = truthOf .sqlite (.ofTruth k') := congrArg _ same
  rw [truthOf_ofTruth, truthOf_ofTruth] at read
  exact Except.ok.inj read

section Values

variable {d : Dialect} {affinity negated : Bool} {v c : Scalar} {candidates candidates' : List Scalar}
  {k k' : Kleene}

/-! ### Equalities -/

/-- The truth value of the equality of two values. -/
def EqualityIs (d : Dialect) (affinity : Bool) (v c : Scalar) (k : Kleene) : Prop :=
  ComparisonOperator.eq.apply d affinity false v c = .ok (.ofTruth k)

/-- What a comparison finds is a truth value. -/
theorem ComparisonOperator.exists_ofTruth {op : ComparisonOperator} {collated : Bool} {l r w : Scalar}
    (value : op.apply d affinity collated l r = .ok w) : ∃ k, w = .ofTruth k := by
  by_cases null : (l.isNull || r.isNull) = true
  · rw [op.apply_of_null null] at value
    cases value
    split
    · exact ⟨some _, rfl⟩
    · exact ⟨none, rfl⟩
  · obtain ⟨left, right⟩ : l.isNull = false ∧ r.isNull = false := by simpa using null
    rw [op.apply_of_notNull left right] at value
    obtain ⟨o, -, same⟩ := bind_eq_ok.mp value
    cases same
    exact ⟨some _, rfl⟩

namespace EqualityIs

theorem unique (first : EqualityIs d affinity v c k) (second : EqualityIs d affinity v c k') : k = k' :=
  Scalar.ofTruth_injective (Except.ok.inj (first.symm.trans second))

/-- An equality that is known with a column affinity is known by any. -/
theorem of_affinity (affinity : Bool) (known : EqualityIs d true v c k) : EqualityIs d affinity v c k :=
  (ComparisonOperator.apply_of_affinity affinity known).2

/-- Nothing is known of the equality of null with a value. -/
theorem of_null (d : Dialect) (affinity : Bool) (c : Scalar) : EqualityIs d affinity .null c none :=
  ComparisonOperator.eq.apply_of_null rfl

end EqualityIs

/-! ### The disjunction -/

/-- The disjunction of the equalities of a value with candidates, in three-valued logic; false of none. It is known
where all of the equalities are. -/
def anyEqual (d : Dialect) (affinity : Bool) (v : Scalar) : List Scalar → Except Failure Kleene
  | [] => .ok (some false)
  | c :: candidates => do
    let equal ← truthOf d (← ComparisonOperator.eq.apply d affinity false v c)
    return Kleene.or equal (← anyEqual d affinity v candidates)

/-- The disjunction is known where the first equality is and the disjunction of the others. -/
theorem anyEqual_cons_eq_ok_iff :
    anyEqual d affinity v (c :: candidates) = .ok k ↔
      ∃ here rest, EqualityIs d affinity v c here ∧ anyEqual d affinity v candidates = .ok rest ∧
        k = Kleene.or here rest := by
  simp only [anyEqual, bind_eq_ok, EqualityIs]
  constructor
  · rintro ⟨w, compared, here, read, rest, others, same⟩
    obtain ⟨truth, rfl⟩ := ComparisonOperator.exists_ofTruth compared
    rw [truthOf_ofTruth] at read
    cases read
    cases same
    exact ⟨here, rest, compared, others, rfl⟩
  · rintro ⟨here, rest, compared, others, rfl⟩
    exact ⟨_, compared, here, truthOf_ofTruth d here, rest, others, rfl⟩

/-- All equalities of a disjunction that is known are known. -/
theorem exists_equalityIs_of_anyEqual (told : anyEqual d affinity v candidates = .ok k) :
    ∀ c ∈ candidates, ∃ here, EqualityIs d affinity v c here := by
  induction candidates generalizing k with
  | nil => exact List.forall_mem_nil _
  | cons c candidates ih =>
      obtain ⟨here, rest, known, others, -⟩ := anyEqual_cons_eq_ok_iff.mp told
      exact List.forall_mem_cons.mpr ⟨⟨here, known⟩, ih others⟩

/-! ### What the equalities tell -/

/-- What the equalities of a value with candidates tell of its membership: it is there where one of them is true,
whatever is known of the others; it is unknown where none is true and one is unknown, and it is not there where
all are false. -/
inductive Belongs (d : Dialect) (affinity : Bool) (v : Scalar) (candidates : List Scalar) : Kleene → Prop where
  | present {c : Scalar} (mem : c ∈ candidates) (equal : EqualityIs d affinity v c (some true)) :
      Belongs d affinity v candidates (some true)
  | unknown {c : Scalar} (mem : c ∈ candidates) (unknown : EqualityIs d affinity v c none)
      (notEqual : ∀ w ∈ candidates, ∃ k, EqualityIs d affinity v w k ∧ k ≠ some true) :
      Belongs d affinity v candidates none
  | absent (different : ∀ w ∈ candidates, EqualityIs d affinity v w (some false)) :
      Belongs d affinity v candidates (some false)

namespace Belongs

theorem nil : Belongs d affinity v [] (some false) := .absent (List.forall_mem_nil _)

/-- Where the membership is not sure, no equality is true. -/
theorem exists_ne_true (belongs : Belongs d affinity v candidates k) (unsure : k ≠ some true) :
    ∀ w ∈ candidates, ∃ here, EqualityIs d affinity v w here ∧ here ≠ some true := by
  cases belongs with
  | present => exact absurd rfl unsure
  | unknown _ _ notEqual => exact notEqual
  | absent different => exact fun w mem => ⟨_, different w mem, nofun⟩

/-- One more candidate adds its equality to the disjunction. -/
theorem cons {here : Kleene} (known : EqualityIs d affinity v c here)
    (rest : Belongs d affinity v candidates k) :
    Belongs d affinity v (c :: candidates) (Kleene.or here k) := by
  by_cases isTrue : here = some true
  · subst isTrue
    exact .present List.mem_cons_self known
  -- One that is not equal leaves all to the rest. One that may be equal leaves it open, unless the rest settles it.
  · cases rest with
    | present mem equal =>
        have sure : Kleene.or here (some true) = some true := by rcases here with _ | _ | _ <;> rfl
        rw [sure]
        exact .present (List.mem_cons_of_mem _ mem) equal
    | unknown mem unknown notEqual =>
        have unsure : Kleene.or here none = none := by
          rcases here with _ | _ | _
          · rfl
          · rfl
          · exact absurd rfl isTrue
        rw [unsure]
        exact .unknown (List.mem_cons_of_mem _ mem) unknown
          (List.forall_mem_cons.mpr ⟨⟨here, known, isTrue⟩, notEqual⟩)
    | absent different =>
        rcases here with _ | _ | _
        · exact .unknown List.mem_cons_self known (List.forall_mem_cons.mpr
            ⟨⟨none, known, isTrue⟩, fun w mem => ⟨_, different w mem, nofun⟩⟩)
        · exact .absent (List.forall_mem_cons.mpr ⟨known, different⟩)
        · exact absurd rfl isTrue

/-- The equalities tell one thing of the membership. -/
theorem unique (first : Belongs d affinity v candidates k) (second : Belongs d affinity v candidates k') :
    k = k' := by
  -- A candidate that is equal settles the membership, so that the other account has to say so as well.
  have sure {k : Kleene} {c : Scalar} (mem : c ∈ candidates) (equal : EqualityIs d affinity v c (some true))
      (belongs : Belongs d affinity v candidates k) : k = some true := by
    by_contra unsure
    obtain ⟨here, known, notTrue⟩ := belongs.exists_ne_true unsure c mem
    exact notTrue (known.unique equal)
  cases first with
  | present mem equal => exact (sure mem equal second).symm
  | unknown mem unknown notEqual =>
      cases second with
      | present mem equal => exact sure mem equal (.unknown ‹_› unknown notEqual)
      | unknown => rfl
      | absent different => exact unknown.unique (different _ mem)
  | absent different =>
      cases second with
      | present mem equal => exact sure mem equal (.absent different)
      | unknown mem unknown => exact (different _ mem).unique unknown
      | absent => rfl

/-- The same candidates tell the same, in whatever order and however often they stand. -/
theorem of_same_members (same : ∀ c, c ∈ candidates ↔ c ∈ candidates')
    (belongs : Belongs d affinity v candidates k) : Belongs d affinity v candidates' k := by
  cases belongs with
  | present mem equal => exact .present ((same _).mp mem) equal
  | unknown mem unknown notEqual =>
      exact .unknown ((same _).mp mem) unknown fun w mem => notEqual w ((same w).mpr mem)
  | absent different => exact .absent fun w mem => different w ((same w).mpr mem)

/-- What equalities with a column affinity tell, they tell by any. -/
theorem of_affinity (affinity : Bool) (belongs : Belongs d true v candidates k) :
    Belongs d affinity v candidates k := by
  cases belongs with
  | present mem equal => exact .present mem (equal.of_affinity affinity)
  | unknown mem unknown notEqual =>
      exact .unknown mem (unknown.of_affinity affinity) fun w mem =>
        (notEqual w mem).imp fun _ here => ⟨here.1.of_affinity affinity, here.2⟩
  | absent different => exact .absent fun w mem => (different w mem).of_affinity affinity

/-- Of null it is unknown whether it is among candidates, if there are any. -/
theorem of_null (some_candidate : candidates ≠ []) : Belongs d affinity .null candidates none := by
  obtain ⟨c, mem⟩ := List.exists_mem_of_ne_nil _ some_candidate
  exact .unknown mem (.of_null d affinity c) fun w _ => ⟨none, .of_null d affinity w, nofun⟩

end Belongs

/-- A disjunction that is known is what its equalities tell. -/
theorem belongs_of_anyEqual (told : anyEqual d affinity v candidates = .ok k) :
    Belongs d affinity v candidates k := by
  induction candidates generalizing k with
  | nil =>
      cases told
      exact .nil
  | cons c candidates ih =>
      obtain ⟨here, rest, known, others, rfl⟩ := anyEqual_cons_eq_ok_iff.mp told
      exact .cons known (ih others)

/-! ### The test -/

/-- What a test has found after candidates of which none is equal: whether it is unknown of one of them. -/
def soFar (sawNull : Bool) : Kleene := if sawNull then none else some false

/-- One step of a test: it ends at a candidate that is equal, and goes on with what is known after any other. -/
theorem isAmong_cons {here : Kleene} (known : EqualityIs d true v c here) (sawNull : Bool) :
    isAmong d negated v sawNull (c :: candidates) =
      if here = some true then .ok (.ofTruth (Kleene.negateIf negated (some true)))
      else isAmong d negated v (sawNull || here.isNone) candidates := by
  unfold EqualityIs at known
  rw [isAmong, known, ← negate_eq_negateIf]
  rcases here with _ | _ | _
  · rw [Option.isNone_none, Bool.or_true]
    rfl
  · rw [Option.isNone_some, Bool.or_false]
    rfl
  · rfl

/-- A test tells the disjunction of what it has found so far and of what the equalities with the candidates that
are left tell. -/
theorem belongs_of_isAmong {sawNull : Bool} {w : Scalar}
    (value : isAmong d negated v sawNull candidates = .ok w) :
    ∃ k, Belongs d true v candidates k ∧ w = .ofTruth (Kleene.negateIf negated (Kleene.or (soFar sawNull) k)) := by
  induction candidates generalizing sawNull with
  | nil =>
      refine ⟨some false, .nil, ?_⟩
      cases sawNull with
      | true =>
          cases value
          cases negated <;> rfl
      | false =>
          have ended : negate negated (.ofTruth (some false)) = .ok w := value
          rw [negate_eq_negateIf] at ended
          exact (Except.ok.inj ended).symm
  | cons c candidates ih =>
      obtain ⟨x, compared, -⟩ := bind_eq_ok.mp value
      obtain ⟨here, rfl⟩ := ComparisonOperator.exists_ofTruth compared
      rw [isAmong_cons compared] at value
      split at value
      · rename_i isTrue
        subst isTrue
        cases value
        refine ⟨some true, .present List.mem_cons_self compared, ?_⟩
        cases sawNull <;> rfl
      · rename_i notTrue
        obtain ⟨k, rest, rfl⟩ := ih value
        refine ⟨Kleene.or here k, .cons compared rest, ?_⟩
        -- What the equality adds to what was found before is what it adds to what follows.
        have moved : Kleene.or (soFar (sawNull || here.isNone)) k = Kleene.or (soFar sawNull) (Kleene.or here k) := by
          rcases here with _ | _ | _
          · cases sawNull <;> rcases k with _ | _ | _ <;> rfl
          · cases sawNull <;> rcases k with _ | _ | _ <;> rfl
          · exact absurd rfl notTrue
        rw [moved]

/-- A test of which all equalities are known has a value. -/
theorem exists_isAmong (known : ∀ c ∈ candidates, ∃ k, EqualityIs d true v c k) (sawNull : Bool) :
    ∃ w, isAmong d negated v sawNull candidates = .ok w := by
  induction candidates generalizing sawNull with
  | nil =>
      cases sawNull with
      | true => exact ⟨_, rfl⟩
      | false => exact ⟨_, negate_eq_negateIf negated (some false)⟩
  | cons c candidates ih =>
      obtain ⟨⟨here, equality⟩, others⟩ := List.forall_mem_cons.mp known
      rw [isAmong_cons equality]
      split
      · exact ⟨_, rfl⟩
      · exact ih others _

/-- A test tells what the equalities tell, but for null among no candidates. -/
theorem belongs_of_isIn {w : Scalar} (value : isIn d negated v candidates = .ok w)
    (apart : ¬ (v = .null ∧ candidates = [])) :
    ∃ k, Belongs d true v candidates k ∧ w = .ofTruth (Kleene.negateIf negated k) := by
  unfold isIn at value
  split at value
  · rename_i null
    cases value
    obtain rfl := Scalar.isNull_iff.mp null
    refine ⟨none, .of_null fun empty => apart ⟨rfl, empty⟩, ?_⟩
    cases negated <;> rfl
  · obtain ⟨k, belongs, rfl⟩ := belongs_of_isAmong value
    refine ⟨k, belongs, ?_⟩
    have nothing : Kleene.or (soFar false) k = k := by rcases k with _ | _ | _ <;> rfl
    rw [nothing]

/-- A test of membership is the disjunction of the equalities with the candidates, or the negation of it, wherever
both are known, except that null among no candidates is null, where the disjunction is false. Wherever the
equalities are known by the affinity that the test takes its operands to have, the test has a value. -/
theorem isIn_eq_anyEqual (d : Dialect) (negated affinity : Bool) (v : Scalar) (candidates : List Scalar)
    (told : anyEqual d affinity v candidates = .ok k) :
    (∀ w, isIn d negated v candidates = .ok w →
      w = if v = .null ∧ candidates = [] then .null else .ofTruth (k.negateIf negated)) ∧
    (affinity = true → ∃ w, isIn d negated v candidates = .ok w) := by
  constructor
  · intro w value
    split
    · rename_i empty
      obtain ⟨rfl, rfl⟩ := empty
      cases value
      rfl
    · rename_i apart
      obtain ⟨k', belongs, rfl⟩ := belongs_of_isIn value apart
      rw [(belongs.of_affinity affinity).unique (belongs_of_anyEqual told)]
  · rintro rfl
    unfold isIn
    split
    · exact ⟨_, rfl⟩
    · exact exists_isAmong (exists_equalityIs_of_anyEqual told) false

/-- A text is among another text, null and itself in capitals, in MySQL, so that the negated test is false. -/
theorem isIn_eq_anyEqual_capitals :
    let candidates := [.text "b", .null, .text "A"]
    anyEqual .mysql true (.text "a") candidates = .ok (some true) ∧
      isIn .mysql true (.text "a") candidates = .ok (.ofBool false) := by
  intro candidates
  have told : anyEqual .mysql true (.text "a") candidates = .ok (some true) := rfl
  obtain ⟨answer, known⟩ := isIn_eq_anyEqual .mysql true true (.text "a") candidates told
  obtain ⟨w, value⟩ := known rfl
  rw [value, answer w value]
  exact ⟨told, rfl⟩

/-- That null is among no candidates is false as a disjunction. The test and its negation leave it unknown, and so do
their predictions. -/
theorem isIn_null_of_none :
    anyEqual .sqlite true .null [] = .ok (some false) ∧
      isIn .sqlite false .null [] = .ok .null ∧ isIn .sqlite true .null [] = .ok .null ∧
      (Expr.isIn false (.constant .null) []).predict .sqlite = .ok (.value .null) ∧
      (Expr.isIn true (.constant .null) []).predict .sqlite = .ok (.value .null) :=
  ⟨rfl, rfl, rfl, rfl, rfl⟩

/-- Tests of one value with the same candidates, in whatever order and however often these stand, have the same
value if they have one. -/
theorem isIn_of_same_members (same : ∀ c, c ∈ candidates ↔ c ∈ candidates') {w w' : Scalar}
    (value : isIn d negated v candidates = .ok w) (value' : isIn d negated v candidates' = .ok w') : w = w' := by
  by_cases empty : v = .null ∧ candidates = []
  · obtain ⟨rfl, -⟩ := empty
    cases value
    cases value'
    rfl
  · have empty' : ¬ (v = .null ∧ candidates' = []) := by
      rintro ⟨null, rfl⟩
      exact empty ⟨null, List.eq_nil_iff_forall_not_mem.mpr fun c mem => nomatch (same c).mp mem⟩
    obtain ⟨k, belongs, rfl⟩ := belongs_of_isIn value empty
    obtain ⟨k', belongs', rfl⟩ := belongs_of_isIn value' empty'
    rw [(belongs.of_same_members same).unique belongs']

end Values

/-! ### Expressions -/

namespace Expr

variable {d : Dialect} {negated : Bool} {e : Expr} {candidates candidates' : List Expr}

/-- A value is among those of expressions where one of these has it. -/
theorem mem_of_evaluateAll {values : List Scalar} (evaluated : evaluateAll d candidates = .ok values)
    (w : Scalar) : w ∈ values ↔ ∃ c ∈ candidates, c.evaluate d = .ok w := by
  induction candidates generalizing values with
  | nil =>
      cases evaluated
      simp
  | cons c candidates ih =>
      obtain ⟨v, value, rest⟩ := bind_eq_ok.mp evaluated
      obtain ⟨others, evaluatedRest, same⟩ := bind_eq_ok.mp rest
      cases same
      have first : w = v ↔ c.evaluate d = .ok w := by
        rw [value]
        exact ⟨fun same => same ▸ rfl, fun same => (Except.ok.inj same).symm⟩
      simp only [List.mem_cons, ih evaluatedRest, exists_eq_or_imp, first]

/-- A test of membership has a value where its operand and all its candidates have values that it has one for. -/
theorem evaluate_isIn_eq_ok_iff {w : Scalar} :
    (isIn negated e candidates).evaluate d = .ok w ↔
      ∃ v values, e.evaluate d = .ok v ∧ evaluateAll d candidates = .ok values ∧
        PivotOracle.isIn d negated v values = .ok w := by
  simp only [evaluate, bind_eq_ok]
  constructor
  · rintro ⟨v, subject, values, evaluated, value⟩
    exact ⟨v, values, subject, evaluated, value⟩
  · rintro ⟨v, values, subject, evaluated, value⟩
    exact ⟨v, subject, values, evaluated, value⟩

/-- Two tests of one operand for membership among the same candidates have the same prediction where both are
predicted, in whatever order and however often the candidates stand. -/
theorem predict_isIn_of_same_candidates {w w' : Scalar} (same : ∀ c, c ∈ candidates ↔ c ∈ candidates')
    (predicted : (isIn negated e candidates).predict d = .ok (.value w))
    (predicted' : (isIn negated e candidates').predict d = .ok (.value w')) : w = w' := by
  obtain ⟨v, values, subject, evaluated, value⟩ := evaluate_isIn_eq_ok_iff.mp (predict_eq_value_iff.mp predicted)
  obtain ⟨v', values', subject', evaluated', value'⟩ :=
    evaluate_isIn_eq_ok_iff.mp (predict_eq_value_iff.mp predicted')
  cases subject.symm.trans subject'
  refine isIn_of_same_members (fun u => ?_) value value'
  rw [mem_of_evaluateAll evaluated, mem_of_evaluateAll evaluated']
  simp only [same]

/-- A text is among null, itself in capitals and a text whose order to it is not certain, in either of two orders in
which its capitals come before that text. -/
theorem predict_isIn_of_same_candidates_order :
    let letter (s : String) := constant (.text s)
    let candidates := [constant .null, letter "A", letter "é"]
    let candidates' := [letter "A", letter "é", letter "A", constant .null]
    (∀ c, c ∈ candidates ↔ c ∈ candidates') ∧
      (isIn true (letter "a") candidates).predict .mysql = .ok (.value (.ofBool false)) ∧
      (isIn true (letter "a") candidates').predict .mysql = .ok (.value (.ofBool false)) := by
  intro letter candidates candidates'
  have same : ∀ c, c ∈ candidates ↔ c ∈ candidates' := by
    intro c
    simp only [candidates, candidates', List.mem_cons, List.not_mem_nil, or_false]
    tauto
  have predicted : (isIn true (letter "a") candidates).predict .mysql = .ok (.value (.ofBool false)) := rfl
  have predicted' : ∃ w, (isIn true (letter "a") candidates').predict .mysql = .ok (.value w) := ⟨_, rfl⟩
  obtain ⟨w, value⟩ := predicted'
  cases predict_isIn_of_same_candidates same predicted value
  exact ⟨same, predicted, value⟩

/-- Where the text whose order is not certain comes first, the test is given up. -/
example :
    (isIn true (constant (.text "a")) [constant (.text "é"), constant (.text "A")]).predict .mysql =
      .ok (.discarded (.collation (.text "a") (.text "é"))) :=
  rfl

end Expr

end PivotOracle
