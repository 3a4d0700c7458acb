import PivotOracle.Predict.Comparison

/-!
# Outcomes of operators

What an operator yields and how it fails is a matter of the texts among its operands: everything else
has a certain value. A set of texts and a set of failures that the readings of a dialect do not leave are
not left by any operator.

* `Yields` — a computation that fails within a set and otherwise has a value within another.
* `SameOutcome` — two computations have the same value, or fail alike.
* `OutcomeCongruence` — a relation between outcomes that computations keep, as equality and
  `SameOutcome` are.
* `Closed` — texts and failures that no reading of a dialect leaves.
* `truthOf_yields`, `castTo_yields`, `ArithmeticOperator.apply_yields`, `ComparisonOperator.apply_yields`,
  `between_yields`, `isIn_yields` — no operator leaves them either.
-/

namespace PivotOracle

/-- The failure of a computation satisfies `F`, or its value satisfies `P`. -/
def Yields {α : Type} (F : Failure → Prop) (P : α → Prop) : Except Failure α → Prop
  | .ok a => P a
  | .error f => F f

section Rules

variable {α β : Type} {F : Failure → Prop} {P Q : α → Prop} {x : Except Failure α}

@[simp] theorem yields_ok {a : α} : Yields F P (.ok a) ↔ P a := .rfl

@[simp] theorem yields_pure {a : α} : Yields F P (pure a) ↔ P a := .rfl

theorem Yields.mono (h : Yields F P x) (sub : ∀ a, P a → Q a) : Yields F Q x := by
  cases x with
  | ok a => exact sub a h
  | error f => exact h

theorem Yields.weaken {G : Failure → Prop} (h : Yields F P x) (sub : ∀ f, F f → G f) :
    Yields G P x := by
  cases x with
  | ok a => exact h
  | error f => exact sub f h

/-- Every computation yields something, whatever it is. -/
theorem Yields.of_trivial (x : Except Failure α) : Yields (fun _ => True) (fun _ => True) x := by
  cases x <;> trivial

theorem Yields.bind {R : β → Prop} {f : α → Except Failure β} (h : Yields F P x)
    (next : ∀ a, P a → Yields F R (f a)) : Yields F R (x >>= f) := by
  cases x with
  | ok a => exact next a h
  | error _ => exact h

/-- What yields values of a kind has a value of that kind. -/
theorem Yields.of_eq_ok {a : α} (h : Yields F P x) (value : x = .ok a) : P a := by
  rw [value] at h
  exact h

/-- A computation yields what it is known to have as its value. -/
theorem Yields.and_eq (h : Yields F P x) : Yields F (fun a => P a ∧ x = .ok a) x := by
  cases x with
  | ok a => exact ⟨h, rfl⟩
  | error _ => exact h

end Rules

/-- A computation of two steps succeeds where both do. -/
theorem bind_eq_ok {ε α β : Type} {x : Except ε α} {f : α → Except ε β} {b : β} :
    (x >>= f) = .ok b ↔ ∃ a, x = .ok a ∧ f a = .ok b := by
  cases x with
  | ok a => exact ⟨fun h => ⟨a, rfl, h⟩, fun ⟨_, ha, h⟩ => by cases ha; exact h⟩
  | error f =>
      constructor
      · intro h
        cases h
      · rintro ⟨_, ha, _⟩
        cases ha

/-- A computation of two steps fails where its first step does, or where its second step does after
it. -/
theorem bind_eq_error {α β : Type} {x : Except Failure α} {f : α → Except Failure β} {g : Failure} :
    (x >>= f) = .error g ↔ x = .error g ∨ ∃ a, x = .ok a ∧ f a = .error g := by
  cases x with
  | ok a =>
      constructor
      · exact fun failed => .inr ⟨a, rfl, failed⟩
      · rintro (failed | ⟨_, same, failed⟩)
        · cases failed
        · cases same
          exact failed
  | error f =>
      constructor
      · intro failed
        cases failed
        exact .inl rfl
      · rintro (failed | ⟨_, same, _⟩)
        · cases failed
          rfl
        · cases same

/-- Two computations have the same value, or fail alike: both discard, for whatever reason, or both fail
with the same failure. -/
inductive SameOutcome {α : Type} : Except Failure α → Except Failure α → Prop where
  | refl (x : Except Failure α) : SameOutcome x x
  | discarded (reason reason' : Discard) :
      SameOutcome (.error (.discard reason)) (.error (.discard reason'))

section SameOutcome

variable {α : Type} {x y : Except Failure α}

/-- Same outcomes have the same value, if any. -/
theorem SameOutcome.eq_ok_iff (same : SameOutcome x y) (a : α) : x = .ok a ↔ y = .ok a := by
  cases same with
  | refl x => exact .rfl
  | discarded reason reason' => exact ⟨nofun, nofun⟩

/-- Same outcomes have the same fault, if any. -/
theorem SameOutcome.eq_fault_iff (same : SameOutcome x y) (g : Fault) :
    x = .error (.fault g) ↔ y = .error (.fault g) := by
  cases same with
  | refl x => exact .rfl
  | discarded reason reason' => exact ⟨nofun, nofun⟩

/-- What goes on from one computation has the same outcome where it has from each of its values. -/
theorem sameOutcome_bind_iff {β : Type} {f g : α → Except Failure β} :
    SameOutcome (x >>= f) (x >>= g) ↔ ∀ a, x = .ok a → SameOutcome (f a) (g a) := by
  cases x with
  | ok a =>
      constructor
      · rintro same _ ⟨⟩
        exact same
      · exact fun each => each a rfl
  | error failure => exact ⟨fun _ => nofun, fun _ => .refl _⟩

end SameOutcome

/-- A relation between outcomes that computations keep: what goes on alike from related outcomes has
related outcomes. -/
structure OutcomeCongruence (R : {α : Type} → Except Failure α → Except Failure α → Prop) : Prop where
  refl : ∀ {α : Type} (x : Except Failure α), R x x
  bind : ∀ {α β : Type} {x y : Except Failure α} {f g : α → Except Failure β},
    R x y → (∀ a, R (f a) (g a)) → R (x >>= f) (y >>= g)

theorem outcomeCongruence_eq : OutcomeCongruence fun x y => x = y where
  refl _ := rfl
  bind := by
    rintro _ _ x _ f g rfl next
    exact bind_congr next

theorem outcomeCongruence_sameOutcome : OutcomeCongruence SameOutcome where
  refl := .refl
  bind := by
    intro _ _ x y f g same next
    cases same with
    | refl x =>
        cases x with
        | ok a => exact next a
        | error failure => exact .refl _
    | discarded reason reason' => exact .discarded reason reason'

/-- The text of a value, if it is one, satisfies `A`. -/
def Scalar.TextIn (A : Text → Prop) (v : Scalar) : Prop := ∀ t, v = .text t → A t

section TextIn

variable {A : Text → Prop}

@[simp] theorem textIn_null : Scalar.TextIn A .null := fun _ h => nomatch h

@[simp] theorem textIn_int {n : Bigint} : Scalar.TextIn A (.int n) := fun _ h => nomatch h

@[simp] theorem textIn_text {t : Text} : Scalar.TextIn A (.text t) ↔ A t :=
  ⟨fun h => h t rfl, fun h _ eq => by cases eq; exact h⟩

theorem textIn_of_isText_eq_false {v : Scalar} (h : v.isText = false) : v.TextIn A := by
  cases v with
  | text t => cases h
  | null => exact textIn_null
  | int n => exact textIn_int

@[simp] theorem isText_ofBool (b : Bool) : (Scalar.ofBool b).isText = false := rfl

@[simp] theorem isText_ofTruth (b : Kleene) : (Scalar.ofTruth b).isText = false := by
  cases b <;> rfl

end TextIn

/-- Whether a discard is one of reading a text as a number. -/
def Discard.ofReading : Discard → Bool
  | .leadingNewline _ _ | .integerPrefix _ | .numericPrefix _ | .readAsReal _ | .unknownReading _ => true
  | _ => false

/-- Texts `A` and failures `F` that the readings of a dialect do not leave: integers as texts are
among `A`, discards of all but readings are among `F`, and so are the failures of reading a text
of `A`. -/
structure Closed (d : Dialect) (A : Text → Prop) (F : Failure → Prop) : Prop where
  ofInt : ∀ n : Bigint, A (Text.ofInt n.val)
  discard : ∀ reason : Discard, reason.ofReading = false → F (.discard reason)
  signed : d = .mysql → ∀ t, A t → Yields F (fun _ => True) (readSigned numeralDigit t)
  double : d = .mysql → ∀ t, A t → Yields F (fun _ => True) (readDouble numeralDigit t)
  literal : d = .sqlite → ∀ t, A t → Yields F (fun _ => True) (readLiteral numeralDigit t)

variable {d : Dialect} {A : Text → Prop} {F : Failure → Prop}

/-! ### Truth -/

theorem Scalar.isTrue_yields (closed : Closed d A F) {v : Scalar} (notNull : v.isNull = false)
    (text : v.TextIn A) (mysql : v.isText = true → d = .mysql) :
    Yields F (fun _ => True) v.isTrue := by
  cases v with
  | null => cases notNull
  | int n => trivial
  | text t =>
      have read := closed.double (mysql rfl) t (textIn_text.mp text)
      exact read.bind fun _ _ => trivial

theorem truthOf_yields (closed : Closed d A F) {v : Scalar} (text : v.TextIn A) :
    Yields F (fun _ => True) (truthOf d v) := by
  cases v with
  | null => trivial
  | int n => trivial
  | text t =>
      cases d with
      | mysql =>
          have truth := Scalar.isTrue_yields closed (v := .text t) rfl text fun _ => rfl
          exact truth.bind fun _ _ => trivial
      | sqlite =>
          have read := closed.literal rfl t (textIn_text.mp text)
          exact read.bind fun _ _ => trivial

theorem PostfixTest.apply_yields (closed : Closed d A F) (op : PostfixTest) {v : Scalar}
    (text : v.TextIn A) : Yields F (fun w => w.isText = false) (op.apply d v) :=
  (truthOf_yields closed text).bind fun _ _ => by simp

theorem Connective.apply_yields (closed : Closed d A F) (op : Connective) {l r : Scalar}
    (left : l.TextIn A) (right : r.TextIn A) :
    Yields F (fun w => w.isText = false) (op.apply d l r) :=
  (truthOf_yields closed left).bind fun _ _ =>
    (truthOf_yields closed right).bind fun _ _ => by simp

theorem negate_yields (negated : Bool) {v : Scalar} (notText : v.isText = false) :
    Yields F (fun w => w.isText = false) (negate negated v) := by
  cases v with
  | null =>
      simp only [negate, Scalar.isNull, Bool.or_true, if_true, yields_ok]
      exact notText
  | int n =>
      cases negated with
      | false => exact notText
      | true => exact isText_ofBool _
  | text t => cases notText

/-! ### Casts and arithmetic -/

theorem Scalar.castText_textIn (closed : Closed d A F) {v : Scalar} (text : v.TextIn A) :
    v.castText.TextIn A := by
  cases v with
  | null => exact textIn_null
  | int n => exact textIn_text.mpr (closed.ofInt n)
  | text t => exact text

theorem Scalar.castSigned_yields (closed : Closed d A F) (mysql : d = .mysql) {v : Scalar}
    (text : v.TextIn A) :
    Yields F (fun w => w.isText = false ∧ (v.isNull = false → w.isNull = false)) v.castSigned := by
  cases v with
  | null => simp [Scalar.castSigned, Scalar.isText]
  | int n => simp [Scalar.castSigned, Scalar.isText, Scalar.isNull]
  | text t =>
      have read := closed.signed mysql t (textIn_text.mp text)
      exact read.bind fun _ _ => ⟨rfl, fun _ => rfl⟩

theorem castTo_yields (closed : Closed d A F) (target : CastTarget) {v : Scalar}
    (text : v.TextIn A) : Yields F (fun w => w.TextIn A) (castTo d target v) := by
  cases target with
  | text =>
      have cast : castTo d .text v = .ok v.castText := by cases d <;> cases v <;> rfl
      rw [cast]
      exact Scalar.castText_textIn closed text
  | signed =>
      cases d with
      | mysql =>
          exact (Scalar.castSigned_yields closed rfl text).mono fun _ h =>
            textIn_of_isText_eq_false h.1
      | sqlite =>
          cases v with
          | null => exact textIn_null
          | int n => exact textIn_int
          | text t =>
              have read := closed.literal rfl t (textIn_text.mp text)
              exact read.bind fun _ _ => textIn_int

/-- An integer is a signed 64-bit one. -/
abbrev IsBigint (n : Int) : Prop := minBigint ≤ n ∧ n ≤ maxBigint

theorem Scalar.ofInt_eq_ok {n : Int} (inRange : IsBigint n) :
    Scalar.ofInt n = .ok (.int ⟨n, inRange⟩) := by
  rw [Scalar.ofInt, Bigint.ofInt?, dif_pos inRange]

/-- The magnitude of an integer other than the least one is in range. -/
theorem Scalar.ofInt_natAbs {n : Bigint} (notLeast : n.val ≠ minBigint) :
    ∃ m, Scalar.ofInt n.val.natAbs = .ok (.int m) := by
  have inRange : minBigint ≤ (n.val.natAbs : Int) ∧ (n.val.natAbs : Int) ≤ maxBigint := by
    have := n.inRange
    simp only [minBigint, maxBigint] at *
    omega
  exact ⟨_, Scalar.ofInt_eq_ok inRange⟩

/-- A result is in range or discarded, so that it never fails for its range. -/
theorem bigintResult_yields (closed : Closed d A F) (n : Int) :
    Yields F (fun w => w.isText = false) (bigintResult n) := by
  unfold bigintResult
  split
  · rename_i inRange
    rw [Scalar.ofInt_eq_ok inRange]
    rfl
  · exact closed.discard _ rfl

theorem arithmeticOperand_yields (closed : Closed d A F) {v : Scalar} (notNull : v.isNull = false)
    (text : v.TextIn A) : Yields F (fun _ => True) (arithmeticOperand d v) := by
  cases v with
  | null => cases notNull
  | int n => cases d <;> trivial
  | text t =>
      cases d with
      | mysql =>
          simp only [arithmeticOperand]
          split
          · exact closed.discard _ rfl
          · have read := closed.signed rfl t (textIn_text.mp text)
            refine read.bind fun n _ => ?_
            split
            · exact closed.discard _ rfl
            · trivial
      | sqlite =>
          simp only [arithmeticOperand]
          split
          · exact closed.discard _ rfl
          · have read := closed.literal rfl t (textIn_text.mp text)
            exact read.bind fun _ _ => trivial

theorem ArithmeticOperator.apply_yields (closed : Closed d A F) (op : ArithmeticOperator)
    {l r : Scalar} (left : l.TextIn A) (right : r.TextIn A) :
    Yields F (fun w => w.isText = false) (op.apply d l r) := by
  unfold ArithmeticOperator.apply
  split
  · rfl
  · rename_i notNull
    simp only [Bool.or_eq_true, not_or, Bool.not_eq_true] at notNull
    refine (arithmeticOperand_yields closed notNull.1 left).bind fun a _ => ?_
    exact (arithmeticOperand_yields closed notNull.2 right).bind fun b _ =>
      bigintResult_yields closed _

theorem UnaryOperator.apply_yields (closed : Closed d A F) (op : UnaryOperator) {v : Scalar}
    (text : v.TextIn A) : Yields F (fun w => w.TextIn A) (op.apply d v) := by
  cases op with
  | plus => exact text
  | not =>
      refine (truthOf_yields closed text).bind fun b _ => ?_
      exact textIn_of_isText_eq_false (isText_ofTruth _)
  | minus =>
      simp only [UnaryOperator.apply]
      split
      · exact textIn_null
      · rename_i notNull
        refine (arithmeticOperand_yields closed (Bool.eq_false_iff.mpr notNull) text).bind
          fun a _ => ?_
        exact (bigintResult_yields closed _).mono fun _ => textIn_of_isText_eq_false

/-! ### Comparison -/

theorem compareText_yields (closed : Closed d A F) (l r : Text) :
    Yields F (fun _ => True) (compareText d l r) := by
  cases d with
  | sqlite => trivial
  | mysql =>
      simp only [compareText]
      split
      · trivial
      · exact closed.discard _ rfl

theorem Scalar.numeric_yields (closed : Closed d A F) (mysql : d = .mysql) {v : Scalar}
    (notNull : v.isNull = false) (text : v.TextIn A) :
    Yields F (fun _ => True) v.numeric := by
  cases v with
  | null => cases notNull
  | int n => trivial
  | text t =>
      have read := closed.double mysql t (textIn_text.mp text)
      exact read.bind fun _ _ => trivial

/-- A value that is neither null nor a text is an integer. -/
theorem Scalar.expectInt_yields {v : Scalar} (notNull : v.isNull = false)
    (notText : v.isText = false) : Yields F (fun _ => True) v.expectInt := by
  cases v with
  | null => cases notNull
  | int n => trivial
  | text t => cases notText

theorem compareValues_yields (closed : Closed d A F) (affinity : Bool) {l r : Scalar}
    (notNullLeft : l.isNull = false) (notNullRight : r.isNull = false)
    (left : l.TextIn A) (right : r.TextIn A) :
    Yields F (fun _ => True) (compareValues d affinity l r) := by
  unfold compareValues
  split
  · exact compareText_yields closed _ _
  · cases d with
    | sqlite =>
        simp only
        split
        · split
          · exact closed.discard _ rfl
          · trivial
        · rename_i notText
          simp only [Bool.or_eq_true, not_or, Bool.not_eq_true] at notText
          exact (Scalar.expectInt_yields notNullLeft notText.1).bind fun _ _ =>
            (Scalar.expectInt_yields notNullRight notText.2).bind fun _ _ => trivial
    | mysql =>
        exact (Scalar.numeric_yields closed rfl notNullLeft left).bind fun _ _ =>
          (Scalar.numeric_yields closed rfl notNullRight right).bind fun _ _ => trivial

theorem ComparisonOperator.apply_yields (closed : Closed d A F) (affinity collated : Bool)
    (op : ComparisonOperator) {l r : Scalar} (left : l.TextIn A) (right : r.TextIn A) :
    Yields F (fun w => w.isText = false) (op.apply d affinity collated l r) := by
  unfold ComparisonOperator.apply
  split
  · rw [yields_ok]
    split <;> rfl
  · rename_i notNull
    simp only [Bool.or_eq_true, not_or, Bool.not_eq_true] at notNull
    split
    · exact closed.discard _ rfl
    · exact (compareValues_yields closed affinity notNull.1 notNull.2 left right).bind
        fun _ _ => isText_ofBool _

theorem between_yields (closed : Closed d A F) (negated : Bool) {v low high : Scalar}
    (subject : v.TextIn A) (lower : low.TextIn A) (upper : high.TextIn A) :
    Yields F (fun w => w.isText = false) (between d negated v low high) := by
  have above := ComparisonOperator.apply_yields closed true false .ge subject lower
  have below := ComparisonOperator.apply_yields closed true false .le subject upper
  refine above.bind fun a notTextA => below.bind fun b notTextB => ?_
  refine (Connective.apply_yields closed .and (textIn_of_isText_eq_false notTextA)
    (textIn_of_isText_eq_false notTextB)).bind fun c notTextC => ?_
  exact negate_yields negated notTextC

theorem isAmong_yields (closed : Closed d A F) (negated : Bool) {v : Scalar}
    (subject : v.TextIn A) (candidates : List Scalar) (texts : ∀ c ∈ candidates, c.TextIn A)
    (sawNull : Bool) :
    Yields F (fun w => w.isText = false) (isAmong d negated v sawNull candidates) := by
  induction candidates generalizing sawNull with
  | nil =>
      cases sawNull with
      | false => exact negate_yields negated (isText_ofBool false)
      | true => rfl
  | cons c candidates ih =>
      obtain ⟨text, rest⟩ := List.forall_mem_cons.mp texts
      refine (ComparisonOperator.apply_yields closed true false .eq subject text).bind
        fun equal notText => ?_
      split
      · exact ih rest true
      · rename_i notNull
        have truth := Scalar.isTrue_yields closed (Bool.eq_false_iff.mpr notNull)
          (textIn_of_isText_eq_false notText) fun isText => absurd isText (by simp [notText])
        refine truth.bind fun same _ => ?_
        split
        · exact negate_yields negated (isText_ofBool true)
        · exact ih rest sawNull

theorem isIn_yields (closed : Closed d A F) (negated : Bool) {v : Scalar} (subject : v.TextIn A)
    {candidates : List Scalar} (texts : ∀ c ∈ candidates, c.TextIn A) :
    Yields F (fun w => w.isText = false) (isIn d negated v candidates) := by
  unfold isIn
  split
  · rfl
  · exact isAmong_yields closed negated subject candidates texts false

end PivotOracle
