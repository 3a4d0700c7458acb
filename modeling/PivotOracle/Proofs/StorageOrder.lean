import PivotOracle.Predict.Comparison
import PivotOracle.Proofs.TextOrder

/-!
# The order of stored values

Where no affinity converts an operand, SQLite compares values by how they are stored: null first, then integers
by value, then texts. This is a total order in which no two values tie.

* `Scalar.storageOrder` — the order of stored values.
* `compareValues_eq_storageOrder` — values without affinity compare by it.
* `compareValues_sqlite_total` — it is a total order, on texts that of their bytes.
-/

namespace PivotOracle

namespace Scalar

/-- The place of a value among those that are stored in another way. -/
def storageRank : Scalar → Nat
  | .null => 0
  | .int _ => 1
  | .text _ => 2

/-- The order of stored values. -/
def storageOrder : Scalar → Scalar → Ordering
  | .int m, .int n => Ord.compare m.val n.val
  | .text s, .text t => s.compare t
  | a, b => Ord.compare a.storageRank b.storageRank

/-- The integer of a value, zero where it has none. -/
def integerPart : Scalar → Int
  | .int n => n.val
  | _ => 0

/-- The text of a value, empty where it has none. -/
def textPart : Scalar → Text
  | .text t => t
  | _ => []

/-- Stored values compare by their ranks, then as integers, then as texts. -/
theorem storageOrder_eq_compareLex : storageOrder = compareLex (compareOn storageRank)
    (compareLex (compareOn integerPart) fun a b => a.textPart.compare b.textPart) := by
  funext a b
  cases a with
  | null => cases b <;> rfl
  | int m =>
      cases b with
      | int n => exact Ordering.then_eq.symm
      | null => rfl
      | text t => rfl
  | text s => cases b <;> rfl

instance : Std.TransCmp fun a b : Scalar => a.textPart.compare b.textPart where
  eq_swap := Std.OrientedCmp.eq_swap
  isLE_trans := Std.TransCmp.isLE_trans

instance : Std.TransCmp storageOrder := by
  rw [storageOrder_eq_compareLex]
  infer_instance

/-- Values of equal ranks, integers and texts are the same. -/
theorem eq_of_parts {a b : Scalar} (rank : a.storageRank = b.storageRank)
    (integer : a.integerPart = b.integerPart) (text : a.textPart = b.textPart) : a = b := by
  cases a with
  | null =>
      cases b with
      | null => rfl
      | int n => cases rank
      | text t => cases rank
  | int m =>
      cases b with
      | null => cases rank
      | int n =>
          cases m
          cases n
          cases integer
          rfl
      | text t => cases rank
  | text s =>
      cases b with
      | null => cases rank
      | int n => cases rank
      | text t => exact congrArg Scalar.text text

instance : Std.LawfulEqCmp storageOrder where
  compare_self := Std.ReflCmp.compare_self
  eq_of_compare {a b} same := by
    rw [storageOrder_eq_compareLex] at same
    obtain ⟨rank, parts⟩ := Ordering.then_eq_eq.mp same
    obtain ⟨integer, text⟩ := Ordering.then_eq_eq.mp parts
    exact eq_of_parts (Nat.compare_eq_eq.mp rank) (Int.compare_eq_eq.mp integer)
      (Std.LawfulEqCmp.eq_of_compare text)

end Scalar

/-- Values that are not null compare in SQLite as they are stored, where no affinity converts one of them. -/
theorem compareValues_eq_storageOrder {l r : Scalar} (left : l.isNull = false) (right : r.isNull = false) :
    compareValues .sqlite false l r = .ok (l.storageOrder r) := by
  cases l with
  | null => cases left
  | int m =>
      cases r with
      | null => cases right
      | int n => rfl
      | text t => rfl
  | text s =>
      cases r with
      | null => cases right
      | int n => rfl
      | text t => rfl

/-- Without affinity, SQLite's comparison of values that are not null is a total order. Exchanged values have the
opposite order, only a value itself is equal to it, and what comes before what comes before a value comes before
the value. Integers are ordered by value and come before every text, and texts without stray bytes are ordered
as the bytes of their encodings, a proper prefix first. -/
theorem compareValues_sqlite_total {a b c : Scalar} (first : a.isNull = false) (second : b.isNull = false)
    (third : c.isNull = false) :
    ∃ ab bc ac : Ordering, compareValues .sqlite false a b = .ok ab ∧
      compareValues .sqlite false b c = .ok bc ∧ compareValues .sqlite false a c = .ok ac ∧
      compareValues .sqlite false b a = .ok ab.swap ∧ (ab = .eq ↔ a = b) ∧
      (ab.isLE → bc.isLE → ac.isLE) ∧
      (∀ m n, a = .int m → b = .int n → ab = Ord.compare m.val n.val) ∧
      (∀ m t, a = .int m → b = .text t → ab = .lt) ∧
      ∀ s t : String, a = .text s → b = .text t →
        ab = Ord.compare s.toUTF8.data.toList t.toUTF8.data.toList := by
  have opposite : (a.storageOrder b).swap = b.storageOrder a := Std.OrientedCmp.eq_swap.symm
  refine ⟨_, _, _, compareValues_eq_storageOrder first second, compareValues_eq_storageOrder second third,
    compareValues_eq_storageOrder first third, ?_, Std.LawfulEqCmp.compare_eq_iff_eq,
    Std.TransCmp.isLE_trans, ?_, ?_, ?_⟩
  · rw [opposite]
    exact compareValues_eq_storageOrder second first
  · rintro m n rfl rfl
    rfl
  · rintro m t rfl rfl
    rfl
  · rintro s t rfl rfl
    exact Text.compare_ofString s t

/-- An integer, the last character of three bytes and the first one of four, each before the next. -/
theorem compareValues_sqlite_ascending :
    let a := Scalar.int 1
    let b := Scalar.text "\uFFFF"
    let c := Scalar.text "𐀀"
    a.isNull = false ∧ b.isNull = false ∧ c.isNull = false ∧
      compareValues .sqlite false a b = .ok .lt ∧ compareValues .sqlite false b c = .ok .lt ∧
      ∃ ac, compareValues .sqlite false a c = .ok ac ∧ ac.isLE := by
  intro a b c
  obtain ⟨ab, bc, ac, first, second, third, -, -, transitive, -, before, -⟩ :=
    compareValues_sqlite_total (a := a) (b := b) (c := c) rfl rfl rfl
  have less : compareValues .sqlite false b c = .ok .lt := rfl
  rw [before _ _ rfl rfl] at first transitive
  rw [second] at less
  cases less
  exact ⟨rfl, rfl, rfl, first, second, ac, third, transitive rfl rfl⟩

end PivotOracle
