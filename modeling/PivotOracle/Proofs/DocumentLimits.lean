import Mathlib.Algebra.Group.Nat.Defs
import PivotOracle.Proofs.Documents

/-!
# Limits of the reader of documents

All that is read is within the limits on nesting and on digits, its texts are valid Unicode, and a greater limit
changes nothing that is read.

* `Machine.Fit` — all that the machine has read is within the limits; steps keep this.
* `Json.read_fits` — so is what is read.
* `Json.read_mono` — what is read within a limit is read within a greater one.
* `Json.read_write_eq_none` — where the data is only too deep, its document is refused.
-/

namespace PivotOracle

namespace Json

/-! ### Leaves -/

/-- The value of few digits has few digits. -/
theorem digitCount_value_le {digits : List Char} {n : Nat} (few : digits.length ≤ n) (pos : 0 < n) :
    digitCount (asciiDigit.value digits) ≤ n :=
  (Nat.length_toDigits_le_iff (by decide) pos).mpr
    (Nat.lt_of_lt_of_le (DigitClass.value_asciiDigit_lt digits) (Nat.pow_le_pow_right (by decide) few))

/-- A number has no more digits than it is read from. -/
theorem isLeaf_of_readNumber {t rest : Text} {d : Data} (read : readNumber t = some (d, rest)) : d.IsLeaf := by
  obtain ⟨⟨numeral, _⟩, _, read⟩ := Option.bind_eq_some_iff.mp read
  simp only at read
  split at read
  · cases read
  · split at read
    · cases read
    · rename_i few
      have short : digitCount (asciiDigit.value numeral.whole) ≤ maxIntegerDigits :=
        digitCount_value_le (Nat.le_of_not_lt few) (by decide)
      split at read
      · split at read
        · cases read
        · cases read
          trivial
      · cases read
      · split at read
        · cases read
          trivial
        · cases read
          rw [Data.IsLeaf, natAbs_signed]
          exact short

/-- What is read from a string has no stray bytes: a symbol comes from an escape, or it was let pass. -/
theorem isUnicode_of_readString {skipped : Nat} {t s rest : Text}
    (read : readString skipped t = some (s, rest)) : s.isUnicode = true := by
  -- By the calls of the reader. A stray byte could only come from a symbol that is let pass, and there it is refused.
  fun_induction readString skipped t generalizing s with
  | case1 => cases read
  | case2 _ _ _ ih => exact ih read
  | case3 =>
      cases read
      rfl
  | case4 t ih =>
      obtain ⟨⟨c, length⟩, _, others⟩ := Option.bind_eq_some_iff.mp read
      obtain ⟨⟨tail, _⟩, readTail, same⟩ := Option.bind_eq_some_iff.mp others
      cases same
      have others : tail.isUnicode = true := ih length readTail
      exact others
  | case5 e t _ ih =>
      obtain ⟨c, _, others⟩ := Option.bind_eq_some_iff.mp read
      obtain ⟨⟨tail, _⟩, readTail, same⟩ := Option.bind_eq_some_iff.mp others
      cases same
      have others : tail.isUnicode = true := ih readTail
      exact others
  | case6 => cases read
  | case7 first t _ _ _ passes ih =>
      obtain ⟨⟨tail, _⟩, readTail, same⟩ := Option.bind_eq_some_iff.mp read
      cases same
      cases first with
      | byte b => exact absurd (.inr (.inr rfl)) passes
      | char c =>
          have others : tail.isUnicode = true := ih readTail
          exact others

/-- What a token stands for is no container. -/
theorem isLeaf_of_readToken {t rest : Text} {d : Data} (read : readToken t = some (.value d, rest)) :
    d.IsLeaf := by
  unfold readToken at read
  split at read
  -- The six signs stand for no data.
  iterate 6 cases read
  · obtain ⟨_, string, same⟩ := Option.map_eq_some_iff.mp read
    cases same
    exact isUnicode_of_readString string
  · split at read
    · rename_i word
      cases read
      obtain ⟨⟨_, _⟩, found, same⟩ := Option.map_eq_some_iff.mp word
      cases same
      have all : ∀ entry ∈ words, entry.2.IsLeaf := by simp [words, Data.IsLeaf]
      exact all _ (List.mem_of_find?_eq_some found)
    · obtain ⟨_, number, same⟩ := Option.map_eq_some_iff.mp read
      cases same
      exact isLeaf_of_readNumber number

theorem isLeaf_of_tokensWithin {fuel : Nat} {t : Text} {tokens : List Token}
    (lexed : tokensWithin fuel t = some tokens) {d : Data} (mem : .value d ∈ tokens) : d.IsLeaf := by
  induction fuel generalizing t tokens with
  | zero =>
      unfold tokensWithin at lexed
      split at lexed
      · cases lexed
        cases mem
      · cases lexed
      · contradiction
  | succ fuel ih =>
      unfold tokensWithin at lexed
      split at lexed
      · cases lexed
        cases mem
      · contradiction
      · rename_i same _
        cases same
        obtain ⟨⟨token, rest⟩, read, others⟩ := Option.bind_eq_some_iff.mp lexed
        obtain ⟨tail, lexedTail, whole⟩ := Option.bind_eq_some_iff.mp others
        cases whole
        rcases List.mem_cons.mp mem with first | later
        · cases first
          exact isLeaf_of_readToken read
        · exact ih lexedTail later

/-! ### The machine -/

/-- The data that an open container holds so far. -/
def Frame.held : Frame → List Data
  | .list items => items
  | .table entries _ => entries.map Prod.snd

/-- What the open containers hold is within the limits. -/
def FramesFit (limit : Nat) : List Frame → Prop
  | [] => True
  | frame :: frames => (∀ d ∈ frame.held, d.Fits (limit - frames.length)) ∧ FramesFit limit frames

/-- What is read but stands in no container yet is within the limits, for the given number of open ones. -/
def Expected.Fit (limit opened : Nat) : Expected → Prop
  | .keyOrClose entries | .key entries | .colon entries _ => ∀ entry ∈ entries, entry.2.Fits (limit - opened)
  | .finished d => d.Fits (limit + 1)
  | _ => True

/-- All that the machine has read is within the limits. -/
def Machine.Fit (limit : Nat) (m : Machine) : Prop :=
  FramesFit limit m.frames ∧ m.expected.Fit limit m.frames.length

namespace Machine

variable {limit : Nat} {frames : List Frame} {m next : Machine} {token : Token}

theorem Fit.complete {d : Data} (framesFit : FramesFit limit frames)
    (fits : d.Fits (limit + 1 - frames.length)) : (complete d frames).Fit limit := by
  cases frames with
  | nil => exact ⟨trivial, fits⟩
  | cons frame frames =>
      rw [List.length_cons, Nat.add_sub_add_right] at fits
      cases frame with
      | list items => exact ⟨⟨List.forall_mem_cons.mpr ⟨fits, framesFit.1⟩, framesFit.2⟩, trivial⟩
      | table entries key => exact ⟨⟨List.forall_mem_cons.mpr ⟨fits, framesFit.1⟩, framesFit.2⟩, trivial⟩

theorem Fit.complete_leaf {d : Data} (framesFit : FramesFit limit frames) (leaf : d.IsLeaf)
    (within : (Machine.complete d frames).depth ≤ limit) : (Machine.complete d frames).Fit limit := by
  rw [depth_complete] at within
  exact .complete framesFit (.leaf (by omega) leaf)

/-- A container that is closed is one level deeper than what it holds. -/
theorem Fit.close {d : Data} (framesFit : FramesFit limit frames)
    (fits : d.Fits (limit - frames.length + 1)) (within : (Machine.complete d frames).depth ≤ limit) :
    (Machine.complete d frames).Fit limit := by
  rw [depth_complete] at within
  exact .complete framesFit (fits.mono (by omega))

theorem fits_reverse {n : Nat} {items : List Data} (held : ∀ d ∈ items, d.Fits n) :
    (Data.list items.reverse).Fits (n + 1) :=
  .list (Nat.lt_succ_self n) fun d mem => held d (List.mem_reverse.mp mem)

theorem fits_closed {n : Nat} {entries : List (Text × Data)} (held : ∀ entry ∈ entries, entry.2.Fits n) :
    (closed entries).Fits (n + 1) :=
  .table (Nat.lt_succ_self n) fun entry mem => held entry (List.mem_reverse.mp (Table.mem_ofEntries mem))

/-- Starting a value keeps all within the limits. -/
theorem Fit.start (framesFit : FramesFit limit frames) (leaf : ∀ d, token = .value d → d.IsLeaf)
    (started : Machine.start frames token = some next) (within : next.depth ≤ limit) : next.Fit limit := by
  cases token with
  | openList =>
      cases started
      exact ⟨⟨nofun, framesFit⟩, trivial⟩
  | openTable =>
      cases started
      exact ⟨framesFit, nofun⟩
  | value d =>
      cases started
      exact .complete_leaf framesFit (leaf d rfl) within
  | closeList => cases started
  | closeTable => cases started
  | comma => cases started
  | colon => cases started

/-- A step keeps all within the limits. -/
theorem Fit.step (fit : m.Fit limit) (leaf : ∀ d, token = .value d → d.IsLeaf)
    (stepped : m.step token = some next) (within : next.depth ≤ limit) : next.Fit limit := by
  obtain ⟨frames, expected⟩ := m
  obtain ⟨framesFit, expectedFit⟩ := fit
  -- By what the machine waits for. A token that does not belong there ends the run, and so there is little to show
  -- for the others: a value has come in, or a container is closed whose items were all within the limits.
  cases expected with
  | value => exact .start framesFit leaf stepped within
  | valueOrClose =>
      by_cases close : token = .closeList
      · subst close
        cases frames with
        | nil => cases stepped
        | cons frame frames =>
            cases frame with
            | list items =>
                cases stepped
                exact .close framesFit.2 (fits_reverse framesFit.1) within
            | table entries key => cases stepped
      · rw [step_of_awaitsValue (.inr rfl) frames close] at stepped
        exact .start framesFit leaf stepped within
  | keyOrClose entries =>
      cases token with
      | closeTable =>
          cases stepped
          exact .close framesFit (fits_closed expectedFit) within
      | value d =>
          cases d with
          | text key =>
              cases stepped
              exact ⟨framesFit, expectedFit⟩
          | _ => cases stepped
      | _ => cases stepped
  | key entries =>
      cases token with
      | value d =>
          cases d with
          | text key =>
              cases stepped
              exact ⟨framesFit, expectedFit⟩
          | _ => cases stepped
      | _ => cases stepped
  | colon entries key =>
      cases token with
      | colon =>
          cases stepped
          exact ⟨⟨List.forall_mem_map.mpr expectedFit, framesFit⟩, trivial⟩
      | _ => cases stepped
  | separator =>
      cases frames with
      | nil => cases token <;> cases stepped
      | cons frame frames =>
          cases frame with
          | list items =>
              cases token with
              | comma =>
                  cases stepped
                  exact ⟨framesFit, trivial⟩
              | closeList =>
                  cases stepped
                  exact .close framesFit.2 (fits_reverse framesFit.1) within
              | _ => cases stepped
          | table entries key =>
              have held := List.forall_mem_map.mp framesFit.1
              cases token with
              | comma =>
                  cases stepped
                  exact ⟨framesFit.2, held⟩
              | closeTable =>
                  cases stepped
                  exact .close framesFit.2 (fits_closed held) within
              | _ => cases stepped
  | finished d => cases token <;> cases stepped

/-- A run keeps all within the limits. -/
theorem Fit.run {tokens : List Token} (fit : m.Fit limit) (leaf : ∀ d, .value d ∈ tokens → d.IsLeaf)
    (ran : m.run limit tokens = some next) : next.Fit limit := by
  induction tokens generalizing m with
  | nil =>
      cases ran
      exact fit
  | cons token tokens ih =>
      obtain ⟨after, stepped, others⟩ := Option.bind_eq_some_iff.mp ran
      obtain ⟨within, ran⟩ := Option.ite_none_right_eq_some.mp others
      have first : ∀ d, token = .value d → d.IsLeaf := by
        rintro d rfl
        exact leaf d List.mem_cons_self
      exact ih (fit.step first stepped within) (fun d mem => leaf d (List.mem_cons_of_mem _ mem)) ran

/-- A run within a limit is one within a greater limit. -/
theorem run_mono {larger : Nat} {tokens : List Token} (le : limit ≤ larger)
    (ran : m.run limit tokens = some next) : m.run larger tokens = some next := by
  induction tokens generalizing m with
  | nil => exact ran
  | cons token tokens ih =>
      obtain ⟨after, stepped, others⟩ := Option.bind_eq_some_iff.mp ran
      obtain ⟨within, ran⟩ := Option.ite_none_right_eq_some.mp others
      rw [run, stepped, Option.bind_eq_bind, Option.bind_some, if_pos (Nat.le_trans within le)]
      exact ih ran

end Machine

/-! ### What is read -/

/-- What is read is within the limits of the reader. -/
theorem read_fits {limit : Nat} {t : Text} {d : Data} (read : Json.read limit t = some d) :
    d.Fits (limit + 1) := by
  obtain ⟨tokens, lexed, rest⟩ := Option.bind_eq_some_iff.mp read
  obtain ⟨m, ran, finished⟩ := Option.bind_eq_some_iff.mp rest
  have start : Machine.Fit limit ⟨[], .value⟩ := ⟨trivial, trivial⟩
  have fit : m.Fit limit := start.run (fun d mem => isLeaf_of_tokensWithin lexed mem) ran
  split at finished
  · rename_i same
    cases finished
    have fits := fit.2
    rw [same] at fits
    exact fits
  · cases finished

/-- What is read within a limit is read within a greater one. -/
theorem read_mono {limit larger : Nat} {t : Text} {d : Data} (le : limit ≤ larger)
    (read : Json.read limit t = some d) : Json.read larger t = some d := by
  obtain ⟨tokens, lexed, rest⟩ := Option.bind_eq_some_iff.mp read
  obtain ⟨m, ran, finished⟩ := Option.bind_eq_some_iff.mp rest
  rw [Json.read, lexed, Option.bind_eq_bind, Option.bind_some, Machine.run_mono le ran]
  exact finished

/-- The document of writable data that is deeper than the limit is not read at all. -/
theorem read_write_eq_none {limit n : Nat} {d : Data} (writable : d.Writable) (fits : d.Fits n)
    (deep : ¬ d.Fits (limit + 1)) : read limit (write d) = none := by
  cases shallow : read limit (write d) with
  | none => rfl
  | some other =>
      have le : limit + 1 ≤ n := Nat.le_of_not_lt fun lt => deep (fits.mono (Nat.le_of_lt lt))
      -- A reader with more room reads the data itself, and so nothing else.
      have roomy : read n (write d) = some d := read_write writable (fits.mono (Nat.le_succ n))
      have same : read n (write d) = some other := read_mono (Nat.le_of_succ_le le) shallow
      rw [roomy] at same
      cases same
      exact absurd (read_fits shallow) deep

end Json

end PivotOracle
