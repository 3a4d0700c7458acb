import PivotOracle.Trace

/-!
# Temporary settings

Blocks of overridden settings nest, follow each other and end in failures, and all of them work on one object. As
long as they override nothing but attributes that stand in a table, the object shows none of this afterwards: what
is done in a block sees for each attribute the value of the innermost block that names it, a block that cannot be
started changes nothing, and whatever happened inside, the attributes are as before.

Three names are those of no entry of a table: the class, the list of weak references, and the table itself. Setting one
of the first two ends a block when others have already been set, and setting the third one puts the others aside
for a while, so that what a block has set before it is put back in the wrong table. Either way those attributes keep
the values of the block.

* `Rendering.seen` — the attributes inside nested blocks.
* `Rendering.putAll`, `Rendering.Agrees` — what setting plain attributes does, and what cannot be told apart by it.
* `Rendering.temporary_of_plain` — a block restores what its body leaves as it was.
* `Rendering.temporary_of_unsettable`, `Rendering.temporary_of_table` — what the other blocks leave.
* `StyledWork.run`, `StyledWork.byScopes` — work in nested blocks, with one object for all blocks, and with attributes of
  its own for each block.
* `StyledWork.run_of_plain` — the two agree, and what blocks with the three names leave.
-/

namespace PivotOracle

namespace Rendering

/-- The value that entries give a name: the last one, where they name it more than once. -/
def value? {α : Type} (entries : List (Text × α)) (name : Text) : Option α := entries.reverse.lookup name

/-- The value that nested blocks give a name, the innermost block first: that of the first one that names it. -/
def innermost? (blocks : List Overrides) (name : Text) : Option Data := blocks.findSome? (value? · name)

/-- The attributes inside nested blocks, the innermost block first: each has the value of the innermost block that
names it, or else the value outside all of them. -/
def seen (s : Rendering) (blocks : List Overrides) : Attributes := fun name =>
  ((innermost? blocks name).map .data).or (s.get? name)

/-- The names that are those of no entry of a table. -/
def specialNames : List Text := [tableName, className, weakReferenceName]

/-- Entries of which each can stand in a table. -/
def Plain {α : Type} (entries : List (Text × α)) : Prop := ∀ entry ∈ entries, entry.1 ∉ specialNames

instance {α : Type} (entries : List (Text × α)) : Decidable (Plain entries) :=
  inferInstanceAs (Decidable (∀ entry ∈ entries, entry.1 ∉ specialNames))

variable {s t : Rendering} {overrides : Overrides} {name : Text}

/-! ### Entries and their names -/

section Entries

variable {α : Type} {entries : List (Text × α)}

theorem value?_cons (first : Text) (a : α) (rest : List (Text × α)) (name : Text) :
    value? ((first, a) :: rest) name = (value? rest name).or (if name = first then some a else none) := by
  rw [value?, List.reverse_cons, List.lookup_append, ← value?]
  by_cases named : name = first
  · simp [named]
  · simp [named, List.lookup_cons, beq_eq_false_iff_ne.mpr named]

theorem value?_eq_none (unnamed : name ∉ entries.map (·.1)) : value? entries name = none := by
  refine List.lookup_eq_none_iff.mpr fun entry mem => bne_iff_ne.mpr ?_
  rintro rfl
  exact unnamed (List.mem_map_of_mem (List.mem_reverse.mp mem))

theorem value?_given (overrides : Overrides) (name : Text) :
    value? (given overrides) name = (value? overrides name).map .data := by
  induction overrides with
  | nil => rfl
  | cons entry rest ih =>
      obtain ⟨first, d⟩ := entry
      rw [given, List.map_cons, ← given, value?_cons, value?_cons, ih]
      by_cases named : name = first <;> simp [named]

/-- Attributes that are listed by their names are found by these names. -/
theorem lookup_saved (attributes : Attributes) (overrides : Overrides) (name : Text) :
    (saved attributes overrides).lookup name = if name ∈ overrides.map (·.1) then attributes name else none := by
  induction overrides with
  | nil => rfl
  | cons entry rest ih =>
      obtain ⟨first, d⟩ := entry
      simp only [saved] at ih
      by_cases named : name = first
      · subst named
        cases has : attributes name with
        | some a => simp [saved, has]
        | none => simp [saved, has, ih]
      · have elsewhere : name ∈ List.map (·.1) ((first, d) :: rest) ↔ name ∈ List.map (·.1) rest := by
          rw [List.map_cons, List.mem_cons, or_iff_right named]
        simp only [elsewhere, ← ih]
        cases has : attributes first with
        | some a => simp [saved, has, List.lookup_cons, beq_eq_false_iff_ne.mpr named]
        | none => simp [saved, has]

/-- What a block saves are the values of the attributes that it names. -/
theorem value?_saved (attributes : Attributes) (overrides : Overrides) (name : Text) :
    value? (saved attributes overrides) name = if name ∈ overrides.map (·.1) then attributes name else none := by
  have reversed : (saved attributes overrides).reverse = saved attributes overrides.reverse :=
    List.filterMap_reverse.symm
  rw [value?, reversed, lookup_saved]
  simp only [List.map_reverse, List.mem_reverse]

theorem Plain.cons {first : Text} {a : α} (plain : Plain ((first, a) :: entries)) :
    first ∉ specialNames ∧ Plain entries :=
  ⟨plain _ List.mem_cons_self, fun entry mem => plain entry (List.mem_cons_of_mem _ mem)⟩

theorem Plain.value?_eq_none (plain : Plain entries) (special : name ∈ specialNames) : value? entries name = none :=
  Rendering.value?_eq_none fun named => by
    obtain ⟨entry, mem, rfl⟩ := List.mem_map.mp named
    exact plain entry mem special

theorem plain_given (plain : Plain overrides) : Plain (given overrides) := by
  intro entry mem
  obtain ⟨override, given, rfl⟩ := List.mem_map.mp mem
  exact plain override given

theorem plain_saved (plain : Plain overrides) (attributes : Attributes) : Plain (saved attributes overrides) := by
  intro entry mem
  obtain ⟨override, given, found⟩ := List.mem_filterMap.mp mem
  obtain ⟨a, -, rfl⟩ := Option.map_eq_some_iff.mp found
  exact plain override given

end Entries

/-! ### Setting plain attributes -/

/-- Puts values under names, in order. -/
def putAll (s : Rendering) (entries : List (Text × Attribute)) : Rendering :=
  entries.foldl (fun s (name, a) => s.put name a) s

theorem set_of_plain (plain : name ∉ specialNames) (s : Rendering) (a : Attribute) :
    s.set name a = .ok (s.put name a) := by
  obtain ⟨noTable, noClass, noReferences⟩ : name ≠ tableName ∧ name ≠ className ∧ name ≠ weakReferenceName := by
    simpa [specialNames] using plain
  simp only [set, if_neg noTable, if_neg noClass, if_neg noReferences]

/-- Plain attributes are all set, before others are tried. -/
theorem setAll_append_of_plain {entries : List (Text × Attribute)} (plain : Plain entries) (s : Rendering)
    (rest : List (Text × Attribute)) : s.setAll (entries ++ rest) = (s.putAll entries).setAll rest := by
  induction entries generalizing s with
  | nil => rfl
  | cons entry later ih =>
      obtain ⟨name, a⟩ := entry
      rw [List.cons_append, setAll, set_of_plain plain.cons.1]
      exact ih plain.cons.2 _

theorem setAll_of_plain {entries : List (Text × Attribute)} (plain : Plain entries) (s : Rendering) :
    s.setAll entries = (none, s.putAll entries) := by
  have all := setAll_append_of_plain plain s []
  rwa [List.append_nil, setAll] at all

@[simp] theorem current_putAll (s : Rendering) (entries : List (Text × Attribute)) :
    (s.putAll entries).current = s.current := by
  induction entries generalizing s with
  | nil => rfl
  | cons entry rest ih => exact ih _

/-- Only the table of own attributes is written to. -/
theorem tables_putAll (s : Rendering) (entries : List (Text × Attribute)) (place : Nat) :
    (s.putAll entries).tables place = fun name =>
      if place = s.current then (value? entries name).or (s.tables place name) else s.tables place name := by
  induction entries generalizing s with
  | nil => simp [putAll, value?]
  | cons entry rest ih =>
      obtain ⟨first, a⟩ := entry
      have step : s.putAll ((first, a) :: rest) = (s.put first a).putAll rest := rfl
      funext name
      rw [step, ih, value?_cons]
      by_cases own : place = s.current
      · by_cases named : name = first <;> simp [put, own, named]
      · simp [put, own]

theorem get?_putAll {entries : List (Text × Attribute)} (plain : Plain entries) (s : Rendering) (name : Text) :
    (s.putAll entries).get? name = (value? entries name).or (s.get? name) := by
  by_cases special : name ∈ specialNames
  · rw [plain.value?_eq_none special, Option.none_or]
    simp only [specialNames, List.mem_cons, List.not_mem_nil, or_false] at special
    obtain rfl | rfl | rfl := special <;> simp [get?]
  · obtain ⟨noTable, noOther⟩ : name ≠ tableName ∧ ¬ (name = className ∨ name = weakReferenceName) := by
      simpa [specialNames] using special
    simp only [get?, if_neg noTable, if_neg noOther, current_putAll, tables_putAll, if_true, Option.or_assoc]

/-- Objects with the same attributes, and with the same tables beside that of their own attributes. -/
structure Agrees (s t : Rendering) : Prop where
  attributes : s.get? = t.get?
  current : s.current = t.current
  elsewhere : ∀ place, place ≠ t.current → s.tables place = t.tables place

namespace Agrees

theorem refl (s : Rendering) : s.Agrees s := ⟨rfl, rfl, fun _ _ => rfl⟩

theorem trans {u : Rendering} (first : s.Agrees t) (second : t.Agrees u) : s.Agrees u :=
  ⟨first.attributes.trans second.attributes, first.current.trans second.current, fun place other =>
    (first.elsewhere place (second.current ▸ other)).trans (second.elsewhere place other)⟩

theorem style_eq (agrees : s.Agrees t) : s.style = t.style := by rw [style, agrees.attributes, style]

end Agrees

/-! ### Blocks -/

@[simp] theorem seen_nil (s : Rendering) : s.seen [] = s.get? := rfl

/-- In one more block, its overrides come first. -/
theorem seen_cons (s : Rendering) (overrides : Overrides) (blocks : List Overrides) (name : Text) :
    s.seen (overrides :: blocks) name = ((value? overrides name).map .data).or (s.seen blocks name) := by
  rw [seen, seen, innermost?, List.findSome?_cons]
  cases value? overrides name <;> rfl

/-- Where attributes are seen as inside some blocks, they are seen with the overrides of one more block after these
have been set. -/
theorem get?_putAll_given {blocks : List Overrides} (plain : Plain overrides) (sees : t.get? = s.seen blocks) :
    (t.putAll (given overrides)).get? = s.seen (overrides :: blocks) := by
  funext name
  rw [get?_putAll (plain_given plain), value?_given, sees, seen_cons]

/-- A block is started only if all that it names are attributes. -/
theorem isSome_of_refusal?_eq_none {attributes : Attributes} (startable : refusal? attributes overrides = none)
    (named : name ∈ overrides.map (·.1)) : ∃ a, attributes name = some a := by
  obtain ⟨entry, mem, rfl⟩ := List.mem_map.mp named
  rw [refusal?] at startable
  split at startable
  · split at startable
    · cases startable
    · have known := List.find?_eq_none.mp (Option.map_eq_none_iff.mp startable) entry mem
      exact Option.isSome_iff_exists.mp (by simpa [Option.isSome_iff_ne_none] using known)
  · cases startable

theorem exists_refusal?_of_eq_none {attributes : Attributes}
    (unknown : ∃ entry ∈ overrides, attributes entry.1 = none) : ∃ e, refusal? attributes overrides = some e := by
  obtain ⟨entry, mem, isNone⟩ := unknown
  refine Option.ne_none_iff_exists'.mp fun startable => ?_
  obtain ⟨a, known⟩ := isSome_of_refusal?_eq_none startable (List.mem_map_of_mem mem)
  rw [isNone] at known
  cases known

theorem temporary_of_refused {α : Type} {e : SettingError} (refused : refusal? s.get? overrides = some e)
    (refuse : SettingError → α) (body : Rendering → α × Rendering) :
    s.temporary overrides refuse body = (refuse e, s) := by
  rw [temporary, refused]

/-- Attributes that have been overridden, and otherwise left as they were, are restored by what the block saved. -/
theorem putAll_saved_agrees (startable : refusal? s.get? overrides = none) (plain : Plain overrides)
    (left : t.Agrees (s.putAll (given overrides))) : (t.putAll (saved s.get? overrides)).Agrees s := by
  have same : t.current = s.current := left.current.trans (current_putAll _ _)
  refine ⟨funext fun name => ?_, (current_putAll _ _).trans same, fun place other => ?_⟩
  · rw [get?_putAll (plain_saved plain _), value?_saved, left.attributes, get?_putAll_given plain (seen_nil s).symm,
      seen_cons, seen_nil]
    by_cases named : name ∈ overrides.map (·.1)
    · obtain ⟨a, known⟩ := isSome_of_refusal?_eq_none startable named
      rw [if_pos named, known, Option.some_or]
    · rw [if_neg named, value?_eq_none named]
      rfl
  · rw [tables_putAll, same, left.elsewhere place (by rwa [current_putAll]), tables_putAll]
    simp only [if_neg other]

/-- A block of plain overrides leaves the object as it was, if its body leaves what it is given as that was. -/
theorem temporary_of_plain {α : Type} (startable : refusal? s.get? overrides = none) (plain : Plain overrides)
    (refuse : SettingError → α) {body : Rendering → α × Rendering} {result : α}
    (ran : body (s.putAll (given overrides)) = (result, t)) (left : t.Agrees (s.putAll (given overrides))) :
    ∃ last, s.temporary overrides refuse body = (result, last) ∧ last.Agrees s := by
  refine ⟨t.putAll (saved s.get? overrides), ?_, putAll_saved_agrees startable plain left⟩
  rw [temporary, startable]
  simp only [setAll_of_plain (plain_given plain), ran, setAll_of_plain (plain_saved plain _)]

/-! ### Blocks that are no plain ones -/

/-- What cannot be set can be set for no object. -/
theorem set_eq_error {a : Attribute} {e : SettingError} (unsettable : s.set name a = .error e) (t : Rendering) :
    t.set name a = .error e := by
  simp only [set, setTable] at unsettable ⊢
  split at unsettable
  · split at unsettable <;> simp_all
  · split at unsettable
    · split at unsettable <;> simp_all
    · split at unsettable <;> simp_all

/-- A block with an attribute that cannot be set leaves the object with what it had set before. -/
theorem temporary_of_unsettable {α : Type} {before after : Overrides} {d : Data} {e : SettingError}
    (startable : refusal? s.get? (before ++ (name, d) :: after) = none) (plain : Plain before)
    (unsettable : s.set name (.data d) = .error e) (refuse : SettingError → α) (body : Rendering → α × Rendering) :
    s.temporary (before ++ (name, d) :: after) refuse body = (refuse e, s.putAll (given before)) := by
  have split : given (before ++ (name, d) :: after) = given before ++ (name, .data d) :: given after :=
    List.map_append
  rw [temporary, startable]
  simp only [split, setAll_append_of_plain (plain_given plain), setAll, set_eq_error unsettable]

/-- Only the own attributes of an object tell it from another one. -/
theorem get?_congr (same : s.current = t.current) (own : s.tables s.current = t.tables t.current) :
    s.get? = t.get? := by
  funext name
  simp only [get?, same ▸ own, same]

/-- Work in a new table leaves the one from which it came as that was, whatever is put back into the new one. -/
theorem get?_old_table {before after entries : Overrides} (plain : Plain before)
    (left : t.Agrees (((s.putAll (given before)).renew entries).putAll (given after)))
    (putBack : List (Text × Attribute)) :
    ({ t.putAll putBack with current := s.current } : Rendering).get? = s.seen [before] := by
  have current : t.current = s.current + 1 := by
    rw [left.current, current_putAll, renew, current_putAll]
  have other : s.current ≠ s.current + 1 := by omega
  rw [← get?_putAll_given plain (seen_nil s).symm]
  refine get?_congr (current_putAll s (given before)).symm ?_
  funext name
  simp only [tables_putAll, current_putAll, current, if_neg other]
  rw [left.elsewhere s.current (by rw [current_putAll, renew, current_putAll]; exact other)]
  simp [tables_putAll, renew]

/-- A block that overrides the table of own attributes puts what it has set before that back in the wrong table, and
only what it has set after that in the table from which it came. -/
theorem temporary_of_table {α : Type} {before after entries : Overrides}
    (startable : refusal? s.get? (before ++ (tableName, .table entries) :: after) = none)
    (plainBefore : Plain before) (plainAfter : Plain after) (refuse : SettingError → α)
    {body : Rendering → α × Rendering} {result : α}
    (ran : body (((s.putAll (given before)).renew entries).putAll (given after)) = (result, t))
    (left : t.Agrees (((s.putAll (given before)).renew entries).putAll (given after))) :
    ∃ last, s.temporary (before ++ (tableName, .table entries) :: after) refuse body = (result, last) ∧
      ∀ name, last.get? name = if name ∈ after.map (·.1) then s.get? name else s.seen [before] name := by
  have splitGiven : given (before ++ (tableName, .table entries) :: after) =
      given before ++ (tableName, .data (.table entries)) :: given after := List.map_append
  have splitSaved : saved s.get? (before ++ (tableName, .table entries) :: after) =
      saved s.get? before ++ (tableName, .table s.current) :: saved s.get? after := by
    simp [saved, get?]
  refine ⟨({ t.putAll (saved s.get? before) with current := s.current } : Rendering).putAll (saved s.get? after),
    ?_, fun name => ?_⟩
  · rw [temporary, startable]
    simp only [splitGiven, setAll_append_of_plain (plain_given plainBefore), setAll, set, setTable, if_true,
      setAll_of_plain (plain_given plainAfter), ran, splitSaved, setAll_append_of_plain (plain_saved plainBefore _),
      setAll_of_plain (plain_saved plainAfter _)]
  · rw [get?_putAll (plain_saved plainAfter _), value?_saved, get?_old_table plainBefore left]
    by_cases named : name ∈ after.map (·.1)
    · have inBlock : name ∈ (before ++ (tableName, .table entries) :: after).map (·.1) := by
        rw [List.map_append, List.mem_append, List.map_cons]
        exact .inr (List.mem_cons_of_mem _ named)
      obtain ⟨a, known⟩ := isSome_of_refusal?_eq_none startable inBlock
      simp only [if_pos named, known, Option.some_or]
    · simp only [if_neg named, Option.none_or]

end Rendering

/-! ### Work in nested blocks -/

/-- The series of one trace, or of none if it fails. -/
def TraceSeries.ofTrace : Except Failure Text → TraceSeries
  | .ok t => ⟨[t], none⟩
  | .error f => ⟨[], some f⟩

/-- One series after another; nothing follows a failure. -/
def TraceSeries.append (first second : TraceSeries) : TraceSeries :=
  match first.failure with
  | some _ => first
  | none => ⟨first.traces ++ second.traces, second.failure⟩

/-- What is done with settings. -/
inductive StyledWork where
  | nothing
  /-- Makes something of the attributes as they are, or fails over it. -/
  | trace (make : Attributes → Except Failure Text)
  /-- One after the other; nothing follows a failure. -/
  | andThen (first second : StyledWork)
  | block (overrides : Overrides) (body : StyledWork)
  /-- Goes on after a failure. -/
  | attempt (body : StyledWork)

namespace StyledWork

open Rendering

/-- What comes of work where all blocks override the attributes of one object, and the object after it. -/
def run : StyledWork → Rendering → TraceSeries × Rendering
  | nothing, s => (⟨[], none⟩, s)
  | trace make, s => (.ofTrace (make s.get?), s)
  | andThen first second, s =>
    let (done, after) := first.run s
    match done.failure with
    | some _ => (done, after)
    | none =>
      let (more, last) := second.run after
      (done.append more, last)
  | block overrides body, s => s.temporary overrides (fun e => ⟨[], some (.setting e)⟩) fun inside => body.run inside
  | attempt body, s =>
    let (done, after) := body.run s
    (⟨done.traces, none⟩, after)

/-- What comes of work inside nested blocks, the innermost block first, where each block has attributes of its own and
no object is changed; `s` is the object outside all of them. -/
def byScopes (s : Rendering) : List Overrides → StyledWork → TraceSeries
  | _, nothing => ⟨[], none⟩
  | blocks, trace make => .ofTrace (make (s.seen blocks))
  | blocks, andThen first second => (byScopes s blocks first).append (byScopes s blocks second)
  | blocks, block overrides body =>
    match refusal? (s.seen blocks) overrides with
    | some e => ⟨[], some (.setting e)⟩
    | none => byScopes s (overrides :: blocks) body
  | blocks, attempt body => ⟨(byScopes s blocks body).traces, none⟩

/-- Work of which no block overrides what cannot stand in a table. -/
def Plain : StyledWork → Prop
  | nothing => True
  | trace _ => True
  | andThen first second => first.Plain ∧ second.Plain
  | block overrides body => Rendering.Plain overrides ∧ body.Plain
  | attempt body => body.Plain

variable {w : StyledWork} {s inside : Rendering} {blocks : List Overrides}

/-- Where attributes are seen as inside some blocks, a run of plain work gives what the work gives by scopes there, and
leaves the object as it is. -/
theorem Plain.run_eq (plain : w.Plain) (sees : inside.get? = s.seen blocks) :
    ∃ after, w.run inside = (byScopes s blocks w, after) ∧ after.Agrees inside := by
  -- By the work, in any blocks: what one step leaves has the same attributes, so that the next one sees the same.
  induction w generalizing blocks inside with
  | nothing => exact ⟨inside, rfl, .refl _⟩
  | trace make => exact ⟨inside, by rw [run, byScopes, sees], .refl _⟩
  | andThen first second ihFirst ihSecond =>
      obtain ⟨between, ran, left⟩ := ihFirst plain.1 sees
      cases result : (byScopes s blocks first).failure with
      | some f =>
          refine ⟨between, ?_, left⟩
          rw [run, byScopes, ran, TraceSeries.append]
          simp only [result]
      | none =>
          obtain ⟨last, next, leftToo⟩ := ihSecond plain.2 (left.attributes.trans sees)
          refine ⟨last, ?_, leftToo.trans left⟩
          rw [run, ran]
          simp only [result, next]
          rfl
  | block overrides body ih =>
      rw [run, byScopes, ← sees]
      cases refused : refusal? inside.get? overrides with
      | some e => exact ⟨inside, temporary_of_refused refused _ _, .refl _⟩
      | none =>
          obtain ⟨after, ran, left⟩ := ih plain.2 (get?_putAll_given plain.1 sees)
          exact temporary_of_plain refused plain.1 _ ran left
  | attempt body ih =>
      obtain ⟨after, ran, left⟩ := ih plain sees
      exact ⟨after, by rw [run, ran, byScopes], left⟩

/-- Makes a trace with the settings as they are. -/
def styled (make : TraceStyle → Except Failure Text) : StyledWork :=
  trace fun attributes => make (.ofAttributes attributes)

/-- Nested blocks in which traces are made, one on entering each block and one on leaving it. -/
def nested (make : TraceStyle → Except Failure Text) : List Overrides → StyledWork
  | [] => nothing
  | overrides :: inner => andThen (block overrides (andThen (styled make) (nested make inner))) (styled make)

/-- The traces of nested blocks are those of such work. -/
theorem run_nested (make : TraceStyle → Except Failure Text) (blocks : List Overrides) (s : Rendering) :
    (nested make blocks).run s = nestedTraces make blocks s := by
  induction blocks generalizing s with
  | nil => rfl
  | cons overrides inner ih =>
      have styled_run (s : Rendering) : (styled make).run s = (.ofTrace (make s.style), s) := rfl
      have body (inside : Rendering) : ((styled make).andThen (nested make inner)).run inside =
          startSeries (make inside.style) inside (nestedTraces make inner inside) := by
        rw [run, styled_run, ← ih]
        cases make inside.style <;> rfl
      rw [nested, run, run, nestedTraces]
      simp only [body, styled_run]
      cases s.temporary overrides _ _ with
      | mk series after =>
          obtain ⟨traces, failure⟩ := series
          cases failure with
          | some f => rfl
          | none => cases make after.style <;> simp [TraceSeries.ofTrace, TraceSeries.append, TraceSeries.andThen]

/-- Work in nested blocks that override attributes of one object, none of them the class, the list of weak references or
the table of own attributes. The run of it gives what the work gives by scopes, where every block sees each attribute
as the innermost block that names it has it; and whatever comes of the work, a failure inside a block or on entering
one included, the attributes after it are those before it, and so are all traces that are made with them. The traces of
nested blocks are the run of such work. A block of any overrides that names no attribute fails and changes nothing.

The other blocks are those that the last two parts are about. If an attribute cannot be set, which is the case for the
class, for the list of weak references, and for the table where it is to be anything else, the block fails, and the
attributes set before that one keep the values that the block has for them. If the table is overridden by another
table, it is again the attributes set before it that keep these values when the block is left, although nothing has
failed. -/
theorem run_of_plain (w : StyledWork) (s : Rendering) (plain : w.Plain) :
    ((w.run s).1 = byScopes s [] w ∧ (w.run s).2.get? = s.get? ∧
      ∀ d e, Expr.trace (w.run s).2.style d e = Expr.trace s.style d e) ∧
    (∀ make blocks, nestedTraces make blocks s = (nested make blocks).run s) ∧
    (∀ overrides body, (∃ entry ∈ overrides, s.get? entry.1 = none) →
      ∃ e, refusal? s.get? overrides = some e ∧ (block overrides body).run s = (⟨[], some (.setting e)⟩, s)) ∧
    (∀ before name d after body e, Rendering.Plain before → s.set name (.data d) = .error e →
      refusal? s.get? (before ++ (name, d) :: after) = none →
      ∃ last, (block (before ++ (name, d) :: after) body).run s = (⟨[], some (.setting e)⟩, last) ∧
        last.get? = s.seen [before]) ∧
    ∀ before entries after body, Rendering.Plain before → Rendering.Plain after → body.Plain →
      refusal? s.get? (before ++ (tableName, .table entries) :: after) = none →
      ∀ name, ((block (before ++ (tableName, .table entries) :: after) body).run s).2.get? name =
        if name ∈ after.map (·.1) then s.get? name else s.seen [before] name := by
  refine ⟨?_, fun make blocks => (run_nested make blocks s).symm, ?_, ?_, ?_⟩
  · obtain ⟨after, ran, left⟩ := plain.run_eq (seen_nil s).symm
    rw [ran]
    exact ⟨rfl, left.attributes, fun d e => by rw [left.style_eq]⟩
  · intro overrides body unknown
    obtain ⟨e, refused⟩ := exists_refusal?_of_eq_none unknown
    exact ⟨e, refused, temporary_of_refused refused _ _⟩
  · intro before name d after body e plain unsettable startable
    exact ⟨_, temporary_of_unsettable startable plain unsettable _ _, get?_putAll_given plain (seen_nil s).symm⟩
  · intro before entries after body plainBefore plainAfter plainBody startable
    -- The body is run in the new table, and leaves it as it is.
    have sees := (seen_nil (((s.putAll (given before)).renew entries).putAll (given after))).symm
    obtain ⟨last, ran, left⟩ := plainBody.run_eq sees
    obtain ⟨outside, done, attributes⟩ := temporary_of_table startable plainBefore plainAfter _ ran left
    rw [run, done]
    exact attributes

/-- The trace of a number. -/
def numberTrace (style : TraceStyle) : Except Failure Text := Expr.trace style .sqlite (.constant (.int 1))

/-- A block in which another one fails on entering it, and the traces before and after the end of the outer one. -/
def retried : StyledWork :=
  andThen
    (block [(separatorName, .text "A")]
      (andThen (attempt (block [(separatorName, .text "B"), ("separator", .text "C")] nothing)) (styled numberTrace)))
    (styled numberTrace)

/-- The inner block leaves the separator of the outer one, and the outer block the one before both. -/
theorem run_of_plain_retried :
    retried.Plain ∧ (retried.run {}).1 = ⟨["1A1\n", "1 -- 1\n"], none⟩ ∧
      (retried.run {}).2.get? separatorName = some (.data (.text " -- ")) := by
  have plain : retried.Plain := ⟨⟨by decide, ⟨by decide, trivial⟩, trivial⟩, trivial⟩
  obtain ⟨⟨series, attributes, -⟩, -⟩ := run_of_plain retried {} plain
  rw [series, attributes]
  exact ⟨plain, rfl, rfl⟩

/-- A block that cannot set the class leaves the separator that it has set before, and so does one that sets the table
of own attributes after the separator. -/
theorem run_leaves_separator :
    (block [(separatorName, .text "X"), (className, .int 5)] (styled numberTrace) |>.run {}).1 =
        ⟨[], some (.setting (.wrongType className))⟩ ∧
      (block [(separatorName, .text "X"), (className, .int 5)] (styled numberTrace) |>.run {}).2.get? separatorName =
        some (.data (.text "X")) ∧
      (nestedTraces numberTrace [[(separatorName, .text "X"), (tableName, .table [])]] {}).1 =
        ⟨["1 -- 1\n", "1X1\n"], none⟩ :=
  ⟨rfl, rfl, rfl⟩

end StyledWork

end PivotOracle
