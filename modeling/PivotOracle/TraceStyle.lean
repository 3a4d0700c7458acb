import PivotOracle.Predict.Failure

/-!
# Trace style

How traces are written is a matter of settings: attributes of an object, which can be changed for a
while. A block of code may override some of them; what it has overridden is put back when the block is
left, however it ends. The object has more attributes than settings, and a block may name any of them:
methods of its class, and the table in which its own attributes stand. Not every attribute can be set.

* `Rendering.get?`, `Rendering.set` — an attribute of the object, and setting one.
* `Rendering.temporary` — runs a block with overridden attributes.
* `Rendering.style` — what traces see of the object.
-/

namespace PivotOracle

/-- The settings of traces. -/
structure TraceStyle where
  /-- What stands between an expression and its value. -/
  separator : Data := .text " -- "

/-- Attributes by their names, with the values that they are to have. -/
abbrev Overrides := List (Text × Data)

/-- The value of an attribute. -/
inductive Attribute where
  | data (d : Data)
  /-- What the class has under a name. -/
  | inherited (name : Text)
  /-- A table of attributes, by its place. -/
  | table (place : Nat)

/-- What an object has under each name. -/
abbrev Attributes := Text → Option Attribute

/-- The object that holds the settings. Its own attributes are those of one of the tables that there
are; each table has a place. -/
structure Rendering where
  tables : Nat → Attributes := fun _ name => if name = "trace_separator" then some (.data (.text " -- ")) else none
  /-- The place of the table with the own attributes. -/
  current : Nat := 0

namespace Rendering

/-- The name of the setting that separates an expression from its value. -/
def separatorName : Text := "trace_separator"

/-- The name of the method that runs blocks. -/
def temporaryName : Text := "temporary"

/-- The name under which the object itself is given to its methods. -/
def selfName : Text := "self"

/-- The name of the table of own attributes. -/
def tableName : Text := "__dict__"

/-- The name of the class. -/
def className : Text := "__class__"

/-- The name of the list of weak references. -/
def weakReferenceName : Text := "__weakref__"

/-- The names under which the class has something that a table of own attributes can hide. -/
def inheritedNames : List Text :=
  [temporaryName, "__annotations__", "__dataclass_fields__", "__dataclass_params__", "__delattr__", "__dir__",
   "__doc__", "__eq__", "__format__", "__ge__", "__getattribute__", "__getstate__", "__gt__", "__hash__",
   "__init__", "__init_subclass__", "__le__", "__lt__", "__match_args__", "__module__", "__ne__", "__new__",
   "__reduce__", "__reduce_ex__", "__repr__", "__setattr__", "__sizeof__", "__str__", "__subclasshook__"]

/-- What the class has under a name: the default of the setting, or one of its methods and other things. -/
def inherited? (name : Text) : Option Attribute :=
  if name = separatorName then some (.data (.text " -- "))
  else if inheritedNames.contains name then some (.inherited name)
  else none

/-- The value of an attribute, if there is one of this name. Own attributes hide those of the class, except
for the three that stand for the object as it is. -/
def get? (s : Rendering) : Attributes := fun name =>
  if name = tableName then some (.table s.current)
  else if name = className ∨ name = weakReferenceName then some (.inherited name)
  else (s.tables s.current name).or (inherited? name)

/-- Puts a value under a name into the table of own attributes. -/
def put (s : Rendering) (name : Text) (a : Attribute) : Rendering :=
  { s with tables := fun place other => if place = s.current ∧ other = name then some a else s.tables place other }

/-- The object with a new table of own attributes. The tables of the blocks that it stands in have places up to
the current one, so the next place is free. -/
def renew (s : Rendering) (entries : Overrides) : Rendering where
  tables place name := if place = s.current + 1 then (entries.lookup name).map .data else s.tables place name
  current := s.current + 1

/-- The object with another table of own attributes: one that there is, or a new one with entries of data. -/
def setTable (s : Rendering) : Attribute → Except SettingError Rendering
  | .table place => .ok { s with current := place }
  | .data (.table entries) => .ok (s.renew entries)
  | _ => .error (.wrongType tableName)

/-- Gives an attribute a value. The class is no data, and the list of weak references cannot be set. Any other
name is one of an own attribute. -/
def set (s : Rendering) (name : Text) (a : Attribute) : Except SettingError Rendering :=
  if name = tableName then s.setTable a
  else if name = className then
    match a with
    | .inherited _ => .ok s
    | _ => .error (.wrongType className)
  else if name = weakReferenceName then .error (.readOnly weakReferenceName)
  else .ok (s.put name a)

/-- Gives attributes their values, in order, up to the first that is refused: what was set before it stays. -/
def setAll (s : Rendering) : List (Text × Attribute) → Option SettingError × Rendering
  | [] => (none, s)
  | (name, a) :: rest =>
    match s.set name a with
    | .ok next => next.setAll rest
    | .error e => (some e, s)

/-- Why a block cannot be started: its method is hidden by data, the object is given twice, or a name is that
of no attribute. -/
def refusal? (attributes : Attributes) (overrides : Overrides) : Option SettingError :=
  match attributes temporaryName with
  | some (.inherited _) =>
    if overrides.any fun (name, _) => name = selfName then some .selfGiven
    else (overrides.find? fun (name, _) => (attributes name).isNone).map fun (name, _) => .unknown name
  | _ => some .notCallable

/-- The overridden attributes with the values that they have now. -/
def saved (attributes : Attributes) (overrides : Overrides) : List (Text × Attribute) :=
  overrides.filterMap fun (name, _) => (attributes name).map (name, ·)

/-- The overrides as attributes. -/
def given (overrides : Overrides) : List (Text × Attribute) := overrides.map fun (name, d) => (name, .data d)

/-- Runs a block with some attributes overridden and puts those back afterwards. A block that cannot be started
is refused before any attribute is set. An attribute that cannot be set ends the block as well, and then those
set before it are not put back. -/
def temporary {α : Type} (overrides : Overrides) (refuse : SettingError → α)
    (body : Rendering → α × Rendering) (s : Rendering) : α × Rendering :=
  match refusal? s.get? overrides with
  | some e => (refuse e, s)
  | none =>
    match s.setAll (given overrides) with
    | (some e, partly) => (refuse e, partly)
    | (none, inside) =>
      let (result, after) := body inside
      match after.setAll (saved s.get? overrides) with
      | (some e, last) => (refuse e, last)
      | (none, last) => (result, last)

end Rendering

/-- The settings among attributes. -/
def TraceStyle.ofAttributes (attributes : Attributes) : TraceStyle :=
  match attributes Rendering.separatorName with
  | some (.data d) => ⟨d⟩
  | _ => {}

/-- The settings as traces read them. -/
def Rendering.style (s : Rendering) : TraceStyle := .ofAttributes s.get?

end PivotOracle
