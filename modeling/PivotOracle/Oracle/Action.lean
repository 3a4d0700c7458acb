import PivotOracle.Draw
import PivotOracle.Sql.Dialect

/-!
# Actions

Actions make queries by name. Each is handed the state that holds all of them, and so it may run others.
One of them, `explain`, takes the query of another action, chosen by the next draws, and asks the engine to
explain it. The names are sorted before the choice, so that the order in which actions were put into the
state has no say in it.

* `GlobalState` — the state that actions are handed.
* `GlobalState.explain` — the query that explains that of another action.
-/

namespace PivotOracle

/-- A statement to be executed, with the errors of the engine that may come of it. -/
structure Query where
  text : Text
  expectedErrors : List Text
deriving DecidableEq, Repr

/-- Why an action gives no query. -/
inductive ActionError where
  | unknown (name : Text)
  | nothingToExplain
  /-- No draw is left to choose by. -/
  | noDraw
deriving DecidableEq, Repr

/-- The wording of a failed action. -/
def ActionError.message : ActionError → Text
  | .unknown name => "Unknown action " ++ name
  | .nothingToExplain => "explain needs at least one other action to wrap"
  | .noDraw => ""

/-- A computation that takes draws. -/
abbrev DrawM := ExceptT ActionError (StateM (List Draw))

/-- The next draw. -/
def nextDraw : DrawM Draw := do
  match ← get with
  | [] => throw .noDraw
  | draw :: rest => do
    set rest
    return draw

/-- What an action is handed: the dialect, and all actions by their names, in the order in which they were put
there. -/
structure GlobalState (α : Type) where
  dialect : Dialect
  actions : List (Text × α)

/-- What actions do. An action may look at the state, and run other actions of it. -/
abbrev Behaviour (α : Type) := α → GlobalState α → DrawM Query

/-- The name of the action that explains others. -/
def explainName : Text := "explain"

/-- The word that asks an engine to explain a statement. -/
def explainKeyword : Text := "EXPLAIN "

/-- The words that ask for the other form of explanation. -/
def Dialect.explainFlag : Dialect → Text
  | .mysql => "FORMAT=TRADITIONAL "
  | .sqlite => "QUERY PLAN "

/-- Texts in their order. -/
def Text.sort (texts : List Text) : List Text :=
  texts.mergeSort fun a b => a.compare b ≠ .gt

/-- Texts in their order, each once. -/
def Text.sortDistinct (texts : List Text) : List Text :=
  (Text.sort texts).foldr (fun t rest => if rest.head? = some t then rest else t :: rest) []

namespace GlobalState

variable {α : Type}

/-- The names of the actions that can be explained, in order. -/
def explainable (s : GlobalState α) : List Text :=
  Text.sort ((s.actions.map (·.1)).filter (· ≠ explainName))

/-- Runs the action of a name, and hands the state to it. -/
def runAction (act : Behaviour α) (s : GlobalState α) (name : Text) : DrawM Query :=
  match s.actions.lookup name with
  | some action => act action s
  | none => throw (.unknown name)

/-- Explains the query of one of the other actions, with the errors that come of that. The first draw
chooses the form of explanation, the next one the action. -/
def explain (act : Behaviour α) (s : GlobalState α) : DrawM Query := do
  let flagged := (← nextDraw).coin
  let names := s.explainable
  if names.isEmpty then throw .nothingToExplain
  match (← nextDraw).choose names with
  | none => throw .nothingToExplain
  | some name =>
    let query ← s.runAction act name
    return { query with
      text := explainKeyword ++ (if flagged then s.dialect.explainFlag else []) ++ query.text }

/-- Runs the action of a name, which is that of explaining where the name says so. -/
def perform (act : Behaviour α) (s : GlobalState α) (name : Text) : DrawM Query :=
  if name = explainName then s.explain act else s.runAction act name

end GlobalState

end PivotOracle
