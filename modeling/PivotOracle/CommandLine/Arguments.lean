import PivotOracle.CommandLine

/-!
# Arguments

The words of a call of the program. `--debug` stands before the name of the command; the options of a
command may stand before or after the name of the file with the stored expression, and each takes a
value. The answers of an engine come from a file of their own, one JSON document a line.
-/

namespace PivotOracle

/-- A call of the program as it is written. Files are given by their names. -/
structure Arguments where
  debug : Bool
  command : Text
  input : Text
  options : List (Text × Text)
deriving DecidableEq, Repr

namespace Arguments

/-- The name of an option, if a word is one. -/
def optionName? (word : Text) : Option Text :=
  if ("--" : Text).isPrefixOf word ∧ 2 < word.length then some (word.drop 2) else none

/-- The options that are known. -/
def optionNames : List Text := ["dialect", "url", "config", "setup", "answers"]

/-- The options among words, and the other words; none where an option is not known or has no
value. -/
def split : List Text → Option (List (Text × Text) × List Text)
  | [] => some ([], [])
  | [word] => if (optionName? word).isSome then none else some ([], [word])
  | word :: value :: rest =>
    match optionName? word with
    | some name =>
      if optionNames.contains name then do
        let (options, others) ← split rest
        some ((name, value) :: options, others)
      else none
    | none => do
      let (options, others) ← split (value :: rest)
      some (options, word :: others)

/-- The call that words make; none where they make no call. -/
def ofWords (words : List Text) : Option Arguments :=
  let debug := words.head? = some "--debug"
  match if debug then words.drop 1 else words with
  | [] => none
  | command :: rest =>
    match split rest with
    | some (options, [input]) => some ⟨debug, command, input, options⟩
    | _ => none

/-- The value of an option. The last one counts where there are several. -/
def option? (a : Arguments) (name : Text) : Option Text := a.options.reverse.lookup name

end Arguments

/-- The answer of an engine in a line of a file: the value of a JSON document, or no row where the
line is blank; none where the line is no document. -/
def readAnswer (line : Text) : Option Answer :=
  if line.isBlank then some none
  else (Json.read maxDocumentDepth line).map fun d => some (.plain d)

/-- The answers of the lines of a file. -/
def readAnswers (content : Text) : Option (List Answer) :=
  let lines := content.unifyLines.splitOn (.char '\n')
  (if lines.getLast? = some [] then lines.dropLast else lines).mapM readAnswer

end PivotOracle
