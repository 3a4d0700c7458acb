import PivotOracle.Data

/-!
# JSON

Documents in JSON are read in two steps: the text becomes a list of tokens, and a machine with a
stack of open containers puts them together. The grammar is strict: no trailing comma, no comment,
no leading zero, no control character, no half of a surrogate pair and no stray byte in a string.
Beyond it, `NaN` and `Infinity` stand for the doubles of that name. Writing gives plain data its
shortest form; data with a stray byte in it has no document.

* `Json.read` — the data of a whole document, within a limit on nesting.
* `Json.write` — plain data as it is written.
* `Json.document?` — the document of plain data of which the texts are valid Unicode.
-/

namespace PivotOracle

namespace Json

/-- The words of the language. -/
inductive Token where
  | openList
  | closeList
  | openTable
  | closeTable
  | comma
  | colon
  | value (d : Data)

/-! ### Strings -/

/-- The value of hexadecimal digits. -/
def hexValue : Text → Option Nat
  | [] => some 0
  | .char c :: rest =>
    let digit : Option Nat :=
      if '0' ≤ c ∧ c ≤ '9' then some (c.toNat - 48)
      else if 'a' ≤ c ∧ c ≤ 'f' then some (c.toNat - 87)
      else if 'A' ≤ c ∧ c ≤ 'F' then some (c.toNat - 55)
      else none
    match digit, hexValue rest with
    | some d, some r => some (d * twoTo (4 * rest.length) + r)
    | _, _ => none
  | .byte _ :: _ => none

/-- The character of an escape of one letter. -/
def shortEscape : Char → Option Char
  | '"' => some '"'
  | '\\' => some '\\'
  | '/' => some '/'
  | 'b' => some '\x08'
  | 'f' => some '\x0c'
  | 'n' => some '\n'
  | 'r' => some '\r'
  | 't' => some '\t'
  | _ => none

/-- The value of the four hexadecimal digits that start a text. -/
def leadingHex (t : Text) : Option Nat :=
  let digits := t.take 4
  if digits.length < 4 then none else hexValue digits

/-- The character of an escape by code point, and how many symbols it takes after `\u`: four, or
ten for a pair of surrogates. -/
def codeEscape (t : Text) : Option (Char × Nat) := do
  let unit ← leadingHex t
  if 0xD800 ≤ unit ∧ unit < 0xDC00 then
    match t.drop 4 with
    | .char '\\' :: .char 'u' :: rest =>
      let low ← leadingHex rest
      if 0xDC00 ≤ low ∧ low < 0xE000 then
        some (Char.ofNat (0x10000 + (unit - 0xD800) * 0x400 + (low - 0xDC00)), 10)
      else none
    | _ => none
  else if 0xDC00 ≤ unit ∧ unit < 0xE000 then none
  else some (Char.ofNat unit, 4)

/-- The rest of a string after its opening quote, and what follows the closing one. The first
argument counts the symbols that belong to an escape already read. -/
def readString : Nat → Text → Option (Text × Text)
  | _, [] => none
  | skipped + 1, _ :: t => readString skipped t
  | 0, .char '"' :: t => some ([], t)
  | 0, .char '\\' :: .char 'u' :: t => do
    let (c, length) ← codeEscape t
    let (s, rest) ← readString length t
    some (.char c :: s, rest)
  | 0, .char '\\' :: .char e :: t => do
    let c ← shortEscape e
    let (s, rest) ← readString 0 t
    some (.char c :: s, rest)
  | 0, s :: t =>
    if s = .char '\\' ∨ s.code < 0x20 ∨ s.char? = none then none
    else do
      let (r, rest) ← readString 0 t
      some (s :: r, rest)

/-! ### Numbers -/

/-- How many digits a number of a document may have before its point. -/
def maxIntegerDigits : Nat := 4300

/-- The number that starts a text, by the grammar of the format, and the text after it. A number of too
many digits is refused even where a fraction or an exponent makes it a double. -/
def readNumber (t : Text) : Option (Data × Text) := do
  let (numeral, rest) ← DecimalNumeral.read asciiDigit t
  let leadingZero := numeral.whole.length > 1 && numeral.whole.head? = some '0'
  if t.head? = some (.char '+') || numeral.whole.isEmpty || leadingZero then none
  else if numeral.whole.length > maxIntegerDigits then none
  else
    let signLength := if numeral.negative then 1 else 0
    match t.drop (signLength + numeral.whole.length) with
    | .char '.' :: .char c :: _ =>
      if (asciiDigit c).isNone then none
      else some (.double (.ofDecimal (.ofNumeral asciiDigit numeral)), rest)
    | .char '.' :: _ => none
    | _ =>
      match numeral.exponent with
      | some _ => some (.double (.ofDecimal (.ofNumeral asciiDigit numeral)), rest)
      | none => some (.int (signed numeral.negative (asciiDigit.value numeral.whole)), rest)

/-! ### Tokens -/

/-- The words that stand for data by themselves. -/
def words : List (Text × Data) :=
  [("true", .bool true), ("false", .bool false), ("null", .null),
   ("NaN", .double .notANumber), ("Infinity", .double (.infinite false)),
   ("-Infinity", .double (.infinite true))]

/-- The word that starts a text, and the text after it. -/
def readWord (t : Text) : Option (Data × Text) :=
  (words.find? fun (word, _) => word.isPrefixOf t).map fun (word, d) => (d, t.drop word.length)

/-- The first token of a text that starts with no blank, and the text after it. -/
def readToken : Text → Option (Token × Text)
  | .char '[' :: t => some (.openList, t)
  | .char ']' :: t => some (.closeList, t)
  | .char '{' :: t => some (.openTable, t)
  | .char '}' :: t => some (.closeTable, t)
  | .char ',' :: t => some (.comma, t)
  | .char ':' :: t => some (.colon, t)
  | .char '"' :: t => (readString 0 t).map fun (s, rest) => (.value (.text s), rest)
  | t =>
    match readWord t with
    | some (d, rest) => some (.value d, rest)
    | none => (readNumber t).map fun (d, rest) => (.value d, rest)

/-- Whether a symbol may stand between tokens. -/
def isSpace (s : Symbol) : Bool :=
  s = .char ' ' || s = .char '\t' || s = .char '\n' || s = .char '\r'

/-- The tokens of a text; `fuel` bounds their number. -/
def tokensWithin : Nat → Text → Option (List Token)
  | fuel, t =>
    match t.dropWhile isSpace, fuel with
    | [], _ => some []
    | _, 0 => none
    | t, fuel + 1 => do
      let (token, rest) ← readToken t
      let tokens ← tokensWithin fuel rest
      some (token :: tokens)

/-- The tokens of a text. Each takes at least one symbol. -/
def tokens (t : Text) : Option (List Token) := tokensWithin t.length t

/-! ### The machine -/

/-- An open container with what it holds so far, the last first. -/
inductive Frame where
  | list (items : List Data)
  | table (entries : List (Text × Data)) (key : Text)

/-- What the machine waits for. -/
inductive Expected where
  | value
  | valueOrClose
  | keyOrClose (entries : List (Text × Data))
  | key (entries : List (Text × Data))
  | colon (entries : List (Text × Data)) (key : Text)
  | separator
  | finished (d : Data)

/-- The state of the machine: the open containers, the innermost first, and what may come next. -/
structure Machine where
  frames : List Frame
  expected : Expected

namespace Machine

/-- Takes a value that is complete. -/
def complete (d : Data) : List Frame → Machine
  | [] => ⟨[], .finished d⟩
  | .list items :: frames => ⟨.list (d :: items) :: frames, .separator⟩
  | .table entries key :: frames => ⟨.table ((key, d) :: entries) key :: frames, .separator⟩

/-- Takes a token that starts a value. -/
def start (frames : List Frame) : Token → Option Machine
  | .openList => some ⟨.list [] :: frames, .valueOrClose⟩
  | .openTable => some ⟨frames, .keyOrClose []⟩
  | .value d => some (complete d frames)
  | _ => none

/-- The table with the entries read so far. -/
def closed (entries : List (Text × Data)) : Data := .table (Table.ofEntries entries.reverse)

/-- Takes a token. -/
def step (m : Machine) (token : Token) : Option Machine :=
  match m.expected, token with
  | .value, token => start m.frames token
  | .valueOrClose, .closeList =>
    match m.frames with
    | .list items :: frames => some (complete (.list items.reverse) frames)
    | _ => none
  | .valueOrClose, token => start m.frames token
  | .keyOrClose entries, .closeTable => some (complete (closed entries) m.frames)
  | .keyOrClose entries, .value (.text key) => some ⟨m.frames, .colon entries key⟩
  | .key entries, .value (.text key) => some ⟨m.frames, .colon entries key⟩
  | .colon entries key, .colon => some ⟨.table entries key :: m.frames, .value⟩
  | .separator, .comma =>
    match m.frames with
    | .list _ :: _ => some ⟨m.frames, .value⟩
    | .table entries _ :: frames => some ⟨frames, .key entries⟩
    | [] => none
  | .separator, .closeList =>
    match m.frames with
    | .list items :: frames => some (complete (.list items.reverse) frames)
    | _ => none
  | .separator, .closeTable =>
    match m.frames with
    | .table entries _ :: frames => some (complete (closed entries) frames)
    | _ => none
  | _, _ => none

/-- How many of the open containers are known to hold something. -/
def depth (m : Machine) : Nat :=
  match m.expected with
  | .valueOrClose => m.frames.length - 1
  | .key _ | .colon _ _ => m.frames.length + 1
  | _ => m.frames.length

/-- Takes tokens, as long as no more than `limit` of the open containers hold something. -/
def run (limit : Nat) : List Token → Machine → Option Machine
  | [], m => some m
  | token :: tokens, m => do
    let next ← m.step token
    if next.depth ≤ limit then run limit tokens next else none

end Machine

/-- The data of a document whose containers are nested no deeper than `limit`, an empty one at the bottom
left out of account. -/
def read (limit : Nat) (t : Text) : Option Data := do
  let tokens ← tokens t
  let m ← Machine.run limit tokens ⟨[], .value⟩
  match m.expected with
  | .finished d => some d
  | _ => none

/-! ### Writing -/

/-- How a symbol is written inside a string. A stray byte stays one. -/
def writtenSymbol (s : Symbol) : Text :=
  if s = .char '"' then "\\\""
  else if s = .char '\\' then "\\\\"
  else if s.code < 0x20 then "\\u" ++ (hexDigits 4 s.code).map Symbol.char
  else [s]

/-- A text as a string of a document. -/
def writtenText (t : Text) : Text := "\"" ++ t.flatMap writtenSymbol ++ "\""

/-- A double as a number of a document. -/
def writtenDouble : Double → Text
  | .finite x => x.text
  | .infinite negative => if negative then "-Infinity" else "Infinity"
  | .notANumber => "NaN"

mutual

/-- Plain data as it is written. -/
def write : Data → Text
  | .null => "null"
  | .bool b => if b then "true" else "false"
  | .int n => Text.ofInt n
  | .double x => writtenDouble x
  | .text t => writtenText t
  | .list items => "[" ++ ("," : Text).intercalate (writeItems items) ++ "]"
  | .table entries => "\x7b" ++ ("," : Text).intercalate (writeEntries entries) ++ "\x7d"

def writeItems : List Data → List Text
  | [] => []
  | d :: rest => write d :: writeItems rest

def writeEntries : List (Text × Data) → List Text
  | [] => []
  | (key, d) :: rest => (writtenText key ++ ":" ++ write d) :: writeEntries rest

end

/-- The document of plain data. There is none if one of its texts is no valid Unicode. -/
def document? (d : Data) : Option Text := if d.isUnicode then some (write d) else none

end Json

end PivotOracle
