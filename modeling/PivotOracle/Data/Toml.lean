import PivotOracle.Data.Json

/-!
# TOML

Settings files are read as tables of plain data. A document is a sequence of lines: headers, which
name the table that the lines after them fill, and pairs of a key and a value. A table or a list
that is written as a value is closed for good; a table that a header or a dotted key has made may not
be made again by the other means.

* `Toml.read` — the table of a whole document, if it is one.
-/

namespace PivotOracle

namespace Toml

/-- Whether a symbol is a blank inside a line. -/
def isSpace (s : Symbol) : Bool := s = .char ' ' || s = .char '\t'

/-- Whether a symbol may stand in a string or a comment of one line. -/
def isInline (s : Symbol) : Bool := s = .char '\t' || (0x20 ≤ s.code && s.code ≠ 0x7F)

/-- Whether a symbol may stand in a key without quotes. -/
def isBareKey : Symbol → Bool
  | .char c => c.isAlphanum || c = '-' || c = '_'
  | .byte _ => false

/-- The text after the blanks that start it. -/
def skipSpaces (t : Text) : Text := t.dropWhile isSpace

/-- The text after a comment, if one starts it. -/
def skipComment : Text → Option Text
  | .char '#' :: t =>
    if (t.takeWhile (· ≠ .char '\n')).all isInline then some (t.dropWhile (· ≠ .char '\n')) else none
  | t => some t

/-! ### Strings -/

/-- The character of a code point in hexadecimal, if it has one. -/
def codeChar (digits : Text) : Option Char := do
  let n ← Json.hexValue digits
  if n.isValidChar then some (Char.ofNat n) else none

/-- The character of an escape of one letter. -/
def shortEscape : Char → Option Char
  | 'b' => some '\x08'
  | 't' => some '\t'
  | 'n' => some '\n'
  | 'f' => some '\x0c'
  | 'r' => some '\r'
  | '"' => some '"'
  | '\\' => some '\\'
  | _ => none

/-- An escape after its backslash: the character, and how many symbols it takes. -/
def readEscape : Text → Option (Char × Nat)
  | .char 'u' :: t =>
    let digits := t.take 4
    if digits.length < 4 then none else (codeChar digits).map (·, 5)
  | .char 'U' :: t =>
    let digits := t.take 8
    if digits.length < 8 then none else (codeChar digits).map (·, 9)
  | .char c :: _ => (shortEscape c).map (·, 1)
  | _ => none

/-- Whether a backslash ends its line, so that the blanks and line ends after it are dropped, and how
many symbols that takes. -/
def lineContinuation (t : Text) : Option Nat :=
  match t.dropWhile isSpace with
  | .char '\n' :: _ =>
    some (t.takeWhile fun s => isSpace s || s = .char '\n').length
  | _ => none

/-- The rest of a string in double quotes, and what follows it. The first argument counts the
symbols that are taken already; a string of several lines ends at three quotes. -/
def readBasic (multiline : Bool) : Nat → Text → Option (Text × Text)
  | _, [] => none
  | taken + 1, _ :: t => readBasic multiline taken t
  | 0, s :: t =>
    if s = .char '"' then
      if !multiline then some ([], t)
      else if ("\"\"" : Text).isPrefixOf t then
        /- Up to two quotes before the closing ones belong to the string. -/
        let extra := ((t.drop 2).takeWhile (· = .char '"')).take 2
        some (extra, t.drop (2 + extra.length))
      else (readBasic multiline 0 t).map fun (r, rest) => (s :: r, rest)
    else if s = .char '\\' then
      match if multiline then lineContinuation t else none with
      | some length => readBasic multiline length t
      | none =>
        match readEscape t with
        | some (c, length) =>
          (readBasic multiline length t).map fun (r, rest) => (.char c :: r, rest)
        | none => none
    else if isInline s || (multiline && s = .char '\n') then
      (readBasic multiline 0 t).map fun (r, rest) => (s :: r, rest)
    else none

/-- The rest of a string in single quotes, and what follows it. -/
def readLiteral (multiline : Bool) : Text → Option (Text × Text)
  | [] => none
  | s :: t =>
    if s = .char '\'' then
      if !multiline then some ([], t)
      else if ("''" : Text).isPrefixOf t then
        let extra := ((t.drop 2).takeWhile (· = .char '\'')).take 2
        some (extra, t.drop (2 + extra.length))
      else (readLiteral multiline t).map fun (r, rest) => (s :: r, rest)
    else if isInline s || (multiline && s = .char '\n') then
      (readLiteral multiline t).map fun (r, rest) => (s :: r, rest)
    else none

/-- The text after a line end, if one starts it. -/
def skipLineEnd : Text → Text
  | .char '\n' :: t => t
  | t => t

/-- The string that starts a text, and what follows it. -/
def readString (t : Text) : Option (Text × Text) :=
  if ("\"\"\"" : Text).isPrefixOf t then readBasic true 0 (skipLineEnd (t.drop 3))
  else if ("'''" : Text).isPrefixOf t then readLiteral true (skipLineEnd (t.drop 3))
  else match t with
    | .char '"' :: t => readBasic false 0 t
    | .char '\'' :: t => readLiteral false t
    | _ => none

/-! ### Keys -/

/-- One part of a dotted key, and what follows it. -/
def readKeyPart : Text → Option (Text × Text)
  | .char '"' :: t => readBasic false 0 t
  | .char '\'' :: t => readLiteral false t
  | t =>
    match t.takeWhile isBareKey with
    | [] => none
    | part => some (part, t.dropWhile isBareKey)

/-- A dotted key, and what follows it and the blanks after it; `fuel` bounds the number of its
parts. -/
def readKeyWithin : Nat → Text → Option (List Text × Text)
  | 0, _ => none
  | fuel + 1, t => do
    let (part, rest) ← readKeyPart t
    match skipSpaces rest with
    | .char '.' :: rest => do
      let (parts, rest) ← readKeyWithin fuel (skipSpaces rest)
      some (part :: parts, rest)
    | rest => some ([part], rest)

/-- A dotted key, and what follows it and the blanks after it. -/
def readKey (t : Text) : Option (List Text × Text) := readKeyWithin t.length t

/-! ### Numbers -/

/-- Whether a symbol is a digit of a base up to sixteen. -/
def isDigitOf (base : Nat) : Symbol → Bool
  | .char c =>
    let value :=
      if c.isDigit then c.toNat - 48
      else if 'a' ≤ c ∧ c ≤ 'f' then c.toNat - 87
      else if 'A' ≤ c ∧ c ≤ 'F' then c.toNat - 55
      else 16
    value < base
  | .byte _ => false

/-- A run of digits in which single underscores may stand between digits: the digits, and how many
symbols the run takes. -/
def takeGrouped (base : Nat) : Text → Text × Nat
  | [] => ([], 0)
  | [s] => if isDigitOf base s then ([s], 1) else ([], 0)
  | s :: u :: t =>
    if !isDigitOf base s then ([], 0)
    else if u = .char '_' then
      match takeGrouped base t with
      | ([], _) => ([s], 1)
      | (digits, length) => (s :: digits, length + 2)
    else
      let (digits, length) := takeGrouped base (u :: t)
      (s :: digits, length + 1)

/-- The value of digits of a base. -/
def digitsValue (base : Nat) (digits : Text) : Nat :=
  digits.foldl (fun n s => n * base + ((Json.hexValue [s]).getD 0)) 0

/-- An integer of another base than ten, after its leading `0`. -/
def readBased (t : Text) : Option (Data × Text) :=
  let base := match t with
    | .char 'x' :: _ => 16
    | .char 'o' :: _ => 8
    | .char 'b' :: _ => 2
    | _ => 0
  let digits := t.drop 1
  match takeGrouped base digits with
  | ([], _) => none
  | (run, length) => some (.int (digitsValue base run), digits.drop length)

/-- Digits after a mark (a point or the letter of an exponent), if there are any. -/
def readMarked (isMark : Symbol → Bool) (signAllowed : Bool) (t : Text) :
    Option (Bool × Text × Text) :=
  match t with
  | s :: t =>
    if !isMark s then none
    else
      let (negative, unsigned) := if signAllowed then Text.takeSign t else (false, t)
      match takeGrouped 10 unsigned with
      | ([], _) => none
      | (digits, length) => some (negative, digits, unsigned.drop length)
  | [] => none

/-- A number in decimal, and what follows it. -/
def readDecimal (t : Text) : Option (Data × Text) :=
  let (negative, unsigned) := t.takeSign
  let (whole, length) := match unsigned with
    | .char '0' :: _ => (unsigned.take 1, 1)
    | _ => takeGrouped 10 unsigned
  if whole.isEmpty then none
  else
    let rest := unsigned.drop length
    let fraction := readMarked (· = .char '.') false rest
    let afterFraction := (fraction.map (·.2.2)).getD rest
    let exponent := readMarked (fun s => s = .char 'e' || s = .char 'E') true afterFraction
    let afterExponent := (exponent.map (·.2.2)).getD afterFraction
    if fraction.isNone && exponent.isNone then
      some (.int (signed negative (digitsValue 10 whole)), rest)
    else
      let digits := (fraction.map (·.2.1)).getD []
      let power : Int := (exponent.map fun (n, e, _) => signed n (digitsValue 10 e)).getD 0
      some (.double (.ofDecimal ⟨negative, digitsValue 10 (whole ++ digits), power - digits.length⟩),
        afterExponent)

/-- The words that stand for a value by themselves. -/
def words : List (Text × Data) :=
  [("true", .bool true), ("false", .bool false),
   ("inf", .double (.infinite false)), ("+inf", .double (.infinite false)),
   ("-inf", .double (.infinite true)), ("nan", .double .notANumber),
   ("+nan", .double .notANumber), ("-nan", .double .notANumber)]

/-- A value that holds no other, and what follows it. -/
def readSimple (t : Text) : Option (Data × Text) :=
  match readString t with
  | some (s, rest) => some (.text s, rest)
  | none =>
    match words.find? fun (word, _) => word.isPrefixOf t with
    | some (word, d) => some (d, t.drop word.length)
    | none =>
      match t with
      | .char '0' :: rest =>
        match readBased rest with
        | some result => some result
        | none => readDecimal t
      | _ => readDecimal t

/-! ### Tables -/

/-- Changes the table at a path, which is made on the way where it is missing. With `throughLists` a
list on the path stands for its last table. -/
def updateAt (throughLists : Bool) (change : Table → Option Table) : List Text → Table → Option Table
  | [], t => change t
  | key :: path, t =>
    match t.get? key with
    | none => (updateAt throughLists change path []).map fun inner => t.set key (.table inner)
    | some (.table inner) =>
      (updateAt throughLists change path inner).map fun inner => t.set key (.table inner)
    | some (.list items) =>
      match throughLists, items.getLast? with
      | true, some (.table inner) =>
        (updateAt throughLists change path inner).map fun inner =>
          t.set key (.list (items.dropLast ++ [.table inner]))
      | _, _ => none
    | some _ => none

/-- Adds an entry under a key that is not there yet. -/
def addEntry (key : Text) (value : Data) (t : Table) : Option Table :=
  match t.get? key with
  | some _ => none
  | none => some (t.set key value)

/-- Adds an empty table to the list under a key. -/
def addListed (key : Text) (t : Table) : Option Table :=
  match t.get? key with
  | none => some (t.set key (.list [.table []]))
  | some (.list items) => some (t.set key (.list (items ++ [.table []])))
  | some _ => none

/-- Whether a value holds others, so that no later line may reach into it. -/
def isContainer : Data → Bool
  | .list _ | .table _ => true
  | _ => false

/-- The text after blanks, line ends and comments; `fuel` bounds the number of comments. -/
def skipLines : Nat → Text → Option Text
  | fuel, t =>
    match t.dropWhile fun s => isSpace s || s = .char '\n', fuel with
    | .char '#' :: rest, fuel + 1 => do
      let rest ← skipComment (.char '#' :: rest)
      skipLines fuel rest
    | rest, _ => some rest

mutual

/-- A value, and what follows it; `fuel` bounds the nesting and the number of parts. -/
def readValue : Nat → Text → Option (Data × Text)
  | 0, _ => none
  | fuel + 1, t =>
    match t with
    | .char '[' :: rest => do
      let rest ← skipLines rest.length rest
      readItems fuel [] rest
    | .char '{' :: rest =>
      match skipSpaces rest with
      | .char '}' :: rest => some (.table [], rest)
      | rest => readPairs fuel [] [] rest
    | t => readSimple t

/-- The rest of a list, where a value or the closing bracket may stand. -/
def readItems : Nat → List Data → Text → Option (Data × Text)
  | 0, _, _ => none
  | fuel + 1, items, t =>
    match t with
    | .char ']' :: rest => some (.list items.reverse, rest)
    | t => do
      let (d, rest) ← readValue fuel t
      let rest ← skipLines rest.length rest
      match rest with
      | .char ']' :: rest => some (.list (d :: items).reverse, rest)
      | .char ',' :: rest => do
        let rest ← skipLines rest.length rest
        readItems fuel (d :: items) rest
      | _ => none

/-- The rest of a table written as a value, where a pair must stand. `closed` holds the keys of the
containers among the entries. -/
def readPairs : Nat → Table → List (List Text) → Text → Option (Data × Text)
  | 0, _, _, _ => none
  | fuel + 1, entries, closed, t => do
    let (key, d, rest) ← readPair fuel t
    if closed.any (·.isPrefixOf key) then none
    else
      let entries ← updateAt false (addEntry (key.getLast?.getD []) d) key.dropLast entries
      match skipSpaces rest with
      | .char '}' :: rest => some (.table entries, rest)
      | .char ',' :: rest =>
        readPairs fuel entries (if isContainer d then key :: closed else closed) (skipSpaces rest)
      | _ => none

/-- A key, an equals sign and a value. -/
def readPair : Nat → Text → Option (List Text × Data × Text)
  | 0, _ => none
  | fuel + 1, t => do
    let (key, rest) ← readKey t
    match rest with
    | .char '=' :: rest => do
      let (d, rest) ← readValue fuel (skipSpaces rest)
      some (key, d, rest)
    | _ => none

end

/-! ### Documents -/

/-- Where a document stands between two lines: the table so far, the path of the current header, the
paths made by headers or dotted keys, those that later headers may not reopen, and the paths of
containers written as values. -/
structure Progress where
  table : Table
  header : List Text
  made : List (List Text)
  pending : List (List Text)
  closed : List (List Text)

namespace Progress

/-- Whether a path lies in a container written as a value. -/
def isClosed (p : Progress) (path : List Text) : Bool := p.closed.any (·.isPrefixOf path)

/-- Takes the header of a table. -/
def openTable (p : Progress) (path : List Text) : Option Progress :=
  let made := p.pending ++ p.made
  if made.contains path || p.isClosed path then none
  else do
    let table ← updateAt true some path p.table
    some { p with table, header := path, made := path :: made, pending := [] }

/-- Takes the header of a further table of a list. What was said of the earlier tables of the list no
longer holds. -/
def openListed (p : Progress) (path : List Text) : Option Progress :=
  if p.isClosed path then none
  else do
    let table ← updateAt true (addListed (path.getLast?.getD [])) path.dropLast p.table
    let kept := (p.pending ++ p.made).filter fun q => !path.isPrefixOf q
    some { p with
      table, header := path, made := path :: kept, pending := []
      closed := p.closed.filter fun q => !path.isPrefixOf q }

/-- Takes a pair of a key and a value. -/
def assign (p : Progress) (key : List Text) (d : Data) : Option Progress :=
  let inner := (List.range (key.length - 1)).map fun i => p.header ++ key.take (i + 1)
  let parent := p.header ++ key.dropLast
  if inner.any p.made.contains || p.isClosed parent then none
  else do
    let table ← updateAt true (addEntry (key.getLast?.getD []) d) parent p.table
    some { p with
      table, pending := inner ++ p.pending
      closed := if isContainer d then (p.header ++ key) :: p.closed else p.closed }

end Progress

/-- Takes the statement that starts a line, if there is one; gives what follows it. -/
def readStatement (p : Progress) (t : Text) : Option (Progress × Text) :=
  match t with
  | .char '[' :: .char '[' :: rest => do
    let (path, rest) ← readKey (skipSpaces rest)
    let p ← p.openListed path
    match rest with
    | .char ']' :: .char ']' :: rest => some (p, skipSpaces rest)
    | _ => none
  | .char '[' :: rest => do
    let (path, rest) ← readKey (skipSpaces rest)
    let p ← p.openTable path
    match rest with
    | .char ']' :: rest => some (p, skipSpaces rest)
    | _ => none
  | .char '#' :: _ => some (p, t)
  | _ => do
    let (key, d, rest) ← readPair (t.length + 1) t
    let p ← p.assign key d
    some (p, skipSpaces rest)

/-- Takes the lines of a document; `fuel` bounds their number. -/
def readLines : Nat → Progress → Text → Option Table
  | fuel, p, t =>
    match skipSpaces t, fuel with
    | [], _ => some p.table
    | .char '\n' :: rest, fuel + 1 => readLines fuel p rest
    | rest, fuel + 1 => do
      let (p, rest) ← readStatement p rest
      match ← skipComment rest with
      | [] => some p.table
      | .char '\n' :: rest => readLines fuel p rest
      | _ => none
    | _, 0 => none

/-- The table of a document. -/
def read (t : Text) : Option Table :=
  readLines t.length ⟨[], [], [], [], []⟩ t

end Toml

end PivotOracle
