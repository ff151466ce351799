import SwitchDialects.Toml.Node
import SwitchDialects.Toml.Quoted
import SwitchDialects.Toml.Scalar

/-!
# TOML documents

A document is a sequence of lines: assignments, headers in single or double brackets, comments and
blank lines. A line ends at a line feed, with or without a carriage return before it. Values may be
nested, and dotted keys joined, to a depth below eighty.
-/

namespace SwitchDialects.Toml

/-- The depth that nested values and dotted keys stay below. -/
def depthLimit : Nat := 80

def skipSpaces (t : Text) : Text := t.dropWhile isSpace

/-- The text after the blanks, line ends and comments at its start. -/
def skipLines : (inComment : Bool) → Text → Text
  | _, [] => []
  | _, '\r' :: '\n' :: rest => skipLines false rest
  | inComment, c :: rest =>
    if c = '\n' then skipLines false rest
    else if inComment then if isPlain c then skipLines true rest else c :: rest
    else if isSpace c then skipLines false rest
    else if c = '#' then skipLines true rest
    else c :: rest

/-- What follows the rest of a line that holds nothing but a comment. -/
def afterLine? (t : Text) : Option Text :=
  let t := skipSpaces t
  let t := if t.head? = some '#' then t.dropWhile isPlain else t
  match t with
  | [] => some []
  | '\n' :: rest | '\r' :: '\n' :: rest => some rest
  | _ => none

/-- A character of a key without quotes. -/
def isBare (c : Char) : Bool := c.isAlphanum || c = '-' || c = '_'

def key? (t : Text) : Option (Text × Text) :=
  match t.takeWhile isBare with
  | [] => lineString? t
  | bare => some (bare, t.dropWhile isBare)

/-- Keys joined by points, fewer of them than a limit, with the blanks around them. -/
def keysBelow? : (limit : Nat) → Text → Option (List Text × Text)
  | 0, _ => none
  | limit + 1, t => do
    let (key, rest) ← key? (skipSpaces t)
    match skipSpaces rest with
    | '.' :: rest => do
      let (keys, rest) ← keysBelow? limit rest
      return (key :: keys, rest)
    | rest => return ([key], rest)

def dottedKey? (t : Text) : Option (List Text × Text × Text) := do
  let (keys, rest) ← keysBelow? (depthLimit - 1) t
  return (keys.dropLast, ← keys.getLast?, rest)

def isTokenCharacter (c : Char) : Bool := c.isAlphanum || ['+', '-', '_', '.', ':'].contains c

/-- A value that is one token, or a date and a time with a space between. -/
def scalar? (t : Text) : Option (Node × Text) :=
  let token := t.takeWhile isTokenCharacter
  let rest := t.dropWhile isTokenCharacter
  let time := (rest.drop 1).takeWhile isTokenCharacter
  if isDate token && rest.head? = some ' ' && isTime true time then
    some (.scalar (token ++ ' ' :: time), (rest.drop 1).dropWhile isTokenCharacter)
  else if isScalar token then some (.scalar token, rest)
  else none

def assignment? (value? : Text → Option (Node × Text)) (t : Text) :
    Option (Assignment × Text) := do
  let (path, key, rest) ← dottedKey? t
  let '=' :: rest := rest | none
  let (value, rest) ← value? (skipSpaces rest)
  return (⟨path, key, value⟩, rest)

/-- The items of an array after its opening bracket, and what follows the closing one. -/
def items? (value? : Text → Option (Node × Text)) : (fuel : Nat) → Text →
    Option (List Node × Text)
  | 0, _ => none
  | fuel + 1, t =>
    match skipLines false t with
    | ']' :: rest => some ([], rest)
    | t => do
      let (item, rest) ← value? t
      match skipLines false rest with
      | ',' :: rest => do
        let (items, rest) ← items? value? fuel rest
        return (item :: items, rest)
      | ']' :: rest => return ([item], rest)
      | _ => none

/-- The assignments of an inline table, at least one, and what follows the closing brace. -/
def fields? (value? : Text → Option (Node × Text)) : (fuel : Nat) → Text →
    Option (List Assignment × Text)
  | 0, _ => none
  | fuel + 1, t => do
    let (field, rest) ← assignment? value? t
    match skipSpaces rest with
    | ',' :: rest => do
      let (fields, rest) ← fields? value? fuel rest
      return (field :: fields, rest)
    | '\x7d' :: rest => return ([field], rest)
    | _ => none

/-- A value in which arrays and inline tables are nested at most to the given depth. -/
def value? : (depth : Nat) → Text → Option (Node × Text)
  | depth, t =>
    match depth, t with
    | depth + 1, '[' :: rest => do
      let (items, rest) ← items? (value? depth) (rest.length + 1) rest
      return (.array items, rest)
    | depth + 1, '\x7b' :: rest =>
      match skipSpaces rest with
      | '\x7d' :: rest => some (.table .inline [], rest)
      | rest => do
        let (fields, rest) ← fields? (value? depth) (rest.length + 1) rest
        let entries ← Entries.assignAll? [] fields
        return (.table .inline entries, rest)
    | _, '"' :: rest => (string? ('"' :: rest)).map fun (value, rest) => (.string value, rest)
    | _, '\'' :: rest => (string? ('\'' :: rest)).map fun (value, rest) => (.string value, rest)
    | _, t => scalar? t

inductive Statement where
  | assignment (assignment : Assignment)
  | header (repeated : Bool) (path : List Text) (key : Text)

def statement? : Text → Option (Statement × Text)
  | '[' :: '[' :: rest => do
    let (path, key, rest) ← dottedKey? rest
    let ']' :: ']' :: rest := rest | none
    return (.header true path key, rest)
  | '[' :: rest => do
    let (path, key, rest) ← dottedKey? rest
    let ']' :: rest := rest | none
    return (.header false path key, rest)
  | t => do
    let (assignment, rest) ← assignment? (value? (depthLimit - 1)) t
    return (.assignment assignment, rest)

/-- The statements of a document, given more fuel than it has characters. -/
def statements? : (fuel : Nat) → Text → Option (List Statement)
  | 0, _ => none
  | fuel + 1, t =>
    match skipLines false t with
    | [] => some []
    | t => do
      let (statement, rest) ← statement? t
      return statement :: (← statements? fuel (← afterLine? rest))

/-- The assignments before the first header, and the sections that the headers begin. -/
def sections (statements : List Statement) : List Assignment × List Section :=
  statements.foldr (fun statement (head, sections) =>
    match statement with
    | .assignment a => (a :: head, sections)
    | .header repeated path key => ([], ⟨repeated, path, key, head⟩ :: sections)) ([], [])

/-- The root table of a document, a byte order mark before it left out. -/
def document? (t : Text) : Option Entries := do
  let t := if t.head? = some '\uFEFF' then t.drop 1 else t
  let (head, sections) := sections (← statements? (t.length + 1) t)
  root? head sections

end SwitchDialects.Toml
