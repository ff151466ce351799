import SwitchDialects.Text

/-!
# TOML strings

A string stands between double quotes, with escapes, or between single quotes, without. Three quotes
instead of one let it run over several lines: a line feed right after the opening quotes is not part
of it, a carriage return before a line feed is dropped, and with escapes a backslash at the end of a
line takes away the blanks and line ends that follow. Up to two quotes may stand right before the
closing three.
-/

namespace SwitchDialects.Toml

/-- A character that a string or comment may hold: a tab, or any that is no control character. -/
def isPlain (c : Char) : Bool := c = '\t' || (0x20 ≤ c.toNat && c.toNat != 0x7F)

def isSpace (c : Char) : Bool := c = ' ' || c = '\t'

def hexDigit? (c : Char) : Option Nat :=
  let n := c.toNat
  if c.isDigit then some (n - 0x30)
  else if 0x41 ≤ n && n ≤ 0x46 then some (n - 0x41 + 10)
  else if 0x61 ≤ n && n ≤ 0x66 then some (n - 0x61 + 10)
  else none

def ofHex? (digits : Text) : Option Char := do
  let n ← digits.foldlM (fun n c => (hexDigit? c).map (16 * n + ·)) 0
  if n.isValidChar then some (Char.ofNat n) else none

def ofLetter? (letter : Char) : Option Char :=
  if letter = '"' || letter = '\\' then some letter
  else if letter = 'b' then some '\x08'
  else if letter = 't' then some '\t'
  else if letter = 'n' then some '\n'
  else if letter = 'f' then some '\x0C'
  else if letter = 'r' then some '\r'
  else none

inductive EscapeMode where
  | text
  /-- After a backslash and blanks: the line has to end. -/
  | lineEnd
  /-- After such a line end: blanks and line ends are dropped. -/
  | gap
deriving DecidableEq

def unescape? (multiline : Bool) : EscapeMode → Text → Option Text
  | .lineEnd, [] => none
  | _, [] => some []
  | .lineEnd, c :: rest =>
    if isSpace c then unescape? multiline .lineEnd rest
    else if c = '\n' then unescape? multiline .gap rest
    else none
  | _, '\\' :: 'u' :: a :: b :: c :: d :: rest => do
    let char ← ofHex? [a, b, c, d]
    (unescape? multiline .text rest).map (char :: ·)
  | _, '\\' :: 'U' :: a :: b :: c :: d :: e :: f :: g :: h :: rest => do
    let char ← ofHex? [a, b, c, d, e, f, g, h]
    (unescape? multiline .text rest).map (char :: ·)
  | _, '\\' :: c :: rest =>
    if multiline && isSpace c then unescape? multiline .lineEnd rest
    else if multiline && c = '\n' then unescape? multiline .gap rest
    else (ofLetter? c).bind fun char => (unescape? multiline .text rest).map (char :: ·)
  | mode, c :: rest =>
    if mode = .gap && (isSpace c || c = '\n') then unescape? multiline .gap rest
    else if c != '\\' && (isPlain c || (multiline && c = '\n')) then
      (unescape? multiline .text rest).map (c :: ·)
    else none

def literal? (multiline : Bool) (raw : Text) : Option Text :=
  if raw.all fun c => isPlain c || (multiline && c = '\n') then some raw else none

/-- What stands before a closing quote and after it; an escaped quote does not close. -/
def untilQuote? (quote : Char) : Text → Option (Text × Text)
  | [] => none
  | '\\' :: c :: rest =>
    if quote = '"' then (untilQuote? quote rest).map fun (raw, after) => ('\\' :: c :: raw, after)
    else if c = quote then some (['\\'], rest)
    else (untilQuote? quote rest).map fun (raw, after) => ('\\' :: c :: raw, after)
  | c :: rest =>
    if c = quote then some ([], rest)
    else (untilQuote? quote rest).map fun (raw, after) => (c :: raw, after)

def untilQuotes? (quote : Char) : Text → Option (Text × Text)
  | [] => none
  | '\\' :: c :: rest =>
    if quote = '"' then
      (untilQuotes? quote rest).map fun (raw, after) => ('\\' :: c :: raw, after)
    else (untilQuotes? quote (c :: rest)).map fun (raw, after) => ('\\' :: raw, after)
  | c :: rest =>
    let run := ((c :: rest).takeWhile (· = quote)).length
    if 3 ≤ run then
      let kept := min (run - 3) 2
      some (List.replicate kept quote, (c :: rest).drop (kept + 3))
    else (untilQuotes? quote rest).map fun (raw, after) => (c :: raw, after)

/-- A text with every carriage return before a line feed dropped. -/
def joinLineEnds : Text → Text
  | [] => []
  | '\r' :: '\n' :: rest => '\n' :: joinLineEnds rest
  | c :: rest => c :: joinLineEnds rest

/-- The raw text of a string over several lines, without the line end after its opening. -/
def body (raw : Text) : Text :=
  match joinLineEnds raw with
  | '\n' :: rest => rest
  | lines => lines

def lineString? : Text → Option (Text × Text)
  | '"' :: rest => do
    let (raw, after) ← untilQuote? '"' rest
    return (← unescape? false .text raw, after)
  | '\'' :: rest => do
    let (raw, after) ← untilQuote? '\'' rest
    return (← literal? false raw, after)
  | _ => none

def string? : Text → Option (Text × Text)
  | '"' :: '"' :: '"' :: rest => do
    let (raw, after) ← untilQuotes? '"' rest
    return (← unescape? true .text (body raw), after)
  | '\'' :: '\'' :: '\'' :: rest => do
    let (raw, after) ← untilQuotes? '\'' rest
    return (← literal? true (body raw), after)
  | t => lineString? t

end SwitchDialects.Toml
