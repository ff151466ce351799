/-!
# Text

A configuration is handled as the list of its characters. Equality and order of texts are those of
their code points, which is also the order of their UTF-8 bytes.

Blank is the white space of Unicode, not only the ASCII part of it. A line ends at a line feed and
nowhere else, so a carriage return is a blank at the end of its line. The significant lines of a
configuration are its lines with the blanks around them gone, less the empty ones.

A statement starts with a keyword, which may be several words, and its argument follows after at
least one blank. Some statements are read in exactly one letter case. Others are read in any: there
a letter also stands for the few characters outside ASCII that fold to it, the long s and the
kelvin sign. Lower case is that of ASCII alone.

Names and descriptions may be quoted. A writer that puts its own quotes around a value removes every
quote in it; a reader of such values removes only those at the two ends.
-/

namespace SwitchDialects

/-- A text is its characters in order. -/
abbrev Text := List Char

namespace Text

/-- What is left when the characters in the class are taken off both ends. -/
def stripEnds (inClass : Char → Bool) (t : Text) : Text :=
  ((t.dropWhile inClass).reverse.dropWhile inClass).reverse

/-- The parts before and after the first occurrence of a separator. -/
def cut? (separator : Char) : Text → Option (Text × Text)
  | [] => none
  | c :: rest =>
    if c = separator then some ([], rest)
    else (cut? separator rest).map fun (before, after) => (c :: before, after)

def occursIn (piece : Text) : Text → Bool
  | [] => piece.isEmpty
  | c :: rest => piece.isPrefixOf (c :: rest) || occursIn piece rest

def joinWith (separator : Text) (parts : List Text) : Text :=
  separator.intercalate parts

/-- Cutting loses nothing but the separator, and what stands before it does not hold it. -/
theorem cut?_eq_some {separator : Char} {t before after : Text}
    (h : cut? separator t = some (before, after)) :
    t = before ++ separator :: after ∧ separator ∉ before := by
  induction t generalizing before with
  | nil => simp [cut?] at h
  | cons c rest ih =>
    by_cases hc : c = separator
    · simp only [cut?, if_pos hc, Option.some.injEq, Prod.mk.injEq] at h
      obtain ⟨rfl, rfl⟩ := h
      simp [hc]
    · simp only [cut?, if_neg hc, Option.map_eq_some_iff, Prod.mk.injEq] at h
      obtain ⟨⟨b, a⟩, hr, rfl, rfl⟩ := h
      obtain ⟨rfl, hb⟩ := ih hr
      exact ⟨rfl, by simp [hb, Ne.symm hc]⟩

/-- Only a text without the separator cannot be cut. -/
theorem cut?_eq_none_iff {separator : Char} {t : Text} :
    cut? separator t = none ↔ separator ∉ t := by
  induction t with
  | nil => simp [cut?]
  | cons c rest ih =>
    by_cases hc : c = separator
    · simp [cut?, hc]
    · simp [cut?, hc, ih, Ne.symm hc]

theorem occursIn_iff {piece t : Text} : occursIn piece t = true ↔ piece <:+: t := by
  induction t with
  | nil => simp [occursIn]
  | cons c rest ih => simp [occursIn, ih, List.infix_cons_iff]

end Text

/-- White space, by code point. -/
def isBlank (c : Char) : Bool :=
  let n := c.toNat
  (0x09 ≤ n && n ≤ 0x0D) || n == 0x20 || n == 0x85 || n == 0xA0 || n == 0x1680 ||
    (0x2000 ≤ n && n ≤ 0x200A) || n == 0x2028 || n == 0x2029 || n == 0x202F || n == 0x205F ||
    n == 0x3000

namespace Text

/-- A text without the blanks around it. -/
def trim (t : Text) : Text := stripEnds isBlank t

/-- A text without any blank. -/
def compact (t : Text) : Text := t.filter fun c => !isBlank c

/-- The longest pieces of a text that hold no blank. -/
def words (t : Text) : List Text := (t.splitOnP isBlank).filter fun w => !w.isEmpty

def lastWord? (line : Text) : Option Text := (words line).getLast?

/-- The trimmed lines of a text, empty ones left out. -/
def significantLines (t : Text) : List Text :=
  ((t.splitOn '\n').map trim).filter fun line => !line.isEmpty

/-- The number of lines in a text; what follows the last line feed counts unless it is empty. -/
def lineCount (t : Text) : Nat :=
  t.count '\n' + if t.getLast?.all (· == '\n') then 0 else 1

/-- A text that ends its last line, an empty one left as it is. -/
def terminated (t : Text) : Text :=
  if t.getLast?.all (· == '\n') then t else t ++ ['\n']

theorem ne_nil_of_mem_significantLines {t line : Text} (h : line ∈ significantLines t) :
    line ≠ [] := by
  have := (List.mem_filter.mp h).2
  simpa using this

/-- Two texts with a line feed between them have the lines of both, one text after the other. -/
theorem significantLines_append (a b : Text) :
    significantLines (a ++ '\n' :: b) = significantLines a ++ significantLines b := by
  simp only [significantLines, List.splitOn_eq_splitOnP]
  rw [List.splitOnP_append_cons a b (by simp), List.map_append, List.filter_append]

end Text

/-- The letter a character folds to when letter case does not count. -/
def foldLetter (c : Char) : Char :=
  if c = 'ſ' then 's' else if c = '\u212A' then 'k' else c.toLower

namespace Text

/-- A text with its ASCII capitals in lower case. -/
def lower (t : Text) : Text := t.map Char.toLower

def sameIgnoringCase (a b : Text) : Bool := lower a == lower b

/-- The argument of a keyword, read in exactly this letter case. -/
def argument? (keyword line : Text) : Option Text :=
  match keyword.isPrefixOf? line with
  | some (c :: rest) =>
    if isBlank c && !(trim (c :: rest)).isEmpty then some (trim (c :: rest)) else none
  | _ => none

/-- What follows a keyword given in lower case and read in any. -/
def afterKeyword? : (keyword line : Text) → Option Text
  | [], rest => some rest
  | _ :: _, [] => none
  | k :: keyword, c :: line => if foldLetter c = k then afterKeyword? keyword line else none

def afterBlank? (keyword line : Text) : Option Text :=
  match afterKeyword? keyword line with
  | some (c :: rest) => if isBlank c then some (rest.dropWhile isBlank) else none
  | _ => none

def foldedArgument? (keyword line : Text) : Option Text :=
  match afterBlank? keyword line with
  | some (c :: rest) => some (trim (c :: rest))
  | _ => none

/-- The first characters of an argument, all of one class, under a keyword read in any case. -/
def foldedRun? (keyword : Text) (inClass : Char → Bool) (line : Text) : Option Text :=
  match (afterBlank? keyword line).map (List.takeWhile inClass) with
  | some (c :: run) => some (c :: run)
  | _ => none

def withoutQuotes (t : Text) : Text := t.filter (· != '"')

/-- A value without the double quotes at its ends. -/
def unquote (t : Text) : Text := stripEnds (· == '"') t

def quoted (t : Text) : Text := '"' :: t ++ ['"']

theorem quote_notMem_withoutQuotes (t : Text) : '"' ∉ withoutQuotes t := by
  simp [withoutQuotes]

theorem count_quote_quoted_withoutQuotes (t : Text) :
    (quoted (withoutQuotes t)).count '"' = 2 := by
  simp [quoted, List.count_eq_zero_of_not_mem (quote_notMem_withoutQuotes t)]

end Text

end SwitchDialects
