import SwitchDialects.Text

/-!
# TOML tables

A document is a tree of tables. Where a table comes from decides what may be added to it: a table
may get one header of its own, a table that only headers of others have implied may still get it, a
table made by dotted keys may get more dotted keys, and an inline table is complete. A key is never
given two values.
-/

namespace SwitchDialects.Toml

/-- Where a table comes from. -/
inductive Origin where
  /-- Its own header. -/
  | header
  /-- The header of a table below it. -/
  | implied
  /-- A dotted key. -/
  | dotted
  /-- Braces. -/
  | inline
deriving DecidableEq, Repr

inductive Node where
  | string (value : Text)
  /-- A number, a truth value, a date or a time, as written. -/
  | scalar (token : Text)
  | array (items : List Node)
  | table (origin : Origin) (entries : List (Text × Node))
  /-- The tables under repeated headers in double brackets. -/
  | tables (elements : List (List (Text × Node)))

/-- The entries of a table. -/
abbrev Entries := List (Text × Node)

namespace Entries

/-- Give a key a value, in place of the one it has or at the end. -/
def put (entries : Entries) (key : Text) (value : Node) : Entries :=
  if (entries.lookup key).isSome then
    entries.map fun (k, old) => (k, if k = key then value else old)
  else entries ++ [(key, value)]

/-- Give a key a value in the table that a dotted path leads to, unless it has one. -/
def assign? : Entries → List Text → Text → Node → Option Entries
  | entries, [], key, value =>
    if (entries.lookup key).isSome then none else some (entries.put key value)
  | entries, step :: path, key, value =>
    match entries.lookup step with
    | none => (assign? [] path key value).map fun below => entries.put step (.table .dotted below)
    | some (.table .dotted below) =>
      (assign? below path key value).map fun below => entries.put step (.table .dotted below)
    | some (.table .implied below) =>
      if path.isEmpty then none
      else (assign? below path key value).map fun below =>
        entries.put step (.table .implied below)
    | some (.tables elements) =>
      if path.isEmpty then none
      else (assign? (elements.getLastD []) path key value).map fun below =>
        entries.put step (.tables (elements.dropLast ++ [below]))
    | some _ => none

/-- Change the table that the path of a header leads to, with the tables above it as needed. -/
def alter? (change : Entries → Option Entries) : List Text → Entries → Option Entries
  | [], entries => change entries
  | step :: path, entries =>
    match entries.lookup step with
    | none => (alter? change path []).map fun below => entries.put step (.table .implied below)
    | some (.table .inline _) => none
    | some (.table origin below) =>
      (alter? change path below).map fun below => entries.put step (.table origin below)
    | some (.tables elements) =>
      (alter? change path (elements.getLastD [])).map fun below =>
        entries.put step (.tables (elements.dropLast ++ [below]))
    | some _ => none

end Entries

structure Assignment where
  path : List Text
  key : Text
  value : Node

/-- The entries after some assignments, if no key is given two values. -/
def Entries.assignAll? (entries : Entries) (assignments : List Assignment) : Option Entries :=
  assignments.foldlM (fun entries a => entries.assign? a.path a.key a.value) entries

structure Section where
  /-- Whether the header is in double brackets. -/
  repeated : Bool
  path : List Text
  key : Text
  assignments : List Assignment

/-- Add what a section says to the table above the one that it names. -/
def Section.place? (part : Section) (above : Entries) : Option Entries :=
  match part.repeated, above.lookup part.key with
  | false, none =>
    (Entries.assignAll? [] part.assignments).map fun own =>
      above.put part.key (.table .header own)
  | false, some (.table .implied begun) =>
    (Entries.assignAll? begun part.assignments).map fun own =>
      above.put part.key (.table .header own)
  | true, none =>
    (Entries.assignAll? [] part.assignments).map fun own => above.put part.key (.tables [own])
  | true, some (.tables elements) =>
    (Entries.assignAll? [] part.assignments).map fun own =>
      above.put part.key (.tables (elements ++ [own]))
  | _, some _ => none

def root? (head : List Assignment) (sections : List Section) : Option Entries := do
  let entries ← Entries.assignAll? [] head
  sections.foldlM (fun entries part => Entries.alter? part.place? part.path entries) entries

end SwitchDialects.Toml
