import SwitchDialects.Text

/-!
# Dialects

The configuration languages of three switch families. A dialect has one name of its own and is
recognised under a few others, in any letter case and with blanks around it.

The dialect of a text can be guessed. Every significant line may vote for the one dialect whose
statement it is; a line that could be a statement of several goes to the first of them. The dialect
with the most votes is the guess, and there is none when nobody votes or two dialects lead together.
-/

namespace SwitchDialects

/-- The configuration language of a switch family. -/
inductive Dialect where
  /-- Cisco IOS, as on the Catalyst 2960. -/
  | ios
  /-- HP ProCurve, as on the 2520 and 2530. -/
  | proCurve
  /-- Aruba AOS-CX, as on the 6100. -/
  | aosCx
deriving DecidableEq, Repr

namespace Dialect

def name : Dialect → Text
  | ios => "cisco".toList
  | proCurve => "hp".toList
  | aosCx => "aruba6100".toList

/-- The dialect with one of its names, if the text is such a name. -/
def ofName? (text : Text) : Option Dialect :=
  let t := Text.lower (Text.trim text)
  if ["cisco".toList, "ios".toList].contains t then some ios
  else if ["hp".toList, "procurve".toList, "hp2520".toList, "hp2530".toList].contains t then
    some proCurve
  else if ["aruba".toList, "aruba6100".toList, "aoscx".toList, "aos-cx".toList].contains t then
    some aosCx
  else none

def unknownMessage (text : Text) : Text :=
  "unknown dialect '".toList ++ Text.lower (Text.trim text) ++
    "' (expected cisco, hp or aruba6100)".toList

@[simp] theorem ofName?_name (d : Dialect) : ofName? d.name = some d := by cases d <;> decide

def iosOpenings : List Text :=
  ["switchport ".toList, "power inline ".toList, "spanning-tree mode rapid-pvst".toList,
   "interface gigabitethernet".toList, "interface fastethernet".toList, "interface vlan".toList]

def proCurveOpenings : List Text :=
  ["untagged ".toList, "tagged ".toList, "speed-duplex ".toList, "; ".toList]

def aosCxOpenings : List Text :=
  ["interface 1/1/".toList, "vlan trunk ".toList, "vlan access ".toList,
   "snmp-server system-location".toList]

/-- The dialect a line votes for, letter case apart. -/
def vote? (line : Text) : Option Dialect :=
  let t := Text.lower line
  if iosOpenings.any (·.isPrefixOf t) then some ios
  else if proCurveOpenings.any (·.isPrefixOf t) || t == "no power-over-ethernet".toList then
    some proCurve
  else if aosCxOpenings.any (·.isPrefixOf t) || t == "spanning-tree mode rpvst".toList then
    some aosCx
  else none

def votes (text : Text) (d : Dialect) : Nat :=
  ((Text.significantLines text).filterMap vote?).count d

/-- Whether a dialect has more votes than each of the others. -/
def leads (text : Text) (d : Dialect) : Bool :=
  [ios, proCurve, aosCx].all fun other => other == d || votes text other < votes text d

def detect? (text : Text) : Option Dialect :=
  [ios, proCurve, aosCx].find? (leads text)

/-- The votes of two texts add up when they are joined by a line feed. -/
theorem votes_append (a b : Text) (d : Dialect) :
    votes (a ++ '\n' :: b) d = votes a d + votes b d := by
  simp [votes, Text.significantLines_append]

theorem leads_iff {text : Text} {d : Dialect} :
    leads text d = true ↔ ∀ other, other ≠ d → votes text other < votes text d := by
  simp only [leads, List.all_eq_true, Bool.or_eq_true, beq_iff_eq, decide_eq_true_eq]
  constructor
  · intro h other hne
    exact (h other (by cases other <;> simp)).resolve_left hne
  · intro h other _
    by_cases he : other = d
    · exact Or.inl he
    · exact Or.inr (h other he)

theorem detect?_eq_some_iff {text : Text} {d : Dialect} :
    detect? text = some d ↔ leads text d = true := by
  constructor
  · intro h
    exact List.find?_some h
  · intro h
    have lead := leads_iff.mp h
    have others : ∀ other, other ≠ d → leads text other = false := by
      intro other hne
      apply Bool.eq_false_iff.mpr
      intro ho
      have h1 := lead other hne
      have h2 := leads_iff.mp ho d (Ne.symm hne)
      omega
    cases d
    · simp [detect?, h]
    · simp [detect?, h, others ios (by decide)]
    · simp [detect?, h, others ios (by decide), others proCurve (by decide)]

end Dialect

end SwitchDialects
