import SwitchDialects.Text.Number

/-!
# Lists of numbers

A list such as `10,20-22` names VLANs one by one and by range. A list is accepted when each of its
elements, blanks aside, is a VLAN number or two of them with one hyphen between. A list that is not
accepted is rejected for the first element that fails, and for one of three causes.

A list is read element by element, and every element stands for its members in order. Two readings
exist. That of VLAN lists keeps a single element as it is written. That of port lists takes numbers
only and gives each in its shortest form. In both a range that is reversed, unreadable or too long
stands for nothing, and no member is dropped because it occurred before.
-/

namespace SwitchDialects.NumberList

def maxVlan : Nat := 4094

/-- Why a list is rejected, with the element at fault. -/
inductive Rejection where
  /-- A side of the element is not a run of digits. -/
  | nonNumeric (element : Text)
  /-- The element has more than one hyphen. -/
  | arity (element : Text)
  /-- A number is not that of a VLAN. -/
  | outOfRange (element : Text)
deriving DecidableEq, Repr

namespace Rejection

def element : Rejection → Text
  | nonNumeric e | arity e | outOfRange e => e

def message (rejection : Rejection) : Text :=
  "range list element '".toList ++ rejection.element ++
    match rejection with
    | nonNumeric _ => "' is not numeric".toList
    | arity _ => "' must have the form A-B".toList
    | outOfRange _ => "' is outside 1-4094".toList

end Rejection

def isVlanNumber (t : Text) : Bool := 1 ≤ Decimal.value t && Decimal.value t ≤ maxVlan

/-- The cause for which an element is rejected; a second hyphen counts before anything else. -/
def rejectElement? (element : Text) : Option Rejection :=
  let sides := element.splitOn '-'
  if 2 < sides.length then some (.arity element)
  else if !sides.all Decimal.isNumber then some (.nonNumeric element)
  else if !sides.all isVlanNumber then some (.outOfRange element)
  else none

/-- The rejection of a list: that of its first element at fault. -/
def reject? (list : Text) : Option Rejection :=
  ((Text.compact list).splitOn ',').findSome? rejectElement?

def accepts (list : Text) : Bool := (reject? list).isNone

theorem accepts_iff {list : Text} :
    accepts list = true ↔ ∀ element ∈ (Text.compact list).splitOn ',',
      rejectElement? element = none := by
  simp [accepts, reject?, List.findSome?_eq_none_iff]

/-- The largest port number that may end a range. -/
def maxPort : Nat := 1024

/-- The numbers from the first to the last, none if they are reversed. -/
def between (first last : Nat) : List Text :=
  (List.range' first (last + 1 - first)).map Decimal.render

/-- An end of a range of VLANs: a number with blanks around it. -/
def vlanBound? (t : Text) : Option Nat := Decimal.read? Decimal.limit32 (Text.trim t)

def vlansOfElement (element : Text) : List Text :=
  let element := Text.trim element
  if element.isEmpty then []
  else
    match Text.cut? '-' element with
    | none => [element]
    | some (first, last) =>
      match vlanBound? first, vlanBound? last with
      | some first, some last => if last ≤ maxVlan then between first last else []
      | _, _ => []

/-- The members of a VLAN list, in order and with repetitions. -/
def vlans (list : Text) : List Text := (list.splitOn ',').flatMap vlansOfElement

def portNumber? (t : Text) : Option Nat := Decimal.readDigits? Decimal.limit32 (Text.trim t)

def portsOfElement (element : Text) : List Text :=
  let element := Text.trim element
  match Text.cut? '-' element with
  | none => ((portNumber? element).map Decimal.render).toList
  | some (first, last) =>
    match portNumber? first, portNumber? last with
    | some first, some last => if last ≤ maxPort then between first last else []
    | _, _ => []

def ports (list : Text) : List Text := (list.splitOn ',').flatMap portsOfElement

theorem mem_between {first last : Nat} {t : Text} :
    t ∈ between first last ↔ ∃ n, first ≤ n ∧ n ≤ last ∧ t = Decimal.render n := by
  simp only [between, List.mem_map, List.mem_range'_1]
  constructor
  · rintro ⟨n, ⟨hlo, hhi⟩, rfl⟩
    exact ⟨n, hlo, by omega, rfl⟩
  · rintro ⟨n, hlo, hhi, rfl⟩
    exact ⟨n, ⟨hlo, by omega⟩, rfl⟩

end SwitchDialects.NumberList
