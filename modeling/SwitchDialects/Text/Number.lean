import SwitchDialects.Text
import SwitchDialects.MergeSort

/-!
# Decimal numbers and the order of identifiers

A number is a non-empty run of ASCII digits; leading zeros are allowed, and a value is read only if
it stays below a limit, that of 32 or 64 bits. Where a sign is allowed it is a single plus.

VLANs and ports are identified by texts that are mostly numbers. They are listed by value; a text
that is no number, or one too large for 64 bits, takes the largest value, and equal values are
ordered by code points. The order is total, so a sorted list does not depend on where it started.
-/

namespace SwitchDialects

namespace Decimal

/-- Whether a text is a non-empty run of ASCII digits. -/
def isNumber (t : Text) : Bool := !t.isEmpty && t.all Char.isDigit

/-- The value of a run of digits. -/
def value (digits : Text) : Nat := Nat.ofDigitChars 10 digits 0

/-- The shortest decimal form of a number. -/
def render (n : Nat) : Text := Nat.toDigits 10 n

def limit32 : Nat := 4294967296

def limit64 : Nat := 18446744073709551616

/-- The value of a number, if it is below a limit. -/
def readDigits? (limit : Nat) (t : Text) : Option Nat :=
  if isNumber t && value t < limit then some (value t) else none

/-- As `readDigits?`, with one plus sign allowed in front. -/
def read? (limit : Nat) : Text → Option Nat
  | '+' :: t => readDigits? limit t
  | t => readDigits? limit t

def trailing? (t : Text) : Option Text :=
  match (t.reverse.takeWhile Char.isDigit).reverse with
  | [] => none
  | digits => some digits

theorem isNumber_render (n : Nat) : isNumber (render n) = true := by
  simp only [isNumber, render, Bool.and_eq_true, Bool.not_eq_true', List.isEmpty_eq_false_iff,
    List.all_eq_true]
  refine ⟨Nat.toDigits_ne_nil, fun c hc => ?_⟩
  exact Nat.isDigit_of_mem_toDigits (by decide) (by decide) hc

@[simp] theorem value_render (n : Nat) : value (render n) = n := Nat.ofDigitChars_ten_toDigits

theorem readDigits?_render {limit n : Nat} (h : n < limit) :
    readDigits? limit (render n) = some n := by
  simp [readDigits?, isNumber_render, h]

theorem render_injective {m n : Nat} (h : render m = render n) : m = n := by
  rw [← value_render m, h, value_render]

end Decimal

namespace NumericOrder

/-- The value that stands for every text without one. -/
def largest : Nat := Decimal.limit64 - 1

def rank (id : Text) : Nat := (Decimal.read? Decimal.limit64 id).getD largest

def textLe : Text → Text → Bool
  | [], _ => true
  | _ :: _, [] => false
  | a :: s, b :: t => a.toNat < b.toNat || (a == b && textLe s t)

/-- The order of identifiers: by value, and by code points where values are equal. -/
def le (a b : Text) : Bool := rank a < rank b || (rank a == rank b && textLe a b)

/-- Records in the order of their identifiers, equal ones kept in place. -/
def sortBy {α : Type} (id : α → Text) (records : List α) : List α :=
  MergeSort.sort (fun a b => le (id a) (id b)) records

theorem textLe_total (a b : Text) : textLe a b || textLe b a := by
  induction a generalizing b with
  | nil => simp [textLe]
  | cons x s ih =>
    cases b with
    | nil => simp [textLe]
    | cons y t =>
      rcases Nat.lt_trichotomy x.toNat y.toNat with h | h | h
      · simp [textLe, h]
      · have hxy : x = y := Char.toNat_inj.mp h
        subst hxy
        simpa [textLe] using ih t
      · simp [textLe, h]

theorem textLe_trans {a b c : Text} (hab : textLe a b) (hbc : textLe b c) : textLe a c := by
  induction a generalizing b c with
  | nil => simp [textLe]
  | cons x s ih =>
    cases b with
    | nil => simp [textLe] at hab
    | cons y t =>
      cases c with
      | nil => simp [textLe] at hbc
      | cons z u =>
        simp only [textLe, Bool.or_eq_true, decide_eq_true_eq, Bool.and_eq_true, beq_iff_eq]
          at hab hbc ⊢
        rcases hab with hab | ⟨rfl, hab⟩ <;> rcases hbc with hbc | ⟨rfl, hbc⟩
        · exact Or.inl (Nat.lt_trans hab hbc)
        · exact Or.inl hab
        · exact Or.inl hbc
        · exact Or.inr ⟨rfl, ih hab hbc⟩

theorem textLe_antisymm {a b : Text} (hab : textLe a b) (hba : textLe b a) : a = b := by
  induction a generalizing b with
  | nil => cases b with
    | nil => rfl
    | cons y t => simp [textLe] at hba
  | cons x s ih =>
    cases b with
    | nil => simp [textLe] at hab
    | cons y t =>
      simp only [textLe, Bool.or_eq_true, decide_eq_true_eq, Bool.and_eq_true, beq_iff_eq]
        at hab hba
      rcases hab with hab | ⟨rfl, hab⟩
      · rcases hba with hba | ⟨rfl, _⟩ <;> omega
      · rcases hba with hba | ⟨_, hba⟩
        · omega
        · rw [ih hab hba]

theorem le_total (a b : Text) : le a b || le b a := by
  have := textLe_total a b
  simp only [le, Bool.or_eq_true, decide_eq_true_eq, Bool.and_eq_true, beq_iff_eq] at this ⊢
  rcases Nat.lt_trichotomy (rank a) (rank b) with h | h | h
  · exact Or.inl (Or.inl h)
  · exact this.imp (fun t => Or.inr ⟨h, t⟩) (fun t => Or.inr ⟨h.symm, t⟩)
  · exact Or.inr (Or.inl h)

theorem le_trans {a b c : Text} (hab : le a b) (hbc : le b c) : le a c := by
  simp only [le, Bool.or_eq_true, decide_eq_true_eq, Bool.and_eq_true, beq_iff_eq] at hab hbc ⊢
  rcases hab with hab | ⟨hab, tab⟩ <;> rcases hbc with hbc | ⟨hbc, tbc⟩
  · exact Or.inl (Nat.lt_trans hab hbc)
  · exact Or.inl (hbc ▸ hab)
  · exact Or.inl (hab ▸ hbc)
  · exact Or.inr ⟨hab.trans hbc, textLe_trans tab tbc⟩

theorem le_antisymm {a b : Text} (hab : le a b) (hba : le b a) : a = b := by
  simp only [le, Bool.or_eq_true, decide_eq_true_eq, Bool.and_eq_true, beq_iff_eq] at hab hba
  rcases hab with hab | ⟨_, tab⟩ <;> rcases hba with hba | ⟨hba, tba⟩
  · omega
  · omega
  · omega
  · exact textLe_antisymm tab tba

/-- Sorting keeps every record, and only those. -/
theorem sortBy_perm {α : Type} (id : α → Text) (records : List α) :
    (sortBy id records).Perm records :=
  MergeSort.sort_perm records

/-- A sorted list is in order throughout. -/
theorem pairwise_sortBy {α : Type} (id : α → Text) (records : List α) :
    (sortBy id records).Pairwise fun a b => le (id a) (id b) := by
  rw [sortBy]
  apply MergeSort.pairwise_sort
  · exact fun _ _ _ => le_trans
  · exact fun a b => le_total (id a) (id b)

end NumericOrder

end SwitchDialects
