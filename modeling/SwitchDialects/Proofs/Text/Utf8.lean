import Mathlib.Data.List.DropRight
import SwitchDialects.Text.Number

/-!
# Texts as bytes

A text is handled as its characters, and stands in a file as their UTF-8 form. Nothing depends on
which of the two is looked at: the order by code points is the order of the bytes, and the ASCII
digits that a text ends in are as many bytes as characters, so that cutting them off by counting
bytes never cuts inside a character.
-/

namespace SwitchDialects.Text

def utf8 (t : Text) : List UInt8 := t.flatMap String.utf8EncodeChar

theorem utf8_cons (c : Char) (t : Text) : utf8 (c :: t) = String.utf8EncodeChar c ++ utf8 t :=
  List.flatMap_cons

theorem utf8_append (a b : Text) : utf8 (a ++ b) = utf8 a ++ utf8 b := List.flatMap_append

theorem toNat_val_lt (c : Char) : c.val.toNat < 0x110000 := by
  rcases c.valid with h | h
  · exact Nat.lt_trans h (by decide)
  · exact h.2

/-- A character with a smaller code has smaller bytes, whatever follows either of them. -/
theorem utf8EncodeChar_lt {a b : Char} (h : a.toNat < b.toNat) (s t : List UInt8) :
    String.utf8EncodeChar a ++ s < String.utf8EncodeChar b ++ t := by
  have hlimit := toNat_val_lt b
  replace h : a.val.toNat < b.val.toNat := h
  fun_cases String.utf8EncodeChar a <;> fun_cases String.utf8EncodeChar b
  all_goals
    simp only [List.cons_append, List.nil_append, List.cons_lt_cons_iff, UInt8.lt_iff_toNat_lt,
      ← UInt8.toNat_inj, UInt8.toNat_ofNat']
  case case4.case4 v _ _ _ w _ _ _ =>
    -- four bytes each: the first two of them decide unless they agree
    simp (disch := omega) only [Nat.mod_eq_of_lt]
    by_cases hhigh : v / 4096 = w / 4096
    · omega
    · have : v / 4096 < w / 4096 := by omega
      omega
  -- otherwise there are fewer bytes, or the first ones tell the lengths apart
  all_goals omega

end SwitchDialects.Text

namespace SwitchDialects.NumericOrder

open Text

theorem append_le_append_iff (front s t : List UInt8) : front ++ s ≤ front ++ t ↔ s ≤ t := by
  induction front with
  | nil => rfl
  | cons b front ih =>
    rw [List.cons_append, List.cons_append, List.cons_le_cons_iff, ih]
    simp

/-- Texts are ordered as their bytes are. -/
theorem textLe_iff_utf8 (a b : Text) : textLe a b = true ↔ utf8 a ≤ utf8 b := by
  induction a generalizing b with
  | nil => simp [textLe, utf8]
  | cons x s ih =>
    cases b with
    | nil => simp [textLe, utf8]
    | cons y t =>
      rw [textLe, utf8_cons, utf8_cons, Bool.or_eq_true, decide_eq_true_eq, Bool.and_eq_true,
        beq_iff_eq, ih]
      rcases Nat.lt_trichotomy x.toNat y.toNat with hlt | heq | hgt
      · exact iff_of_true (.inl hlt) (List.le_of_lt (utf8EncodeChar_lt hlt _ _))
      · obtain rfl := Char.toNat_inj.mp heq
        rw [append_le_append_iff]
        simp
      · refine iff_of_false ?_ (List.not_le.mpr (utf8EncodeChar_lt hgt _ _))
        rintro (hlt | ⟨rfl, _⟩)
        · exact Nat.lt_asymm hlt hgt
        · exact Nat.lt_irrefl _ hgt

end SwitchDialects.NumericOrder

namespace SwitchDialects.Text

theorem utf8EncodeChar_of_ascii {c : Char} (h : c.toNat < 128) :
    String.utf8EncodeChar c = [UInt8.ofNat c.toNat] :=
  if_pos (Nat.le_of_lt_succ h)

/-- No byte of a character outside ASCII is one of ASCII. -/
theorem le_of_mem_utf8EncodeChar {c : Char} (h : 128 ≤ c.toNat) :
    ∀ b ∈ String.utf8EncodeChar c, 128 ≤ b.toNat := by
  have hlimit := toNat_val_lt c
  replace h : 128 ≤ c.val.toNat := h
  fun_cases String.utf8EncodeChar c
  all_goals
    simp only [List.forall_mem_cons, List.not_mem_nil, false_implies, implies_true, and_true,
      UInt8.toNat_ofNat']
    omega

def isDigitByte (b : UInt8) : Bool := 48 ≤ b && b ≤ 57

/-- A byte of a character is a digit exactly if the character is. -/
theorem isDigitByte_of_mem {c : Char} {b : UInt8} (hb : b ∈ String.utf8EncodeChar c) :
    isDigitByte b = c.isDigit := by
  have hbyte : isDigitByte b = true ↔ 48 ≤ b.toNat ∧ b.toNat ≤ 57 := by
    simp [isDigitByte, UInt8.le_iff_toNat_le]
  have hchar : c.isDigit = true ↔ 48 ≤ c.toNat ∧ c.toNat ≤ 57 := by
    simp [Char.isDigit, UInt32.le_iff_toNat_le]
  rw [Bool.eq_iff_iff, hbyte, hchar]
  rcases Nat.lt_or_ge c.toNat 128 with hascii | hother
  · rw [utf8EncodeChar_of_ascii hascii, List.mem_singleton] at hb
    rw [hb, UInt8.toNat_ofNat', Nat.mod_eq_of_lt (by omega)]
  · have := le_of_mem_utf8EncodeChar hother b hb
    omega

theorem rtakeWhile_append_of_pos {α : Type} {p : α → Bool} {back : List α}
    (h : ∀ a ∈ back, p a = true) (front : List α) :
    (front ++ back).rtakeWhile p = front.rtakeWhile p ++ back := by
  have hback : ∀ a ∈ back.reverse, p a = true := fun a ha => h a (List.mem_reverse.mp ha)
  rw [List.rtakeWhile, List.reverse_append, List.takeWhile_append_of_pos hback,
    List.reverse_append, List.reverse_reverse, List.rtakeWhile]

/-- The digits that the bytes end in are the bytes of the digits that the text ends in. -/
theorem rtakeWhile_utf8 (t : Text) :
    (utf8 t).rtakeWhile isDigitByte = utf8 (t.rtakeWhile Char.isDigit) := by
  induction t using List.reverseRecOn with
  | nil => rfl
  | append_singleton t c ih =>
    have hc : utf8 [c] = String.utf8EncodeChar c := List.append_nil _
    rw [utf8_append, hc, List.rtakeWhile_concat]
    by_cases hdigit : c.isDigit = true
    · have hbytes : ∀ b ∈ String.utf8EncodeChar c, isDigitByte b = true := fun b hb => by
        rw [isDigitByte_of_mem hb, hdigit]
      rw [if_pos hdigit, rtakeWhile_append_of_pos hbytes, ih, utf8_append, hc]
    · rw [if_neg hdigit]
      refine List.rtakeWhile_eq_nil_iff.mpr fun _ => ?_
      have hne : String.utf8EncodeChar c ≠ [] := String.utf8EncodeChar_ne_nil
      rw [List.getLast_append_of_ne_nil _ hne, isDigitByte_of_mem (List.getLast_mem hne)]
      exact hdigit

/-- The number of ASCII digits that the bytes of a text end in. -/
def trailingDigitBytes (t : Text) : Nat := ((utf8 t).rtakeWhile isDigitByte).length

/-- As many bytes as are digits at the end are taken off between two characters, in front of the
digits. -/
theorem length_utf8_stem {stem digits : Text}
    (h : (stem ++ digits).rtakeWhile Char.isDigit = digits) :
    (utf8 stem).length = (utf8 (stem ++ digits)).length - trailingDigitBytes (stem ++ digits) := by
  rw [trailingDigitBytes, rtakeWhile_utf8, h, utf8_append, List.length_append,
    Nat.add_sub_cancel]

/-- A text of ASCII has as many bytes as characters. -/
theorem length_utf8_of_ascii {t : Text} (h : ∀ c ∈ t, c.toNat < 128) :
    (utf8 t).length = t.length := by
  induction t with
  | nil => rfl
  | cons c t ih =>
    obtain ⟨hc, ht⟩ := List.forall_mem_cons.mp h
    rw [utf8_cons, utf8EncodeChar_of_ascii hc, List.length_append, ih ht, List.length_cons]
    exact Nat.add_comm ..

end SwitchDialects.Text
