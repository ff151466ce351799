import Mathlib.Data.List.Basic
import SwitchDialects.Text

/-!
# Pieces of a text

A text is cut at every separator into pieces that hold none, one more of them than there are
separators. Every piece is a part of the text, and nothing but separators is lost, so pieces put
together with separators between them give the text back.
-/

namespace SwitchDialects.Text

theorem joinWith_cons_cons (separator part next : Text) (parts : List Text) :
    joinWith separator (part :: next :: parts) =
      part ++ separator ++ joinWith separator (next :: parts) := by
  simp [joinWith, List.intercalate_cons_cons]

/-- A joined text holds each of its parts as a whole. -/
theorem infix_joinWith {separator part : Text} {parts : List Text} (h : part ∈ parts) :
    part <:+: joinWith separator parts := by
  induction parts with
  | nil => cases h
  | cons first parts ih =>
    cases parts with
    | nil =>
      obtain rfl := List.mem_singleton.mp h
      simp [joinWith]
    | cons next parts =>
      rw [joinWith_cons_cons]
      rcases List.mem_cons.mp h with rfl | h
      · rw [List.append_assoc]
        exact (List.prefix_append _ _).isInfix
      · exact (ih h).trans (List.suffix_append _ _).isInfix

/-- A joined text holds what its parts and the separator hold. -/
theorem mem_joinWith {separator : Text} {parts : List Text} {c : Char}
    (h : c ∈ joinWith separator parts) : c ∈ separator ∨ ∃ part ∈ parts, c ∈ part := by
  induction parts with
  | nil => simp [joinWith, List.intercalate] at h
  | cons part parts ih =>
    cases parts with
    | nil =>
      have hpart : c ∈ part := by simpa [joinWith] using h
      exact Or.inr ⟨part, by simp, hpart⟩
    | cons next parts =>
      rw [joinWith_cons_cons, List.append_assoc, List.mem_append, List.mem_append] at h
      rcases h with h | h | h
      · exact Or.inr ⟨part, by simp, h⟩
      · exact Or.inl h
      · rcases ih h with h | ⟨t, ht, hc⟩
        · exact Or.inl h
        · exact Or.inr ⟨t, by simp [ht], hc⟩

theorem splitOn_cons (separator c : Char) (t : Text) :
    (c :: t).splitOn separator =
      if c = separator then [] :: t.splitOn separator
      else (t.splitOn separator).modifyHead (c :: ·) := by
  rw [List.splitOn_eq_splitOnP, List.splitOnP_cons_eq_if_modifyHead, ← List.splitOn_eq_splitOnP]
  simp

/-- A change of characters that leaves the separator alone changes the pieces one by one. -/
theorem splitOn_map {f : Char → Char} {separator : Char}
    (h : ∀ c, f c = separator ↔ c = separator) (t : Text) :
    (t.map f).splitOn separator = (t.splitOn separator).map (List.map f) := by
  induction t with
  | nil => rfl
  | cons c t ih =>
    obtain ⟨first, others, hsplit⟩ := List.exists_cons_of_ne_nil (List.splitOn_ne_nil separator t)
    rw [List.map_cons, splitOn_cons, splitOn_cons, ih, hsplit, if_congr (h c) rfl rfl]
    split <;> rfl

/-- A piece holds no separator. -/
theorem notMem_of_mem_splitOn {separator : Char} {t part : Text}
    (h : part ∈ t.splitOn separator) : separator ∉ part := by
  induction t generalizing part with
  | nil =>
    obtain rfl := List.mem_singleton.mp h
    exact List.not_mem_nil
  | cons c rest ih =>
    obtain ⟨first, others, hsplit⟩ :=
      List.exists_cons_of_ne_nil (List.splitOn_ne_nil separator rest)
    rw [splitOn_cons, hsplit] at h
    rw [hsplit] at ih
    split at h
    · rcases List.mem_cons.mp h with rfl | h
      · exact List.not_mem_nil
      · exact ih h
    · rename_i hc
      rcases List.mem_cons.mp h with rfl | h
      · exact List.not_mem_cons_of_ne_of_not_mem (Ne.symm hc) (ih List.mem_cons_self)
      · exact ih (List.mem_cons_of_mem first h)

/-- A piece is a part of the text. -/
theorem infix_of_mem_splitOn {separator : Char} {t part : Text} (h : part ∈ t.splitOn separator) :
    part <:+: t := by
  have hjoin : joinWith [separator] (t.splitOn separator) = t := List.intercalate_splitOn separator
  rw [← hjoin]
  exact infix_joinWith h

theorem mem_of_mem_splitOn {separator : Char} {t part : Text} (h : part ∈ t.splitOn separator)
    {c : Char} (hc : c ∈ part) : c ∈ t :=
  (infix_of_mem_splitOn h).subset hc

/-- What stands before the first separator is the first piece. -/
theorem splitOn_of_cut? {separator : Char} {t before after : Text}
    (h : cut? separator t = some (before, after)) :
    t.splitOn separator = before :: after.splitOn separator := by
  obtain ⟨rfl, hbefore⟩ := cut?_eq_some h
  rw [List.splitOn_append_cons_self, List.splitOn_eq_singleton hbefore]
  rfl

theorem length_splitOn (separator : Char) (t : Text) :
    (t.splitOn separator).length = t.count separator + 1 := by
  induction t with
  | nil => rfl
  | cons c t ih =>
    rw [splitOn_cons]
    by_cases hc : c = separator
    · simp [hc, ih]
    · simp [hc, ih]

/-- What is put behind a text without a separator in it goes to the last piece. -/
theorem splitOn_append_of_notMem {separator : Char} {back : Text} (h : separator ∉ back)
    (t : Text) : ∃ pieces last, t.splitOn separator = pieces ++ [last] ∧
      (t ++ back).splitOn separator = pieces ++ [last ++ back] := by
  induction t with
  | nil => exact ⟨[], [], rfl, List.splitOn_eq_singleton h⟩
  | cons c t ih =>
    obtain ⟨pieces, last, hsplit, happend⟩ := ih
    rw [List.cons_append, splitOn_cons, splitOn_cons, hsplit, happend]
    by_cases hc : c = separator
    · rw [if_pos hc, if_pos hc]
      exact ⟨[] :: pieces, last, rfl, rfl⟩
    · rw [if_neg hc, if_neg hc]
      cases pieces with
      | nil => exact ⟨[], c :: last, rfl, rfl⟩
      | cons piece pieces => exact ⟨(c :: piece) :: pieces, last, rfl, rfl⟩

/-- What a text holds apart from separators is in its pieces. -/
theorem exists_mem_splitOn {separator c : Char} (hc : c ≠ separator) {t : Text} (h : c ∈ t) :
    ∃ piece ∈ t.splitOn separator, c ∈ piece := by
  have hjoin : joinWith [separator] (t.splitOn separator) = t := List.intercalate_splitOn separator
  rw [← hjoin] at h
  rcases mem_joinWith h with h | h
  · exact absurd (List.mem_singleton.mp h) hc
  · exact h

/-- The pieces of a joined text are the pieces of its parts, when there is a part at all. -/
theorem splitOn_joinWith {separator : Char} {parts : List Text} (hne : parts ≠ []) :
    (joinWith [separator] parts).splitOn separator =
      parts.flatMap (List.splitOn separator) := by
  induction parts with
  | nil => exact absurd rfl hne
  | cons part parts ih =>
    cases parts with
    | nil => simp [joinWith]
    | cons next parts =>
      rw [joinWith_cons_cons, List.append_assoc, List.singleton_append,
        List.splitOn_append_cons_self, ih (by simp)]
      rfl

end SwitchDialects.Text
