import SwitchDialects.Proofs.Text.Lines

/-!
# Blocks of a written outline

A block is found in a text by its header: what follows up to the next line at the margin, with the
indentation taken off. In a written outline every block is found whose header is like no other line,
and what is found are its members.
-/

namespace SwitchDialects

def Line.isMember : Line → Bool
  | .flush _ => false
  | .member _ => true

namespace Outline

open Text

/-- The members of the block that a header opens in a text. -/
def blockOf (indent : Nat) (header output : Text) : List Text :=
  (((output.splitOn '\n').dropWhile (· != header)).tail.takeWhile
    (List.replicate indent ' ').isPrefixOf).map (List.drop indent)

variable {indent : Nat}

theorem isPrefixOf_render_member (t : Text) :
    (List.replicate indent ' ').isPrefixOf (Line.render indent (.member t)) = true :=
  List.isPrefixOf_iff_prefix.mpr (List.prefix_append _ _)

theorem drop_render_member (t : Text) : (Line.render indent (.member t)).drop indent = t := by
  simp [Line.render]

/-- A line that does not start with a space is at the margin. -/
theorem not_isPrefixOf_of_head? (hindent : 0 < indent) {t : Text} (h : t.head? ≠ some ' ') :
    ¬ (List.replicate indent ' ').isPrefixOf t = true := by
  intro hprefix
  obtain ⟨rest, hrest⟩ := List.isPrefixOf_iff_prefix.mp hprefix
  obtain ⟨n, rfl⟩ := Nat.exists_eq_succ_of_ne_zero hindent.ne'
  rw [← hrest, List.replicate_succ] at h
  exact h rfl

theorem render_member_ne (hindent : 0 < indent) {header : Text} (h : header.head? ≠ some ' ')
    (t : Text) : Line.render indent (.member t) ≠ header := by
  rintro rfl
  exact not_isPrefixOf_of_head? hindent h (isPrefixOf_render_member t)

def membersUnder (header : Text) (lines : List Line) : List Text :=
  ((lines.dropWhile (· != .flush header)).tail.takeWhile Line.isMember).map Line.text

theorem membersUnder_eq_nil {header : Text} {lines : List Line} (h : .flush header ∉ lines) :
    membersUnder header lines = [] := by
  have hskip : ∀ line ∈ lines, (line != .flush header) = true := by
    intro line hline
    have : line ≠ .flush header := fun e => h (e ▸ hline)
    simpa using this
  rw [membersUnder, List.dropWhile_eq_nil_iff.mpr hskip]
  rfl

/-- Only the header itself looks like the header. -/
theorem dropWhile_render (hindent : 0 < indent) {header : Text} (h : header.head? ≠ some ' ')
    (lines : List Line) : (lines.map (Line.render indent)).dropWhile (· != header) =
      (lines.dropWhile (· != .flush header)).map (Line.render indent) := by
  induction lines with
  | nil => rfl
  | cons line lines ih =>
    rw [List.map_cons]
    by_cases hline : line = .flush header
    · rw [hline, List.dropWhile_cons_of_neg (by simp [Line.render]),
        List.dropWhile_cons_of_neg (by simp), List.map_cons]
    · have hother : line.render indent ≠ header := by
        cases line with
        | flush text => exact fun hsame => hline (congrArg Line.flush hsame)
        | member text => exact render_member_ne hindent h text
      rw [List.dropWhile_cons_of_pos (by simpa using hother),
        List.dropWhile_cons_of_pos (by simpa using hline), ih]

/-- The members end where a line is not moved in. -/
theorem takeWhile_render (hindent : 0 < indent) {lines : List Line}
    (margin : ∀ t, .flush t ∈ lines → t.head? ≠ some ' ') :
    ((lines.map (Line.render indent)).takeWhile (List.replicate indent ' ').isPrefixOf).map
        (List.drop indent) =
      (lines.takeWhile Line.isMember).map Line.text := by
  induction lines with
  | nil => rfl
  | cons line lines ih =>
    cases line with
    | flush text =>
      have hflush := not_isPrefixOf_of_head? hindent (margin text List.mem_cons_self)
      rw [List.map_cons, Line.render, List.takeWhile_cons_of_neg hflush]
      rfl
    | member text =>
      rw [List.map_cons, List.takeWhile_cons_of_pos (isPrefixOf_render_member text), List.map_cons,
        drop_render_member, ih fun t ht => margin t (List.mem_cons_of_mem _ ht)]
      rfl

/-- What is found in the text is what stands in the outline. -/
theorem blockOf_render (hindent : 0 < indent) {lines : List Line} (hne : lines ≠ [])
    (oneLine : ∀ line ∈ lines, OneLine line.text)
    (margin : ∀ t, .flush t ∈ lines → t.head? ≠ some ' ') {header : Text}
    (hmargin : header.head? ≠ some ' ') :
    blockOf indent header (render indent lines) = membersUnder header lines := by
  have hrest : ∀ t, .flush t ∈ (lines.dropWhile (· != .flush header)).tail →
      t.head? ≠ some ' ' := fun t ht =>
    margin t ((List.dropWhile_sublist _).subset (List.mem_of_mem_tail ht))
  rw [blockOf, splitOn_render hne oneLine, dropWhile_render hindent hmargin, ← List.map_tail,
    takeWhile_render hindent hrest, membersUnder]

section

universe u

variable {ι : Type u}

def block (head : ι → Text) (inside : ι → List Text) (x : ι) : List Line :=
  .flush (head x) :: (inside x).map .member

variable {head : ι → Text} {inside : ι → List Text} {items : List ι}

theorem flush_mem_blocks {t : Text} :
    .flush t ∈ items.flatMap (block head inside) ↔ ∃ x ∈ items, head x = t := by
  simp [block, eq_comm]

/-- The members of a block end where the next one begins. -/
theorem takeWhile_block (members : List Text) (items : List ι) :
    ((members.map Line.member) ++ items.flatMap (block head inside)).takeWhile Line.isMember =
      members.map Line.member := by
  have hall : ∀ line ∈ members.map Line.member, line.isMember = true := by
    intro line hline
    obtain ⟨t, _, rfl⟩ := List.mem_map.mp hline
    rfl
  have hnone : (items.flatMap (block head inside)).takeWhile Line.isMember = [] := by
    cases items <;> rfl
  rw [List.takeWhile_append_of_pos hall, hnone, List.append_nil]

/-- Among blocks with different headers each is found by its own. -/
theorem membersUnder_blocks (head : ι → Text) (inside : ι → List Text) {front : List Line} {x : ι}
    (hx : x ∈ items)
    (hfront : .flush (head x) ∉ front) (distinct : ∀ y ∈ items, head y = head x → y = x) :
    membersUnder (head x) (front ++ items.flatMap (block head inside)) = inside x := by
  obtain ⟨before, after, rfl, hbefore⟩ := List.eq_append_cons_of_mem hx
  have hskip : ∀ line ∈ front ++ before.flatMap (block head inside),
      (line != .flush (head x)) = true := by
    intro line hline
    have hother : line ≠ .flush (head x) := by
      rintro rfl
      rcases List.mem_append.mp hline with hline | hline
      · exact hfront hline
      · obtain ⟨y, hy, hhead⟩ := flush_mem_blocks.mp hline
        obtain rfl := distinct y (by simp [hy]) hhead
        exact hbefore hy
    simpa using hother
  have hlines : front ++ (before ++ x :: after).flatMap (block head inside) =
      (front ++ before.flatMap (block head inside)) ++ .flush (head x) ::
        ((inside x).map Line.member ++ after.flatMap (block head inside)) := by
    simp [block]
  rw [membersUnder, hlines, List.dropWhile_append_of_pos hskip,
    List.dropWhile_cons_of_neg (by simp), List.tail_cons, takeWhile_block, List.map_map]
  exact List.map_id (inside x)

end

end Outline

end SwitchDialects
