import SwitchDialects.NumberList
import SwitchDialects.Proofs.Text.Lines

/-!
# What an accepted list names

A list is checked with its blanks taken out and expanded with them. Taking blanks out exchanges with
splitting, so every element is checked that is expanded, and a bound of a range, which may have
blanks around it only, has the value that was checked. The members of an accepted list are the
numbers of VLANs, then, but for blanks inside an element that is kept as it is written.

A list is read element by element and each element without the blanks around it. So the blanks
around a whole list do not count, and what two lists with a comma between them name is what the
first names and then what the second does.
-/

namespace SwitchDialects

namespace Text

theorem compact_cons (c : Char) (t : Text) :
    compact (c :: t) = if isBlank c = true then compact t else c :: compact t := by
  by_cases hc : isBlank c = true <;> simp [compact, hc]

theorem mem_compact {t : Text} {c : Char} : c ∈ compact t ↔ c ∈ t ∧ isBlank c = false := by
  simp [compact]

theorem compact_eq_self {t : Text} (h : ∀ c ∈ t, isBlank c = false) : compact t = t := by
  rw [compact, List.filter_eq_self]
  intro c hc
  rw [h c hc]
  rfl

theorem compact_dropWhile (t : Text) : compact (t.dropWhile isBlank) = compact t := by
  induction t with
  | nil => rfl
  | cons c t ih =>
    by_cases hc : isBlank c = true
    · rw [List.dropWhile_cons_of_pos hc, ih, compact_cons, if_pos hc]
    · rw [List.dropWhile_cons_of_neg hc]

theorem compact_reverse (t : Text) : compact t.reverse = (compact t).reverse :=
  List.filter_reverse

/-- Blanks at the ends are gone either way. -/
theorem compact_trim (t : Text) : compact (trim t) = compact t := by
  rw [trim, stripEnds, compact_reverse, compact_dropWhile, compact_reverse, compact_dropWhile,
    List.reverse_reverse]

/-- Blanks may be taken out before or after a text is split. -/
theorem splitOn_compact {separator : Char} (h : isBlank separator = false) (t : Text) :
    (compact t).splitOn separator = (t.splitOn separator).map compact := by
  induction t with
  | nil => rfl
  | cons c t ih =>
    obtain ⟨first, others, hsplit⟩ := List.exists_cons_of_ne_nil (List.splitOn_ne_nil separator t)
    rw [hsplit] at ih
    rw [compact_cons, splitOn_cons, hsplit]
    by_cases hblank : isBlank c = true
    · have hne : c ≠ separator := by
        rintro rfl
        simp [h] at hblank
      rw [if_pos hblank, if_neg hne, ih, List.modifyHead_cons, List.map_cons, List.map_cons,
        compact_cons, if_pos hblank]
    · rw [if_neg hblank, splitOn_cons, ih]
      by_cases hc : c = separator
      · rw [if_pos hc, if_pos hc]
        rfl
      · rw [if_neg hc, if_neg hc, List.map_cons, List.modifyHead_cons, List.modifyHead_cons,
          List.map_cons, compact_cons, if_neg hblank]

theorem map_trim_splitOn_blanks_append {separator : Char} (h : isBlank separator = false)
    {front : Text} (hfront : ∀ c ∈ front, isBlank c = true) (t : Text) :
    ((front ++ t).splitOn separator).map trim = (t.splitOn separator).map trim := by
  induction front with
  | nil => rfl
  | cons c front ih =>
    have hc : isBlank c = true := hfront c (by simp)
    have hne : c ≠ separator := by
      rintro rfl
      rw [hc] at h
      cases h
    have hsame := ih fun d hd => hfront d (by simp [hd])
    obtain ⟨first, others, hfirst⟩ :=
      List.exists_cons_of_ne_nil (List.splitOn_ne_nil separator (front ++ t))
    rw [hfirst] at hsame
    rw [List.cons_append, splitOn_cons, if_neg hne, hfirst, List.modifyHead_cons, List.map_cons,
      trim_blank_cons hc, ← List.map_cons, hsame]

theorem map_trim_splitOn_append_blanks {separator : Char} (h : isBlank separator = false)
    {back : Text} (hback : ∀ c ∈ back, isBlank c = true) (t : Text) :
    ((t ++ back).splitOn separator).map trim = (t.splitOn separator).map trim := by
  have hfree : separator ∉ back := by
    intro hmem
    rw [hback separator hmem] at h
    cases h
  obtain ⟨pieces, last, hpieces, happend⟩ := splitOn_append_of_notMem hfree t
  rw [hpieces, happend, List.map_append, List.map_append, List.map_singleton, List.map_singleton,
    trim_append_blanks last hback]

/-- Blanks around a text change its pieces only in the blanks around them. -/
theorem map_trim_splitOn_trim {separator : Char} (h : isBlank separator = false) (t : Text) :
    ((trim t).splitOn separator).map trim = (t.splitOn separator).map trim := by
  obtain ⟨front, back, hsplit, hfront, hback⟩ := exists_eq_trim t
  calc ((trim t).splitOn separator).map trim
      = ((trim t ++ back).splitOn separator).map trim :=
        (map_trim_splitOn_append_blanks h hback (trim t)).symm
    _ = ((front ++ (trim t ++ back)).splitOn separator).map trim :=
        (map_trim_splitOn_blanks_append h hfront (trim t ++ back)).symm
    _ = (t.splitOn separator).map trim := by rw [← hsplit]

/-- What is read of the pieces without the blanks around them is read of the trimmed text. -/
theorem flatMap_splitOn_trim {separator : Char} (h : isBlank separator = false)
    {f : Text → List Text} (hf : ∀ piece, f (trim piece) = f piece) (t : Text) :
    ((trim t).splitOn separator).flatMap f = (t.splitOn separator).flatMap f := by
  have htrimmed (pieces : List Text) : pieces.flatMap f = (pieces.map trim).flatMap f := by
    rw [List.flatMap_map]
    exact List.flatMap_congr fun piece _ => (hf piece).symm
  rw [htrimmed, map_trim_splitOn_trim h, ← htrimmed]

end Text

theorem Decimal.compact_eq_self {t : Text} (h : isNumber t = true) : Text.compact t = t :=
  Text.compact_eq_self fun c hc => isBlank_of_isDigit ((isDigit_of_isNumber h).2 c hc)

theorem Decimal.readDigits?_eq_some_iff {limit n : Nat} {t : Text} :
    readDigits? limit t = some n ↔ isNumber t = true ∧ value t < limit ∧ value t = n := by
  simp [readDigits?, and_assoc]

namespace NumberList

open Text

/-- The number of a VLAN, written in digits. -/
def IsVlanId (t : Text) : Prop := Decimal.isNumber t = true ∧ isVlanNumber t = true

instance (t : Text) : Decidable (IsVlanId t) := inferInstanceAs (Decidable (_ ∧ _))

/-- Both sides of an element that is not rejected are the numbers of VLANs. -/
theorem isVlanId_of_mem_sides {element side : Text} (h : rejectElement? element = none)
    (hside : side ∈ element.splitOn '-') : IsVlanId side := by
  rw [rejectElement?] at h
  split at h
  · cases h
  · split at h
    · cases h
    · rename_i hnumber
      split at h
      · cases h
      · rename_i hvlan
        simp only [Bool.not_eq_true, Bool.not_eq_false', List.all_eq_true] at hnumber hvlan
        exact ⟨hnumber side hside, hvlan side hside⟩

/-- A bound that is a number but for its blanks is read only if they are at its ends. -/
theorem isNumber_trim_of_vlanBound? {t : Text} {n : Nat}
    (h : Decimal.isNumber (compact t) = true) (hn : vlanBound? t = some n) :
    Decimal.isNumber (trim t) = true ∧ Decimal.value (trim t) = n := by
  have hdigit : ∀ c ∈ trim t, isBlank c = false → c.isDigit = true := by
    intro c hc hblank
    refine (Decimal.isDigit_of_isNumber h).2 c ?_
    rw [← compact_trim]
    exact mem_compact.mpr ⟨hc, hblank⟩
  have hread : Decimal.readDigits? Decimal.limit32 (trim t) = some n := by
    rw [vlanBound?, Decimal.read?.eq_def] at hn
    split at hn
    case h_1 rest hplus =>
      -- a plus would be a visible character that is no digit
      have hbad := hdigit '+' (by rw [hplus]; exact List.mem_cons_self) (by decide)
      exact absurd hbad (by decide)
    case h_2 => exact hn
  obtain ⟨hnumber, _, hvalue⟩ := Decimal.readDigits?_eq_some_iff.mp hread
  exact ⟨hnumber, hvalue⟩

theorem vlanBound?_of_isNumber {t : Text} {n : Nat} (h : Decimal.isNumber (compact t) = true)
    (hn : vlanBound? t = some n) : n = Decimal.value (compact t) := by
  obtain ⟨hnumber, hvalue⟩ := isNumber_trim_of_vlanBound? h hn
  rw [← compact_trim, Decimal.compact_eq_self hnumber, hvalue]

theorem isVlanId_render {n : Nat} (hlow : 1 ≤ n) (hhigh : n ≤ maxVlan) :
    IsVlanId (compact (Decimal.render n)) := by
  have hnumber := Decimal.isNumber_render n
  rw [Decimal.compact_eq_self hnumber]
  exact ⟨hnumber, by simp [isVlanNumber, hlow, hhigh]⟩

/-- The members of an element are the numbers of VLANs, blanks inside them aside. -/
theorem isVlanId_of_mem_element {element t : Text} (h : rejectElement? (compact element) = none)
    (ht : t ∈ vlansOfElement element) : IsVlanId (compact t) := by
  have hsides : ∀ side ∈ (trim element).splitOn '-', IsVlanId (compact side) := by
    intro side hside
    refine isVlanId_of_mem_sides h ?_
    rw [← compact_trim, splitOn_compact (by decide)]
    exact List.mem_map_of_mem hside
  simp only [vlansOfElement] at ht
  split at ht
  · cases ht
  · split at ht
    case h_1 hcut =>
      obtain rfl := List.mem_singleton.mp ht
      refine hsides (trim element) ?_
      rw [List.splitOn_eq_singleton (cut?_eq_none_iff.mp hcut)]
      exact List.mem_singleton_self _
    case h_2 first last hcut =>
      split at ht
      case h_1 low high hlow hhigh =>
        split at ht
        · rename_i hmax
          obtain ⟨n, hge, hle, rfl⟩ := mem_between.mp ht
          have hfirst : IsVlanId (compact first) := by
            refine hsides first ?_
            rw [splitOn_of_cut? hcut]
            exact List.mem_cons_self
          have hpositive : 1 ≤ low := by
            rw [vlanBound?_of_isNumber hfirst.1 hlow]
            exact of_decide_eq_true (Bool.and_eq_true_iff.mp hfirst.2).1
          exact isVlanId_render (hpositive.trans hge) (hle.trans hmax)
        · cases ht
      case h_2 => cases ht

/-- The members of an accepted list are the numbers of VLANs, blanks inside them aside. -/
theorem isVlanId_of_mem_vlans {list t : Text} (h : accepts list = true) (ht : t ∈ vlans list) :
    IsVlanId (compact t) := by
  obtain ⟨element, helement, ht⟩ := List.mem_flatMap.mp ht
  refine isVlanId_of_mem_element (accepts_iff.mp h _ ?_) ht
  rw [splitOn_compact (by decide)]
  exact List.mem_map_of_mem helement

/-- A member is an element without a hyphen, trimmed, or is written in digits. -/
theorem eq_trim_or_render_of_mem_vlans {list t : Text} (ht : t ∈ vlans list) :
    (∃ element ∈ list.splitOn ',', '-' ∉ element ∧ t = trim element) ∨
      ∃ n, t = Decimal.render n := by
  obtain ⟨element, helement, ht⟩ := List.mem_flatMap.mp ht
  simp only [vlansOfElement] at ht
  split at ht
  · cases ht
  · split at ht
    case h_1 hcut =>
      refine .inl ⟨element, helement, fun hmem => ?_, List.mem_singleton.mp ht⟩
      have hvisible : '-' ∈ compact (trim element) := by
        rw [compact_trim]
        exact mem_compact.mpr ⟨hmem, by decide⟩
      exact cut?_eq_none_iff.mp hcut (mem_compact.mp hvisible).1
    case h_2 =>
      split at ht
      · split at ht
        · obtain ⟨n, _, _, rfl⟩ := mem_between.mp ht
          exact .inr ⟨n, rfl⟩
        · cases ht
      · cases ht

/-- Whether a list writes a single number as this text, with a blank inside. -/
def breaks (list t : Text) : Bool :=
  t.any isBlank && (list.splitOn ',').any fun element => !element.contains '-' && trim element == t

theorem isVlanId_of_not_breaks {list t : Text} (h : accepts list = true)
    (whole : breaks list t = false) (ht : t ∈ vlans list) : IsVlanId t := by
  have hid := isVlanId_of_mem_vlans h ht
  rcases eq_trim_or_render_of_mem_vlans ht with ⟨element, helement, hfree, rfl⟩ | ⟨n, rfl⟩
  · have hwritten : ((list.splitOn ',').any fun other =>
        !other.contains '-' && trim other == trim element) = true :=
      List.any_eq_true.mpr ⟨element, helement, by simp [hfree]⟩
    rw [breaks, hwritten, Bool.and_true, List.any_eq_false] at whole
    have hsolid : ∀ c ∈ trim element, isBlank c = false := fun c hc =>
      Bool.eq_false_iff.mpr (whole c hc)
    rwa [compact_eq_self hsolid] at hid
  · rwa [Decimal.compact_eq_self (Decimal.isNumber_render n)] at hid

/-- A character of a member is one of the list, the comma excepted, or a digit. -/
theorem of_mem_member {list t : Text} (ht : t ∈ vlans list) {c : Char} (hc : c ∈ t) :
    (c ∈ list ∧ c ≠ ',') ∨ c.isDigit = true := by
  rcases eq_trim_or_render_of_mem_vlans ht with ⟨element, helement, -, rfl⟩ | ⟨n, rfl⟩
  · have hmem := mem_of_mem_stripEnds hc
    exact .inl ⟨mem_of_mem_splitOn helement hmem,
      fun hcomma => notMem_of_mem_splitOn helement (hcomma ▸ hmem)⟩
  · exact .inr ((Decimal.isDigit_of_isNumber (Decimal.isNumber_render n)).2 c hc)

theorem vlansOfElement_trim (element : Text) :
    vlansOfElement (trim element) = vlansOfElement element := by
  rw [vlansOfElement, trim_trim, vlansOfElement]

theorem portsOfElement_trim (element : Text) :
    portsOfElement (trim element) = portsOfElement element := by
  rw [portsOfElement, trim_trim, portsOfElement]

theorem vlans_trim (list : Text) : vlans (trim list) = vlans list :=
  flatMap_splitOn_trim (by decide) vlansOfElement_trim list

theorem ports_trim (list : Text) : ports (trim list) = ports list :=
  flatMap_splitOn_trim (by decide) portsOfElement_trim list

theorem vlans_append (a b : Text) : vlans (a ++ ',' :: b) = vlans a ++ vlans b := by
  rw [vlans, List.splitOn_append_cons_self, List.flatMap_append, vlans, vlans]

theorem ports_append (a b : Text) : ports (a ++ ',' :: b) = ports a ++ ports b := by
  rw [ports, List.splitOn_append_cons_self, List.flatMap_append, ports, ports]

theorem accepts_trim (list : Text) : accepts (trim list) = accepts list := by
  rw [accepts, reject?, compact_trim, accepts, reject?]

/-- Two lists with a comma between them are accepted when both of them are. -/
theorem accepts_append {a b : Text} :
    accepts (a ++ ',' :: b) = true ↔ accepts a = true ∧ accepts b = true := by
  have hcompact : compact (a ++ ',' :: b) = compact a ++ ',' :: compact b := by
    rw [compact, List.filter_append, List.filter_cons_of_pos (by decide), compact, compact]
  rw [accepts_iff, accepts_iff, accepts_iff, hcompact, List.splitOn_append_cons_self,
    List.forall_mem_append]

/-- An accepted list is made of digits, commas, hyphens and blanks. -/
theorem of_mem_of_accepts {list : Text} (h : accepts list = true) {c : Char} (hc : c ∈ list) :
    isBlank c = true ∨ c.isDigit = true ∨ c = ',' ∨ c = '-' := by
  by_cases hblank : isBlank c = true
  · exact .inl hblank
  · have hvisible : c ∈ compact list := mem_compact.mpr ⟨hc, by simpa using hblank⟩
    by_cases hcomma : c = ','
    · exact .inr (.inr (.inl hcomma))
    · obtain ⟨element, helement, hc⟩ := exists_mem_splitOn hcomma hvisible
      by_cases hhyphen : c = '-'
      · exact .inr (.inr (.inr hhyphen))
      · obtain ⟨side, hside, hc⟩ := exists_mem_splitOn hhyphen hc
        have hnumber := (isVlanId_of_mem_sides (accepts_iff.mp h element helement) hside).1
        exact .inr (.inl ((Decimal.isDigit_of_isNumber hnumber).2 c hc))

end NumberList

end SwitchDialects
