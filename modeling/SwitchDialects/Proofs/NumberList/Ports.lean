import SwitchDialects.Proofs.NumberList.Reading

/-!
# Lists of ports

A list of ports is read leniently, but what it is read as is written in one way only: each port is
the shortest form of its number, so the ports put together again are read as they are. Where a list
is also accepted as a list of VLANs, with blanks around its numbers only, the two readings differ in
leading zeros and in ranges beyond the last port.
-/

namespace SwitchDialects

open Text

namespace Decimal

/-- Digits without a zero in front of others. -/
structure IsShortest (t : Text) : Prop where
  digits : NumberList.IsDigits t
  noLeadingZero : t.head? = some '0' → t = ['0']

def shortest (t : Text) : Text := render (value t)

theorem shortest_render (n : Nat) : shortest (render n) = render n := by
  rw [shortest, value_render]

theorem render_ne_zero {n : Nat} (h : 0 < n) : (render n).head? ≠ some '0' := by
  induction n using Nat.strong_induction_on with
  | _ n ih =>
    rw [render, Nat.toDigits_eq_if (by decide)]
    by_cases hsmall : n < 10
    · rw [if_pos hsmall]
      intro hzero
      have hcode := congrArg Char.toNat (Option.some.inj hzero)
      rw [Nat.toNat_digitChar_of_lt_ten hsmall] at hcode
      have : ('0').toNat = 48 := rfl
      omega
    · have hrest : 0 < n / 10 := by omega
      rw [if_neg hsmall, List.head?_append_of_ne_nil _ Nat.toDigits_ne_nil]
      exact ih (n / 10) (by omega) hrest

theorem isShortest_render (n : Nat) : IsShortest (render n) where
  digits := NumberList.isNumber_iff.mp (isNumber_render n)
  noLeadingZero h := by
    rcases Nat.eq_zero_or_pos n with rfl | hpos
    · rfl
    · exact absurd h (render_ne_zero hpos)

end Decimal

namespace NumberList

/-- The shortest form of a number of 32 bits. -/
def IsPort (t : Text) : Prop := ∃ n, n < Decimal.limit32 ∧ t = Decimal.render n

theorem IsPort.isNumber {t : Text} (h : IsPort t) : Decimal.isNumber t = true := by
  obtain ⟨n, _, rfl⟩ := h
  exact Decimal.isNumber_render n

theorem IsPort.notMem {t : Text} (h : IsPort t) {c : Char} (hc : c.isDigit = false) : c ∉ t :=
  Decimal.notMem_of_isNumber h.isNumber hc

theorem portsOfElement_of_isPort {t : Text} (h : IsPort t) : portsOfElement t = [t] := by
  have htrim : trim t = t := trim_eq_self (Decimal.significant_of_isNumber h.isNumber).trimmed
  have hcut : cut? '-' t = none := cut?_eq_none_iff.mpr (h.notMem rfl)
  obtain ⟨n, hn, rfl⟩ := h
  simp [portsOfElement, htrim, hcut, portNumber?, Decimal.readDigits?_render hn]

/-- A list of ports is read back port by port. -/
theorem ports_joinWith {members : List Text} (hne : members ≠ [])
    (h : ∀ t ∈ members, IsPort t) : ports (joinWith [','] members) = members := by
  have hsplit : (joinWith [','] members).splitOn ',' = members :=
    List.splitOn_intercalate ',' (fun t ht => (h t ht).notMem rfl) hne
  rw [ports, hsplit]
  clear hsplit hne
  induction members with
  | nil => rfl
  | cons t members ih =>
    rw [List.flatMap_cons, portsOfElement_of_isPort (h t (by simp)),
      ih fun u hu => h u (by simp [hu])]
    rfl

/-- A list of numbers is a word. -/
theorem significant_joinWith {members : List Text} (hne : members ≠ [])
    (h : ∀ t ∈ members, Decimal.isNumber t = true) : Significant (joinWith [','] members) := by
  have hvisible : ∀ c ∈ joinWith [','] members, isBlank c = false := by
    intro c hc
    rcases mem_joinWith hc with hc | ⟨t, ht, hc⟩
    · rw [List.mem_singleton.mp hc]
      decide
    · exact isBlank_of_isDigit ((Decimal.isDigit_of_isNumber (h t ht)).2 c hc)
  refine significant_of_visible (fun hnil => ?_) hvisible
  have hsplit : (joinWith [','] members).splitOn ',' = members :=
    List.splitOn_intercalate ',' (fun t ht => Decimal.notMem_of_isNumber (h t ht) rfl) hne
  rw [hnil] at hsplit
  have hempty : [] ∈ members := by
    rw [← hsplit]
    exact List.mem_singleton_self _
  exact (Decimal.isDigit_of_isNumber (h [] hempty)).1 rfl

theorem length_between (first last : Nat) : (between first last).length = last + 1 - first := by
  simp [between]

/-- No element names more ports than there are numbers up to the last port, zero among them. -/
theorem length_portsOfElement_le (element : Text) :
    (portsOfElement element).length ≤ maxPort + 1 := by
  simp only [portsOfElement]
  split
  · cases portNumber? (trim element) <;> simp
  · split
    · split
      · rw [length_between]
        omega
      · exact Nat.zero_le _
    · exact Nat.zero_le _

/-- Every port of an element has a number of 32 bits. -/
theorem isPort_of_mem_portsOfElement {element t : Text} (h : t ∈ portsOfElement element) :
    IsPort t := by
  simp only [portsOfElement] at h
  split at h
  · obtain ⟨n, hn, rfl⟩ := Option.map_eq_some_iff.mp (Option.mem_toList.mp h)
    obtain ⟨_, hsmall, rfl⟩ := Decimal.readDigits?_eq_some_iff.mp hn
    exact ⟨_, hsmall, rfl⟩
  · split at h
    · split at h
      · rename_i hmax
        obtain ⟨n, _, hle, rfl⟩ := mem_between.mp h
        exact ⟨n, Nat.lt_of_le_of_lt (hle.trans hmax) (by decide), rfl⟩
      · cases h
    · cases h

theorem isPort_of_mem_ports {list t : Text} (h : t ∈ ports list) : IsPort t := by
  obtain ⟨element, _, ht⟩ := List.mem_flatMap.mp h
  exact isPort_of_mem_portsOfElement ht

/-- An element is a list of its own. -/
theorem ports_of_mem_splitOn {list element : Text} (h : element ∈ list.splitOn ',') :
    ports element = portsOfElement element := by
  rw [ports, List.splitOn_eq_singleton (notMem_of_mem_splitOn h)]
  exact List.append_nil _

/-- No blanks stand between two digits. -/
def Gapless (t : Text) : Prop :=
  ∀ d blanks e, d :: (blanks ++ [e]) <:+: t → d.isDigit = true → e.isDigit = true →
    (∀ c ∈ blanks, isBlank c = true) → blanks = []

theorem gapless_cons {c : Char} {t : Text} :
    Gapless (c :: t) ↔
      (c.isDigit = true → (t.dropWhile isBlank).head?.any Char.isDigit = true →
        t.takeWhile isBlank = []) ∧ Gapless t := by
  constructor
  case mp =>
    intro h
    refine ⟨fun hc he => ?first, fun d blanks e hwithin => h d blanks e (hwithin.trans ?rest)⟩
    case first =>
      obtain ⟨e, hhead, he⟩ := (Option.any_eq_true _ _).mp he
      obtain ⟨more, hmore⟩ := List.head?_eq_some_iff.mp hhead
      refine h c (t.takeWhile isBlank) e ⟨[], more, ?_⟩ hc he fun _ => List.mem_takeWhile_imp
      conv_rhs => rw [← t.takeWhile_append_dropWhile (p := isBlank), hmore]
      simp
    case rest => exact List.infix_cons List.infix_rfl
  case mpr =>
    rintro ⟨hfirst, hrest⟩ d blanks e hwithin hd he hblanks
    rcases List.infix_cons_iff.mp hwithin with hprefix | hwithin
    · obtain ⟨after, happend⟩ := hprefix
      obtain ⟨rfl, rfl⟩ : d = c ∧ blanks ++ e :: after = t := by simpa using happend
      have hvisible : ¬ isBlank e = true := by simp [isBlank_of_isDigit he]
      rw [List.dropWhile_append_of_pos hblanks, List.dropWhile_cons_of_neg hvisible,
        List.takeWhile_append_of_pos hblanks, List.takeWhile_cons_of_neg hvisible,
        List.append_nil] at hfirst
      exact hfirst hd he
    · exact hrest d blanks e hwithin hd he hblanks

instance decidableGapless : (t : Text) → Decidable (Gapless t)
  | [] => isTrue fun _ _ _ h => by simp at h
  | c :: t =>
    have := decidableGapless t
    decidable_of_iff _ gapless_cons.symm

/-- Blanks inside a trimmed text stand between two visible characters. -/
theorem exists_gap {t : Text} (h : Trimmed t) {c : Char} (hc : c ∈ t) (hblank : isBlank c = true) :
    ∃ d blanks e, d :: (blanks ++ [e]) <:+: t ∧ isBlank d = false ∧ isBlank e = false ∧
      blanks ≠ [] ∧ ∀ b ∈ blanks, isBlank b = true := by
  have hrest : t.dropWhile (!isBlank ·) ≠ [] := by
    rw [ne_eq, List.dropWhile_eq_nil_iff]
    intro hvisible
    simpa [hblank] using hvisible c hc
  obtain ⟨b, rest, hcons⟩ := List.exists_cons_of_ne_nil hrest
  have hb : isBlank b = true := by
    simpa using head?_dropWhile_outside (t := t) (congrArg List.head? hcons)
  have hparts : t = t.takeWhile (!isBlank ·) ++ b :: rest := by
    rw [← hcons, List.takeWhile_append_dropWhile]
  rcases List.eq_nil_or_concat' (t.takeWhile (!isBlank ·)) with hnil | ⟨init, d, hfront⟩
  · rw [hnil, List.nil_append] at hparts
    rw [h.first b (by rw [hparts]; rfl)] at hb
    cases hb
  have hd : isBlank d = false := by
    have hmem : d ∈ t.takeWhile (!isBlank ·) := by simp [hfront]
    simpa using List.mem_takeWhile_imp hmem
  have htail : rest.dropWhile isBlank ≠ [] := by
    rw [ne_eq, List.dropWhile_eq_nil_iff]
    -- blanks down to the end would have been trimmed off
    intro hall
    have hshort := (infix_trim (t.takeWhile (!isBlank ·))).length_le
    rw [← trim_append_blanks _ (List.forall_mem_cons.mpr ⟨hb, hall⟩), ← hparts,
      trim_eq_self h] at hshort
    have hlength := congrArg List.length hparts
    rw [List.length_append, List.length_cons] at hlength
    omega
  obtain ⟨e, more, hmore⟩ := List.exists_cons_of_ne_nil htail
  refine ⟨d, b :: rest.takeWhile isBlank, e, ⟨init, more, ?_⟩, hd,
    head?_dropWhile_outside (congrArg List.head? hmore), List.cons_ne_nil _ _,
    List.forall_mem_cons.mpr ⟨hb, fun _ => List.mem_takeWhile_imp⟩⟩
  have hback : rest = rest.takeWhile isBlank ++ e :: more := by
    rw [← hmore, List.takeWhile_append_dropWhile]
  conv_rhs => rw [hparts, hfront, hback]
  simp

/-- With no blanks between its digits an accepted list has no blank inside a number. -/
theorem Gapless.unbroken {list element : Text} (h : Gapless list)
    (helement : element ∈ list.splitOn ',') (accepted : IsElement (compact element)) :
    Unbroken element := by
  intro side hside c hc
  by_contra hblank
  obtain ⟨sides, hsides, hall⟩ := exists_sides accepted
  obtain ⟨hsplit, _⟩ := sides_iff.mp hsides
  have hvlan := hall side (hsplit ▸ hside)
  have hdigit : ∀ d ∈ trim side, isBlank d = false → d.isDigit = true := by
    intro d hd hvisible
    refine (isVlanId_iff.mp hvlan).1.2 d ?_
    rw [← compact_trim]
    exact mem_compact.mpr ⟨hd, hvisible⟩
  obtain ⟨d, blanks, e, hgap, hd, he, hne, hblanks⟩ :=
    exists_gap (trimmed_trim side) hc (by simpa using hblank)
  have hwithin : d :: (blanks ++ [e]) <:+: list :=
    hgap.trans ((infix_trim side).trans ((infix_of_mem_splitOn hside).trans
      (infix_of_mem_splitOn helement)))
  refine hne (h d blanks e hwithin (hdigit d (hgap.subset (by simp)) hd)
    (hdigit e (hgap.subset (by simp)) he) hblanks)

/-- What stands after a hyphen, blanks aside, is the number of a port. -/
def EndsInPorts (list : Text) : Prop :=
  ∀ element ∈ (compact list).splitOn ',', ∀ last ∈ (element.splitOn '-').tail,
    Decimal.value last ≤ maxPort

instance (list : Text) : Decidable (EndsInPorts list) :=
  inferInstanceAs (Decidable (∀ element ∈ _, ∀ last ∈ _, _))

theorem portNumber?_of_visible {t : Text} (h : IsVlanId (compact t))
    (hvisible : ∀ c ∈ trim t, isBlank c = false) :
    portNumber? t = some (Decimal.value (compact t)) := by
  rw [portNumber?, trim_eq_compact hvisible]
  exact readDigits?_of_isVlanId h

theorem portsOfElement_single {n : Text} (h : '-' ∉ n) :
    portsOfElement n = ((portNumber? n).map Decimal.render).toList := by
  have hcut : cut? '-' (trim n) = none :=
    cut?_eq_none_iff.mpr fun hmem => h (mem_of_mem_stripEnds hmem)
  simp only [portsOfElement, hcut, portNumber?, trim_trim]

theorem portsOfElement_range {first last : Text} (hfirst : '-' ∉ first) (hlast : '-' ∉ last)
    {low high : Nat} (hlow : portNumber? first = some low) (hhigh : portNumber? last = some high) :
    portsOfElement (first ++ '-' :: last) = if high ≤ maxPort then between low high else [] := by
  obtain ⟨front, back, happend, hfree, hfront, hback⟩ := trim_range hfirst hlast
  have hnumber {a b : Text} (h : trim a = trim b) : portNumber? a = portNumber? b := by
    rw [portNumber?, h, portNumber?]
  simp only [portsOfElement, happend, cut?_append hfree, hnumber hfront, hnumber hback, hlow, hhigh]

theorem map_shortest_between (first last : Nat) :
    (between first last).map Decimal.shortest = between first last := by
  rw [between, List.map_map]
  exact List.map_congr_left fun n _ => Decimal.shortest_render n

/-- An element is read as ports as it is read as VLANs, up to leading zeros, if no blank is inside
its numbers and its range ends at the last port at most. -/
theorem portsOfElement_of_unbroken {element : Text} (h : IsElement (compact element))
    (unbroken : Unbroken element)
    (hends : ∀ last ∈ ((compact element).splitOn '-').tail, Decimal.value last ≤ maxPort) :
    portsOfElement element = (vlansOfElement element).map Decimal.shortest := by
  rw [vlansOfElement_of_unbroken h unbroken]
  obtain ⟨sides, hsides, hall⟩ := exists_sides h
  have hsplit := (sides_iff.mp hsides).1
  rw [Unbroken, hsplit] at unbroken
  rw [splitOn_compact (by decide), hsplit] at hends
  rw [members, splitOn_compact (by decide), hsplit]
  cases hsides with
  | single hfree =>
    rw [portsOfElement_single hfree,
      portNumber?_of_visible (hall element (by simp)) (unbroken element (by simp))]
    rfl
  | @range first last hfirst hlast =>
    have hsmall : Decimal.value (compact last) ≤ maxPort := hends (compact last) (by simp)
    rw [portsOfElement_range hfirst hlast
      (portNumber?_of_visible (hall first (by simp)) (unbroken first (by simp)))
      (portNumber?_of_visible (hall last (by simp)) (unbroken last (by simp))), if_pos hsmall]
    exact (map_shortest_between _ _).symm

theorem ports_eq_map_shortest {list : Text} (h : accepts list = true) (gapless : Gapless list)
    (hends : EndsInPorts list) : ports list = (vlans list).map Decimal.shortest := by
  rw [ports, vlans, List.map_flatMap]
  refine List.flatMap_congr fun element helement => ?_
  have accepted := isElement_of_mem h helement
  refine portsOfElement_of_unbroken accepted (gapless.unbroken helement accepted) ?_
  refine hends (compact element) ?_
  rw [splitOn_compact (by decide)]
  exact List.mem_map_of_mem helement

/-- Whatever a list is, its ports are numbers of 32 bits in their shortest form, they are read again
as they are, and each element names as many as there are numbers up to the last port at most, zero
among them. An accepted list with no blanks between digits and no range beyond the last port names
the ports that it names as VLANs, each in its shortest form. -/
theorem ports_in_shortest_form (list : Text) :
    (∀ port ∈ ports list, Decimal.IsShortest port ∧ Decimal.value port < Decimal.limit32) ∧
    ports (joinWith [','] (ports list)) = ports list ∧
    (ports list = (list.splitOn ',').flatMap ports ∧
      ∀ element ∈ list.splitOn ',', (ports element).length ≤ 1025) ∧
    (accepts list = true → Gapless list → EndsInPorts list →
      ports list = (vlans list).map Decimal.shortest) := by
  refine ⟨fun port hport => ?shortest, ?again, ⟨?pieces, fun element helement => ?bounded⟩,
    ports_eq_map_shortest⟩
  case shortest =>
    obtain ⟨n, hn, rfl⟩ := isPort_of_mem_ports hport
    exact ⟨Decimal.isShortest_render n, by rwa [Decimal.value_render]⟩
  case again =>
    by_cases hnone : ports list = []
    · rw [hnone]
      rfl
    · exact ports_joinWith hnone fun _ => isPort_of_mem_ports
  case pieces =>
    exact List.flatMap_congr fun element helement => (ports_of_mem_splitOn helement).symm
  case bounded =>
    rw [ports_of_mem_splitOn helement]
    exact length_portsOfElement_le element

def looseList : Text := " 1-3, 007 ,10 - 012".toList

theorem looseList_ports :
    accepts looseList = true ∧ Gapless looseList ∧ EndsInPorts looseList ∧
      ports looseList = (vlans looseList).map Decimal.shortest ∧
      (vlans looseList).map String.ofList = ["1", "2", "3", "007", "10", "11", "12"] ∧
      (ports looseList).map String.ofList = ["1", "2", "3", "7", "10", "11", "12"] :=
  have haccepts : accepts looseList = true := by decide +kernel
  have hgapless : Gapless looseList := by decide +kernel
  have hends : EndsInPorts looseList := by decide +kernel
  ⟨haccepts, hgapless, hends,
    (ports_in_shortest_form looseList).2.2.2 haccepts hgapless hends,
    by decide +kernel, by decide +kernel⟩

end NumberList

end SwitchDialects
