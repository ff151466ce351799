import SwitchDialects.Proofs.AosCx.VoiceNative
import SwitchDialects.Proofs.Membership
import SwitchDialects.Proofs.NumberList
import SwitchDialects.Proofs.Text.Utf8
import SwitchDialects.Translation

/-!
# Lists by number

VLANs, ports and the VLANs of a trunk are listed by number, and what is no number comes after them
by its bytes. Every identifier that is no number is given the greatest number of 64 bits to stand
by, which is also a number that an identifier can have. So the order is the one that is meant unless
an identifier is that number, and then another one that is none may come before it.
-/

namespace SwitchDialects

open Text

namespace NumericOrder

/-- The number that an identifier is, if it has 64 bits. -/
def number? (id : Text) : Option Nat := Decimal.read? Decimal.limit64 id

/-- The order that is meant: numbers by value, the forms of one number by their bytes, and then all
that is no number by its bytes. -/
def ByNumber (a b : Text) : Prop :=
  match number? a, number? b with
  | some m, some n => m < n ∨ m = n ∧ utf8 a ≤ utf8 b
  | some _, none => True
  | none, some _ => False
  | none, none => utf8 a ≤ utf8 b

/-- An identifier that is no number comes before one that is the greatest number of 64 bits. -/
def Overtakes (id number : Text) : Prop :=
  number? id = none ∧ number? number = some largest ∧ utf8 id < utf8 number

instance (id number : Text) : Decidable (Overtakes id number) :=
  inferInstanceAs (Decidable (_ ∧ _ ∧ _))

/-- An identifier is the number that its digits denote, with or without a plus sign. -/
theorem number?_eq_some_iff {id : Text} {n : Nat} : number? id = some n ↔
    ∃ digits, (id = digits ∨ id = '+' :: digits) ∧ Decimal.isNumber digits = true ∧
      Decimal.value digits = n ∧ n < Decimal.limit64 := by
  have hdigits (digits : Text) : Decimal.readDigits? Decimal.limit64 digits = some n ↔
      Decimal.isNumber digits = true ∧ Decimal.value digits = n ∧ n < Decimal.limit64 := by
    rw [Decimal.readDigits?_eq_some_iff]
    constructor
    · rintro ⟨hnumber, hlimit, rfl⟩
      exact ⟨hnumber, rfl, hlimit⟩
    · rintro ⟨hnumber, rfl, hlimit⟩
      exact ⟨hnumber, hlimit, rfl⟩
  -- digits do not begin with a sign, so an identifier has only one of the two forms
  rw [number?, Decimal.read?.eq_def]
  split
  case h_1 digits =>
    rw [hdigits]
    constructor
    · exact fun h => ⟨digits, .inr rfl, h⟩
    · rintro ⟨other, rfl | hsame, hother⟩
      · exact absurd (List.mem_cons_self ..) (Decimal.notMem_of_isNumber hother.1 rfl)
      · rwa [(List.cons.inj hsame).2]
  case h_2 hsign =>
    rw [hdigits]
    constructor
    · exact fun h => ⟨id, .inl rfl, h⟩
    · rintro ⟨digits, rfl | hsame, h⟩
      · exact h
      · exact absurd hsame (hsign digits)

theorem number?_le {id : Text} {n : Nat} (h : number? id = some n) : n ≤ largest := by
  obtain ⟨_, _, _, _, hlimit⟩ := number?_eq_some_iff.mp h
  exact Nat.le_sub_one_of_lt hlimit

theorem rank_eq (id : Text) : rank id = (number? id).getD largest := rfl

theorem le_iff (a b : Text) :
    le a b = true ↔ rank a < rank b ∨ rank a = rank b ∧ utf8 a ≤ utf8 b := by
  rw [le, Bool.or_eq_true, decide_eq_true_eq, Bool.and_eq_true, beq_iff_eq, textLe_iff_utf8]

/-- An identifier that is no number overtakes one if it is not listed after it. -/
theorem overtakes_iff_not_le {id number : Text} {n : Nat} (hid : number? id = none)
    (hnumber : number? number = some n) : Overtakes id number ↔ ¬ le number id = true := by
  have hmost := number?_le hnumber
  rw [Overtakes, hid, hnumber, le_iff, rank_eq, rank_eq, hid, hnumber, Option.getD_some,
    Option.getD_none, not_or, not_and, List.not_le, Option.some.injEq]
  constructor
  · rintro ⟨-, rfl, hbytes⟩
    exact ⟨Nat.lt_irrefl _, fun _ => hbytes⟩
  · rintro ⟨hless, hbytes⟩
    have hsame : n = largest := by omega
    exact ⟨rfl, hsame, hbytes hsame⟩

theorem overtakes_iff_le {id number : Text} {n : Nat} (hid : number? id = none)
    (hnumber : number? number = some n) : Overtakes id number ↔ le id number = true := by
  rw [overtakes_iff_not_le hid hnumber]
  constructor
  · exact fun h => by simpa [h] using le_total id number
  · intro h hback
    rw [le_antisymm h hback, hnumber] at hid
    cases hid

theorem not_overtakes_of_number {id number : Text} {n : Nat} (h : number? id = some n) :
    ¬ Overtakes id number := by
  rintro ⟨hnone, -⟩
  rw [h] at hnone
  cases hnone

theorem not_overtakes_of_none {id number : Text} (h : number? number = none) :
    ¬ Overtakes id number := by
  rintro ⟨-, hnumber, -⟩
  rw [h] at hnumber
  cases hnumber

/-- The order is the one that is meant for two identifiers of which neither overtakes the other, and
for no others. -/
theorem le_iff_byNumber (a b : Text) :
    (le a b = true ↔ ByNumber a b) ↔ ¬ Overtakes a b ∧ ¬ Overtakes b a := by
  cases ha : number? a with
  | some m =>
    have hab : ¬ Overtakes a b := not_overtakes_of_number ha
    cases hb : number? b with
    | some n =>
      have hba : ¬ Overtakes b a := not_overtakes_of_number hb
      simp [le_iff, rank_eq, ByNumber, ha, hb, hab, hba]
    | none => simp [ByNumber, ha, hb, hab, overtakes_iff_not_le hb ha]
  | none =>
    have hba : ¬ Overtakes b a := not_overtakes_of_none ha
    cases hb : number? b with
    | some n => simp [ByNumber, ha, hb, hba, overtakes_iff_le ha hb]
    | none =>
      have hab : ¬ Overtakes a b := not_overtakes_of_none hb
      simp [le_iff, rank_eq, ByNumber, ha, hb, hab, hba]

/-- Numbers in non-decreasing order, and then identifiers that are none. -/
def NumbersFirst (ids : List Text) : Prop :=
  ∃ numbers others, ids = numbers ++ others ∧
    (∃ values : List Nat, numbers.map number? = values.map some ∧ values.Pairwise (· ≤ ·)) ∧
    ∀ id ∈ others, number? id = none

theorem exists_split_of_pairwise {α : Type} {P : α → Prop} {list : List α}
    (h : list.Pairwise fun a b => P b → P a) : ∃ front back, list = front ++ back ∧
      (∀ a ∈ front, P a) ∧ ∀ a ∈ back, ¬ P a := by
  induction list with
  | nil => exact ⟨[], [], rfl, by simp, by simp⟩
  | cons a list ih =>
    obtain ⟨hfirst, hrest⟩ := List.pairwise_cons.mp h
    by_cases ha : P a
    · obtain ⟨front, back, rfl, hfront, hback⟩ := ih hrest
      exact ⟨a :: front, back, rfl, List.forall_mem_cons.mpr ⟨ha, hfront⟩, hback⟩
    · exact ⟨[], a :: list, rfl, by simp,
        List.forall_mem_cons.mpr ⟨ha, fun b hb hP => ha (hfirst b hb hP)⟩⟩

/-- Identifiers in order have the numbers first if and only if none of them overtakes another. -/
theorem numbersFirst_iff {ids : List Text} (ordered : ids.Pairwise fun a b => le a b = true) :
    NumbersFirst ids ↔ ∀ id ∈ ids, ∀ number ∈ ids, ¬ Overtakes id number := by
  constructor
  case mp =>
    rintro ⟨numbers, others, rfl, ⟨values, hvalues, -⟩, hothers⟩ id hid number hnumber hover
    have ⟨hnone, hmost, _⟩ := hover
    rcases List.mem_append.mp hid with hid | hid
    · have hvalue : number? id ∈ values.map some := hvalues ▸ List.mem_map_of_mem hid
      simp [hnone] at hvalue
    · rcases List.mem_append.mp hnumber with hnumber | hnumber
      · have hle := (List.pairwise_append.mp ordered).2.2 number hnumber id hid
        exact (overtakes_iff_not_le hnone hmost).mp hover hle
      · rw [hothers number hnumber] at hmost
        cases hmost
  case mpr =>
    intro hnone
    have hfirst : ids.Pairwise fun a b => number? b ≠ none → number? a ≠ none := by
      refine ordered.imp_of_mem fun {a b} ha hb hle hnumber hother => ?_
      obtain ⟨n, hn⟩ := Option.ne_none_iff_exists'.mp hnumber
      exact hnone a ha b hb ((overtakes_iff_le hother hn).mpr hle)
    obtain ⟨numbers, others, rfl, hnumbers, hothers⟩ := exists_split_of_pairwise hfirst
    have hrank : ∀ id ∈ numbers, number? id = some (rank id) := by
      intro id hid
      obtain ⟨n, hn⟩ := Option.ne_none_iff_exists'.mp (hnumbers id hid)
      rw [rank_eq, hn, Option.getD_some]
    refine ⟨numbers, others, rfl, ⟨numbers.map rank, ?_, ?_⟩, fun id hid => ?_⟩
    · rw [List.map_map]
      exact List.map_congr_left hrank
    · refine List.pairwise_map.mpr ((List.pairwise_append.mp ordered).1.imp fun {a b} hle => ?_)
      rcases (le_iff a b).mp hle with hless | ⟨hsame, -⟩
      · exact Nat.le_of_lt hless
      · exact Nat.le_of_eq hsame
    · simpa using hothers id hid

/-- A list in order, which has the numbers first unless one of its members overtakes another. -/
structure Listed (ids : List Text) : Prop where
  ordered : ids.Pairwise fun a b => le a b = true
  numbersFirst : NumbersFirst ids ↔ ∀ id ∈ ids, ∀ number ∈ ids, ¬ Overtakes id number

theorem listed_sortBy {α : Type} (id : α → Text) (records : List α) :
    Listed ((sortBy id records).map id) := by
  have ordered : ((sortBy id records).map id).Pairwise fun a b => le a b = true :=
    List.pairwise_map.mpr (pairwise_sortBy id records)
  exact ⟨ordered, numbersFirst_iff ordered⟩

theorem listed_allowedVlans (port : Port) : Listed port.allowedVlans := by
  have ordered : port.allowedVlans.Pairwise fun a b => le a b = true :=
    port.listsInOrder_allowedVlans.ordered.imp fun h => h.1
  exact ⟨ordered, numbersFirst_iff ordered⟩

/-- Identifiers are listed by number, and those that are none by their bytes after them, but for one
that overtakes the greatest number. So are the VLANs, the ports and the VLANs of every trunk in a
text of AOS-CX. -/
theorem numbers_first_unless_overtaken (a b : Text) (network : Network) (profile : SiteProfile) :
    (∀ n, number? a = some n ↔ ∃ digits, (a = digits ∨ a = '+' :: digits) ∧
      Decimal.isNumber digits = true ∧ Decimal.value digits = n ∧ n < Decimal.limit64) ∧
    ((le a b = true ↔ ByNumber a b) ↔ ¬ Overtakes a b ∧ ¬ Overtakes b a) ∧
    ∃ (vlans : List Vlan) (ports : List Port),
      vlans.Perm network.vlans.values ∧ ports.Perm network.ports.values ∧
      AosCx.write network profile = Outline.render AosCx.indent
        (AosCx.deviceLines network ++ vlans.flatMap (AosCx.vlanBlock profile) ++
          [.flush "spanning-tree mode rpvst".toList, .flush "spanning-tree".toList] ++
          ports.flatMap (AosCx.portBlock network.source profile)) ∧
      Listed (vlans.map Vlan.id) ∧ Listed (ports.map Port.id) ∧
      ∀ (port : Port) (nativeVlan : Text) (allowed : List Text),
        port.membership network.source profile = .trunk nativeVlan allowed → Listed allowed := by
  refine ⟨fun _ => number?_eq_some_iff, le_iff_byNumber a b, _, _, sortBy_perm Vlan.id _,
    sortBy_perm Port.id _, ?written, listed_sortBy .., listed_sortBy ..,
    fun port nativeVlan allowed htrunk => ?trunk⟩
  case written =>
    rw [AosCx.write, AosCx.outline_prepare]
    rfl
  case trunk =>
    obtain ⟨-, -, rfl⟩ := Port.membership_eq_trunk_iff.mp htrunk
    exact listed_allowedVlans port

/-- A port on whose trunk a voice VLAN that is a word stands with two numbers. -/
def desk : Port where
  id := "5".toList
  accessVlan := some "20".toList
  voiceVlan := some "dot1p".toList
  trunkVlans := ["100".toList]

theorem voiceWord_listed_last :
    le "100".toList "dot1p".toList = true ∧
      desk.membership .ios .default =
        .trunk "20".toList ["20".toList, "100".toList, "dot1p".toList] ∧
      NumbersFirst ["20".toList, "100".toList, "dot1p".toList] := by
  have hnumber : number? "100".toList = some 100 := by decide +kernel
  have hword : number? "dot1p".toList = none := by decide +kernel
  have hby : ByNumber "100".toList "dot1p".toList := by
    rw [ByNumber, hnumber, hword]
    trivial
  have htrunk : desk.membership .ios .default =
      .trunk "20".toList ["20".toList, "100".toList, "dot1p".toList] := by decide +kernel
  obtain ⟨-, horder, _, _, -, -, -, -, -, hlisted⟩ :=
    numbers_first_unless_overtaken "100".toList "dot1p".toList { source := .ios } .default
  exact ⟨(horder.mpr (by decide +kernel)).mpr hby, htrunk,
    (hlisted desk _ _ htrunk).numbersFirst.mpr (by decide +kernel)⟩

def greatestVlans : Text := "vlan 18446744073709551615\nvlan 018446744073709551616".toList

theorem greatestVlan_overtaken :
    number? "18446744073709551615".toList = some largest ∧
      number? "018446744073709551616".toList = none ∧
      le "18446744073709551615".toList "018446744073709551616".toList = false ∧
      (Direction.iosToAosCx.translate greatestVlans .default).output =
        ("vlan 018446744073709551616\nvlan 18446744073709551615\n" ++
          "spanning-tree mode rpvst\nspanning-tree").toList := by
  decide +kernel

end NumericOrder

end SwitchDialects
