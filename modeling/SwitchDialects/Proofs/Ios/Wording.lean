import SwitchDialects.Proofs.Ios.Membership

/-!
# The wording of statements about ports

Four keywords name the VLANs of a port. Behind three of them the last word of the line is taken as
it stands, and behind the fourth a list, if it is accepted. Two lines and one keyword are about the
state of the port. So what its record holds is told from the lines in its blocks, without regard to
any other line.
-/

namespace SwitchDialects

open Text

theorem Text.words_ne_nil {t : Text} {c : Char} (hc : c ∈ t) (h : isBlank c = false) :
    words t ≠ [] := by
  induction t with
  | nil => cases hc
  | cons d rest ih =>
    rw [words, List.splitOnP_cons_eq_if_modifyHead]
    by_cases hd : isBlank d = true
    · have hrest : c ∈ rest := (List.mem_cons.mp hc).resolve_left fun hcd => by
        rw [hcd, hd] at h
        cases h
      rw [if_pos hd, List.filter_cons_of_neg (by simp)]
      exact ih hrest
    · obtain ⟨first, others, hfirst⟩ :=
        List.exists_cons_of_ne_nil (List.splitOnP_ne_nil isBlank rest)
      simp [hd, hfirst]

namespace Ios

theorem lastWord?_of_argument? {keyword line rest : Text}
    (h : argument? keyword line = some rest) : lastWord? rest = some (lastWord rest) := by
  obtain ⟨hne, htrimmed, -⟩ := argument?_eq_some h
  obtain ⟨c, more, rfl⟩ := List.exists_cons_of_ne_nil hne
  have hwords := words_ne_nil (List.mem_cons_self (l := more)) (htrimmed.1 c rfl)
  obtain ⟨word, hword⟩ := Option.isSome_iff_exists.mp (List.getLast?_isSome.mpr hwords)
  have hlast : lastWord? (c :: more) = some word := hword
  rw [lastWord, hlast]
  rfl

/-- The list in the argument of a trunk statement. -/
def trunkSpec (argument : Text) : Text :=
  (("add ".toList.isPrefixOf? argument).map Text.trim).getD argument

theorem trunkList_eq (argument : Text) :
    trunkList argument =
      if NumberList.accepts (trunkSpec argument) then NumberList.vlans (trunkSpec argument)
      else [] := rfl

/-- A line with a keyword that no reading before comes to is read by this keyword. -/
theorem PortStatement.ofLine?_of_first {keyword line rest : Text} {make : Text → PortStatement}
    (h : argument? keyword line = some rest)
    (hfirst : ∀ more, ∃ others : Unit → Option PortStatement, ofLine? (keyword ++ more) =
      ((argument? keyword (keyword ++ more)).map make).orElse others) :
    ofLine? line = some (make rest) := by
  obtain ⟨more, rfl⟩ := exists_eq_append_of_argument? h
  obtain ⟨others, hread⟩ := hfirst more
  rw [hread, h]
  rfl

inductive VlanKeyword where
  | access
  | trunk
  | native
  | voice
deriving DecidableEq, Repr

namespace VlanKeyword

def text : VlanKeyword → Text
  | access => "switchport access vlan".toList
  | trunk => "switchport trunk allowed vlan".toList
  | native => "switchport trunk native vlan".toList
  | voice => "switchport voice vlan".toList

def statement : VlanKeyword → Text → PortStatement
  | access, rest => .access (lastWord rest)
  | trunk, rest => .trunk (trunkList rest)
  | native, rest => .native (lastWord? rest)
  | voice, rest => .voice (lastWord rest)

/-- The last word of a line that starts with the keyword. -/
def word? (keyword : VlanKeyword) (line : Text) : Option Text :=
  (argument? keyword.text line).bind lastWord?

theorem isBody {keyword : VlanKeyword} {line rest : Text}
    (h : argument? keyword.text line = some rest) : Ios.isBody line = true := by
  obtain ⟨more, rfl⟩ := exists_eq_append_of_argument? h
  cases keyword <;> exact decide_eq_true ⟨rfl, rfl⟩

theorem ofLine?_of_argument? (keyword : VlanKeyword) {line rest : Text}
    (h : argument? keyword.text line = some rest) :
    PortStatement.ofLine? line = some (keyword.statement rest) := by
  refine PortStatement.ofLine?_of_first h fun more => ?_
  -- no keyword before this one starts the line
  cases keyword <;> exact ⟨_, rfl⟩

end VlanKeyword

def PortStatement.keyword? : PortStatement → Option VlanKeyword
  | .access _ => some .access
  | .trunk _ => some .trunk
  | .native _ => some .native
  | .voice _ => some .voice
  | _ => none

/-- A statement about the VLANs of a port is made by the lines with its keyword and by no others. -/
theorem PortStatement.ofLine?_eq_some_iff {statement : PortStatement} {keyword : VlanKeyword}
    (hkeyword : statement.keyword? = some keyword) {line : Text} :
    ofLine? line = some statement ↔
      (argument? keyword.text line).map keyword.statement = some statement := by
  constructor
  case mp =>
    intro h
    have hread (other : VlanKeyword) {rest : Text}
        (hrest : argument? other.text line = some rest)
        (hother : (other.statement rest).keyword? = some keyword) :
        (argument? keyword.text line).map keyword.statement = some (other.statement rest) := by
      obtain rfl : other = keyword := by cases other <;> exact Option.some.inj hother
      rw [hrest]
      rfl
    exact PortStatement.reading
      (P := fun s => s.keyword? = some keyword →
        (argument? keyword.text line).map keyword.statement = some s) h
      nofun nofun (fun _ => hread .access) (fun _ => hread .trunk) (fun _ => hread .native)
      (fun _ => hread .voice) nofun nofun nofun nofun hkeyword
  case mpr =>
    intro h
    obtain ⟨rest, hrest, rfl⟩ := Option.map_eq_some_iff.mp h
    exact VlanKeyword.ofLine?_of_argument? keyword hrest

variable {line vlan : Text}

theorem PortStatement.ofLine?_access_iff :
    ofLine? line = some (.access vlan) ↔ VlanKeyword.access.word? line = some vlan := by
  rw [ofLine?_eq_some_iff rfl, VlanKeyword.word?]
  cases hrest : argument? VlanKeyword.access.text line with
  | none => simp
  | some rest => simp [VlanKeyword.statement, lastWord?_of_argument? hrest]

theorem PortStatement.ofLine?_voice_iff :
    ofLine? line = some (.voice vlan) ↔ VlanKeyword.voice.word? line = some vlan := by
  rw [ofLine?_eq_some_iff rfl, VlanKeyword.word?]
  cases hrest : argument? VlanKeyword.voice.text line with
  | none => simp
  | some rest => simp [VlanKeyword.statement, lastWord?_of_argument? hrest]

theorem PortStatement.ofLine?_native_iff {vlan : Option Text} :
    ofLine? line = some (.native vlan) ↔
      VlanKeyword.native.word? line = vlan ∧ vlan.isSome = true := by
  rw [ofLine?_eq_some_iff rfl, VlanKeyword.word?]
  cases hrest : argument? VlanKeyword.native.text line with
  | none => cases vlan <;> simp
  | some rest => cases vlan <;> simp [VlanKeyword.statement, lastWord?_of_argument? hrest]

def acceptedList? (line : Text) : Option Text :=
  ((argument? VlanKeyword.trunk.text line).map trunkSpec).filter NumberList.accepts

theorem PortStatement.mem_trunkVlans_iff :
    (∃ statement, ofLine? line = some statement ∧ vlan ∈ statement.trunkVlans) ↔
      ∃ list, acceptedList? line = some list ∧ vlan ∈ NumberList.vlans list := by
  constructor
  · rintro ⟨statement, hread, hvlan⟩
    cases statement with
    | trunk vlans =>
      have hkeyword : (PortStatement.trunk vlans).keyword? = some .trunk := rfl
      obtain ⟨rest, hrest, hsame⟩ := Option.map_eq_some_iff.mp
        ((ofLine?_eq_some_iff hkeyword).mp hread)
      obtain rfl : trunkList rest = vlans := PortStatement.trunk.inj hsame
      rw [trunkVlans, trunkList_eq] at hvlan
      split at hvlan
      · rename_i haccepts
        refine ⟨trunkSpec rest, ?_, hvlan⟩
        rw [acceptedList?, hrest]
        exact Option.filter_eq_some_iff.mpr ⟨rfl, haccepts⟩
      · cases hvlan
    | _ => cases hvlan
  · rintro ⟨list, hlist, hvlan⟩
    obtain ⟨hmap, haccepts⟩ := Option.filter_eq_some_iff.mp hlist
    obtain ⟨rest, hrest, rfl⟩ := Option.map_eq_some_iff.mp hmap
    refine ⟨_, VlanKeyword.ofLine?_of_argument? .trunk hrest, ?_⟩
    rwa [VlanKeyword.statement, trunkVlans, trunkList_eq, if_pos haccepts]

/-- A line makes its port an untagged member of its access VLAN. -/
theorem untaggedVlans_of_line :
    (isBody line = true ∧ ∃ statement, PortStatement.ofLine? line = some statement ∧
      vlan ∈ statement.untaggedVlans) ↔ VlanKeyword.access.word? line = some vlan := by
  simp only [PortStatement.mem_untaggedVlans, PortStatement.access?_eq_some_iff, exists_eq_right,
    PortStatement.ofLine?_access_iff, and_iff_right_iff_imp]
  intro hword
  obtain ⟨rest, hrest, -⟩ := Option.bind_eq_some_iff.mp hword
  exact VlanKeyword.isBody hrest

/-- A line makes its port a tagged member of its voice VLAN and of the VLANs in a trunk list. -/
theorem taggedVlans_of_line :
    (isBody line = true ∧ ∃ statement, PortStatement.ofLine? line = some statement ∧
      vlan ∈ statement.taggedVlans) ↔ VlanKeyword.voice.word? line = some vlan ∨
        ∃ list, acceptedList? line = some list ∧ vlan ∈ NumberList.vlans list := by
  constructor
  · rintro ⟨-, statement, hread, hvlan⟩
    rcases PortStatement.mem_taggedVlans.mp hvlan with htrunk | hvoice
    · exact .inr (PortStatement.mem_trunkVlans_iff.mp ⟨statement, hread, htrunk⟩)
    · obtain rfl := PortStatement.voice?_eq_some_iff.mp hvoice
      exact .inl (PortStatement.ofLine?_voice_iff.mp hread)
  · rintro (hword | hlist)
    · obtain ⟨rest, hrest, -⟩ := Option.bind_eq_some_iff.mp hword
      exact ⟨VlanKeyword.isBody hrest, _, PortStatement.ofLine?_voice_iff.mpr hword,
        PortStatement.mem_taggedVlans.mpr (.inr rfl)⟩
    · obtain ⟨statement, hread, hvlan⟩ := PortStatement.mem_trunkVlans_iff.mpr hlist
      obtain ⟨list, haccepted, -⟩ := hlist
      obtain ⟨hmap, -⟩ := Option.filter_eq_some_iff.mp haccepted
      obtain ⟨rest, hrest, -⟩ := Option.map_eq_some_iff.mp hmap
      exact ⟨VlanKeyword.isBody hrest, statement, hread,
        PortStatement.mem_taggedVlans.mpr (.inl hvlan)⟩

/-- What a line can say about the state of its port. -/
inductive StateWord where
  | shut
  | opened
  | never
  | auto
  /-- A power mode other than `never` and `auto`. -/
  | otherMode
deriving DecidableEq, Repr

def StateWord.ofMode (mode : Text) : StateWord :=
  if occursIn "never".toList (lower mode) then .never
  else if occursIn "auto".toList (lower mode) then .auto
  else .otherMode

def StateWord.ofLine? (line : Text) : Option StateWord :=
  if line = "shutdown".toList then some .shut
  else if line = "no shutdown".toList then some .opened
  else (argument? "power inline".toList line).map .ofMode

def PortStatement.stateWord? : PortStatement → Option StateWord
  | .shut => some .shut
  | .open => some .opened
  | .power false _ => some .never
  | .power true true => some .auto
  | .power true false => some .otherMode
  | _ => none

theorem stateWord?_powerMode (mode : Text) :
    (powerMode mode).stateWord? = some (.ofMode mode) := by
  rw [powerMode, StateWord.ofMode]
  cases occursIn "never".toList (lower mode) with
  | true => rfl
  | false => cases occursIn "auto".toList (lower mode) <;> rfl

/-- The statement of a line tells the state of a port as the line does. -/
theorem stateWord?_ofLine? (line : Text) :
    (PortStatement.ofLine? line).bind (·.stateWord?) = StateWord.ofLine? line := by
  by_cases hshut : line = "shutdown".toList
  · subst hshut
    decide
  by_cases hopened : line = "no shutdown".toList
  · subst hopened
    decide
  rw [StateWord.ofLine?, if_neg hshut, if_neg hopened]
  cases hmode : argument? "power inline".toList line with
  | some mode =>
    have hread : PortStatement.ofLine? line = some (powerMode mode) :=
      PortStatement.ofLine?_of_first hmode fun _ => ⟨_, rfl⟩
    rw [hread]
    exact stateWord?_powerMode mode
  | none =>
    rw [Option.map_none, Option.bind_eq_none_iff]
    intro statement hread
    exact PortStatement.reading (P := fun s => s.stateWord? = none) hread (fun _ _ => rfl)
      (fun _ => rfl) (fun _ _ => rfl) (fun _ _ => rfl) (fun _ _ => rfl) (fun _ _ => rfl)
      (fun _ hpower => by rw [hmode] at hpower; cases hpower) rfl (absurd · hopened)
      (absurd · hshut)

/-- The lines in the blocks of one port. -/
def Block.inside (port : Text) : Block → List Text → List Text
  | _, [] => []
  | block, line :: rest =>
    let others := (block.read line).2.inside port rest
    if block = .port port ∧ isBody line = true then line :: others else others

def linesOf (port text : Text) : List Text := Block.none.inside port (significantLines text)

/-- The last word of the last line of a port that starts with the keyword. -/
def VlanKeyword.last? (keyword : VlanKeyword) (port text : Text) : Option Text :=
  ((linesOf port text).filterMap keyword.word?).getLast?

def acceptedLists (port text : Text) : List Text := (linesOf port text).filterMap acceptedList?

theorem accepts_of_mem_acceptedLists {port text list : Text} (h : list ∈ acceptedLists port text) :
    NumberList.accepts list = true := by
  obtain ⟨line, -, hline⟩ := List.mem_filterMap.mp h
  exact (Option.filter_eq_some_iff.mp hline).2

theorem Block.statementsOf_actions (port : Text) (block : Block) (lines : List Text) :
    statementsOf port (block.actions lines) =
      (block.inside port lines).filterMap PortStatement.ofLine? := by
  induction lines generalizing block with
  | nil => rfl
  | cons line lines ih =>
    have hcons : statementsOf port (block.actions (line :: lines)) =
        statementsOf port (block.read line).1.toList ++
          statementsOf port ((block.read line).2.actions lines) := List.filterMap_append
    rw [hcons, ih, Block.inside]
    by_cases hline : block = .port port ∧ isBody line = true
    · obtain ⟨rfl, hbody⟩ := hline
      rw [if_pos ⟨rfl, hbody⟩, Block.read_body hbody, Block.member, List.filterMap_cons]
      cases PortStatement.ofLine? line with
      | none => rfl
      | some statement => simp [statementsOf]
    · have hnone : statementsOf port (block.read line).1.toList = [] := by
        rw [List.eq_nil_iff_forall_not_mem]
        intro statement hstatement
        have hread := Option.mem_toList.mp (mem_statementsOf.mp hstatement)
        obtain ⟨hblock, hbody, -⟩ := Block.read_eq_inPort.mp hread
        exact hline ⟨hblock, hbody⟩
      rw [if_neg hline, hnone, List.nil_append]

variable {port text : Text} {record : Port}

theorem statementsOf_read (port text : Text) : statementsOf port (actions text) =
    (linesOf port text).filterMap PortStatement.ofLine? :=
  Block.statementsOf_actions port .none _

/-- What the lines of a port say about its state, in order. -/
def stateWords (port text : Text) : List StateWord :=
  (linesOf port text).filterMap StateWord.ofLine?

theorem filterMap_stateWord? (port text : Text) :
    (statementsOf port (actions text)).filterMap (·.stateWord?) = stateWords port text := by
  rw [statementsOf_read, List.filterMap_filterMap, stateWords]
  exact List.filterMap_congr fun line _ => stateWord?_ofLine? line

theorem getLast?_statementsOf {f : PortStatement → Option Text} {keyword : VlanKeyword}
    (h : ∀ line vlan, (∃ statement, PortStatement.ofLine? line = some statement ∧
      f statement = some vlan) ↔ keyword.word? line = some vlan) :
    ((statementsOf port (actions text)).filterMap f).getLast? = keyword.last? port text := by
  rw [statementsOf_read, List.filterMap_filterMap, VlanKeyword.last?]
  refine congrArg List.getLast? (List.filterMap_congr fun line _ => Option.ext fun vlan => ?_)
  rw [Option.bind_eq_some_iff, h]

def PortStatement.native? : PortStatement → Option Text
  | .native vlan => vlan
  | _ => none

section

variable (hget : (read text).ports.get? port = some record)

include hget

theorem accessVlan_eq_last? : record.accessVlan = VlanKeyword.access.last? port text := by
  rw [(port_fields_read hget).1]
  refine getLast?_statementsOf fun line vlan => ?_
  simp only [PortStatement.access?_eq_some_iff, exists_eq_right, PortStatement.ofLine?_access_iff]

theorem voiceVlan_eq_last? : record.voiceVlan = VlanKeyword.voice.last? port text := by
  rw [(port_fields_read hget).2.1]
  refine getLast?_statementsOf fun line vlan => ?_
  simp only [PortStatement.voice?_eq_some_iff, exists_eq_right, PortStatement.ofLine?_voice_iff]

/-- A native statement that is read from a line names a VLAN, so none takes it away again. -/
theorem nativeVlan_eq_last? : record.nativeVlan = VlanKeyword.native.last? port text := by
  have hlast : ((statementsOf port (actions text)).filterMap PortStatement.native?).getLast? =
      VlanKeyword.native.last? port text := by
    refine getLast?_statementsOf fun line vlan => ?_
    constructor
    · rintro ⟨statement, hread, hnative⟩
      cases statement with
      | native named =>
        obtain ⟨hword, -⟩ := PortStatement.ofLine?_native_iff.mp hread
        exact hword.trans hnative
      | _ => cases hnative
    · exact fun hword => ⟨_, PortStatement.ofLine?_native_iff.mpr ⟨hword, rfl⟩, rfl⟩
  rw [← hlast]
  rw [read_eq_replay, get?_ports_replay (ordered_actions text)] at hget
  split at hget
  · cases hget
    have happly : ∀ (r : Port), ∀ s ∈ statementsOf port (actions text),
        (s.apply r).nativeVlan = s.native?.or r.nativeVlan := by
      intro r s hs
      cases s with
      | native named =>
        rw [statementsOf_read] at hs
        obtain ⟨line, -, hread⟩ := List.mem_filterMap.mp hs
        obtain ⟨vlan, rfl⟩ := Option.isSome_iff_exists.mp (PortStatement.ofLine?_native_iff.mp hread).2
        rfl
      | trunk vlans => rw [PortStatement.apply, foldl_addTrunkVlan]; rfl
      | power enabled kept => cases kept <;> rfl
      | _ => rfl
    rw [Replay.foldl_overwrite (f := Port.nativeVlan) happly, Option.or_none]
  · cases hget

theorem mem_trunkVlans_iff_accepted {vlan : Text} : vlan ∈ record.trunkVlans ↔
    ∃ list ∈ acceptedLists port text, vlan ∈ NumberList.vlans list := by
  rw [(port_fields_read hget).2.2]
  simp only [OnTrunk, ← mem_statementsOf, statementsOf_read, acceptedLists, List.mem_filterMap]
  constructor
  · rintro ⟨statement, ⟨line, hline, hread⟩, hvlan⟩
    obtain ⟨list, hlist, hmem⟩ := PortStatement.mem_trunkVlans_iff.mp ⟨statement, hread, hvlan⟩
    exact ⟨list, ⟨line, hline, hlist⟩, hmem⟩
  · rintro ⟨list, ⟨line, hline, hlist⟩, hvlan⟩
    obtain ⟨statement, hread, hmem⟩ := PortStatement.mem_trunkVlans_iff.mpr ⟨list, hlist, hvlan⟩
    exact ⟨statement, ⟨line, hline, hread⟩, hmem⟩

end

end Ios

end SwitchDialects
