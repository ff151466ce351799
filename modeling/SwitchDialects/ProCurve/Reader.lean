import SwitchDialects.Network
import SwitchDialects.NumberList
import SwitchDialects.Text.CharacterClass

/-!
# Reading ProCurve configurations

Keywords are read in any letter case, but for the location of the device and the lines that end a
block of a port. Numbers of VLANs and ports may be written with the digits of any script, and are
kept as written.

A text is read line by line. Membership is stated in the block of a VLAN, by lists of ports, and a
port is created by the first list or header that names it. In the block of a VLAN only its own
statements, `exit` and the header of another VLAN mean anything. The first `untagged` statement that
lists a port gives its native VLAN and the last one its access VLAN.
-/

namespace SwitchDialects.ProCurve

open Text (argument? afterKeyword? afterBlank? foldedArgument? foldedRun? sameIgnoringCase)

/-- Whether a word that ends before this text is complete. -/
def atBoundary : Text → Bool
  | [] => true
  | c :: _ => !isWordCharacter c

/-- Whether a line starts with a keyword, as a whole word. -/
def startsWithWord (keyword line : Text) : Bool := (afterKeyword? keyword line).any atBoundary

/-- The location of the device, which may be stated in any block. -/
def location? (line : Text) : Option Text := argument? "snmp-server location".toList line

/-- The number in the header of a VLAN. -/
def vlanHeader? (line : Text) : Option Text := foldedRun? "vlan".toList isDecimalDigit line

/-- The number in the header of a port; it must be a whole word. -/
def portHeader? (line : Text) : Option Text :=
  (afterBlank? "interface".toList line).bind fun rest =>
    let number := rest.takeWhile isDecimalDigit
    if !number.isEmpty && atBoundary (rest.dropWhile isDecimalDigit) then some number else none

def hostname? (line : Text) : Option Text :=
  (foldedArgument? "hostname".toList line).map Text.unquote

def endsVlan (line : Text) : Bool := sameIgnoringCase line "exit".toList

/-- Whether a line ends the block of a port. -/
def endsPort (line : Text) : Bool := ["exit".toList, ['!'], "end".toList].contains line

inductive VlanStatement where
  | tagged (ports : List Text)
  | untagged (ports : List Text)
  | name (text : Text)
  | address (text : Text)
  | voice
deriving DecidableEq, Repr

/-- The statement of a line in the block of a VLAN. -/
def VlanStatement.ofLine? (line : Text) : Option VlanStatement :=
  (foldedArgument? "tagged".toList line).map (fun list => .tagged (NumberList.ports list)) <|>
  (foldedArgument? "untagged".toList line).map (fun list => .untagged (NumberList.ports list)) <|>
  (foldedArgument? "name".toList line).map (fun text => .name (Text.unquote text)) <|>
  (foldedArgument? "ip address".toList line).map .address <|>
  (if startsWithWord "voice".toList line then some .voice else none)

inductive PortStatement where
  | description (text : Text)
  | power (enabled : Bool)
  | disable
  | enable
  | trustMarking
  | speed (setting : Text)
  | voice (vlan : Text)
deriving DecidableEq, Repr

/-- The statement of a line in the block of a port. -/
def PortStatement.ofLine? (line : Text) : Option PortStatement :=
  ((foldedArgument? "name".toList line <|> foldedArgument? "description".toList line).map
    fun text => .description (Text.unquote text)) <|>
  (if startsWithWord "no power-over-ethernet".toList line then some (.power false) else none) <|>
  (if startsWithWord "power-over-ethernet".toList line then some (.power true) else none) <|>
  (if sameIgnoringCase line "disable".toList then some .disable else none) <|>
  (if sameIgnoringCase line "enable".toList then some .enable else none) <|>
  (if Text.occursIn "trust cos".toList (Text.lower line) then some .trustMarking else none) <|>
  (foldedRun? "speed-duplex".toList (fun c => !isBlank c) line).map .speed <|>
  (foldedRun? "voice vlan".toList isDecimalDigit line).map .voice

inductive Block where
  | none
  | vlan (id : Text)
  | port (id : Text)
deriving DecidableEq, Repr

structure State where
  network : Network
  block : Block
deriving DecidableEq

def State.initial : State := ⟨{ source := .proCurve }, .none⟩

def joinTagged (vlan : Text) (network : Network) (port : Text) : Network :=
  (network.updatePort port (Port.addTrunkVlan · vlan)).updateVlan vlan (Vlan.addTagged · port)

def joinUntagged (vlan : Text) (network : Network) (port : Text) : Network :=
  (network.updatePort port fun p =>
    { p with accessVlan := some vlan, nativeVlan := p.nativeVlan.or (some vlan) }).updateVlan vlan
      (Vlan.addUntagged · port)

def VlanStatement.apply (network : Network) (vlan : Text) : VlanStatement → Network
  | .tagged ports => ports.foldl (joinTagged vlan) network
  | .untagged ports => ports.foldl (joinUntagged vlan) network
  | .name text => network.updateVlan vlan fun v => { v with name := some text }
  | .address text => network.updateVlan vlan fun v => { v with address := some text }
  | .voice => network.updateVlan vlan fun v => { v with voice := true }

def PortStatement.apply : PortStatement → Port → Port
  | .description text, port => { port with description := some text }.keep (.description text)
  | .power enabled, port => { port with power := .ofBool enabled }.keep (.power enabled)
  | .disable, port => { port with shutdown := .on }.keep .shutdown
  | .enable, port => { port with shutdown := .off }
  | .trustMarking, port => { port with trustsMarking := true }
  | .speed setting, port => { port with speed := some setting }
  | .voice vlan, port => { port with voiceVlan := some vlan }

/-- Read a line in the block of a VLAN that is no header of a VLAN. -/
def State.vlanLine (state : State) (id line : Text) : State :=
  if endsVlan line then { state with block := .none }
  else
    match VlanStatement.ofLine? line with
    | some statement => { state with network := statement.apply state.network id }
    | none => state

/-- Read a line outside the blocks of VLANs that is no header. -/
def State.portLine (state : State) (line : Text) : State :=
  match hostname? line with
  | some name => { state with network := state.network.declare (.hostname name) }
  | none =>
    if endsPort line then { state with block := .none }
    else
      match state.block, PortStatement.ofLine? line with
      | .port id, some statement =>
        { state with network := state.network.updatePort id statement.apply }
      | _, _ => state

def State.step (state : State) (line : Text) : State :=
  match location? line with
  | some text => { state with network := state.network.declare (.location text) }
  | none =>
    match vlanHeader? line with
    | some id => ⟨state.network.updateVlan id fun vlan => vlan, .vlan id⟩
    | none =>
      match state.block with
      | .vlan id => state.vlanLine id line
      | _ =>
        match portHeader? line with
        | some id => ⟨state.network.updatePort id fun port => port, .port id⟩
        | none => state.portLine line

def run (text : Text) : State := (Text.significantLines text).foldl State.step .initial

/-- The network that a configuration describes. -/
def read (text : Text) : Network := (run text).network

end SwitchDialects.ProCurve
