import SwitchDialects.Network
import SwitchDialects.NumberList

/-!
# Reading IOS configurations

What a line means depends on the block it stands in, a VLAN or a port, but for headers, which open
and close blocks, and for statements about the device. Keywords are read in exactly their own letter
case.

A text is read line by line. A statement belongs to the block that was opened last; a header
replaces the open block and `!` or `end` closes it. Lines without a meaning change nothing, so every
text is read. A port joins a VLAN only if that has been declared by then.
-/

namespace SwitchDialects.Ios

open Text (argument? occursIn)

/-- The statement about the device that a line makes. -/
def deviceStatement? (line : Text) : Option DeviceStatement :=
  (argument? "hostname".toList line).map .hostname <|>
  (if line = "spanning-tree mode rapid-pvst".toList then
    some (.spanningTree "rapid-pvst".toList) else none) <|>
  ((argument? "snmp-server community".toList line).bind fun rest =>
    match Text.words rest with
    | [] => none
    | name :: options => some (.community (Text.withoutQuotes name) options.head?)) <|>
  (argument? "snmp-server location".toList line).map .location

inductive Interface where
  /-- The routed interface of a VLAN. -/
  | vlan (id : Text)
  /-- A port, by the number its name ends in. -/
  | port (id : Text)
  /-- Neither of these. -/
  | other
deriving DecidableEq, Repr

/-- The port number that a run of digits stands for, leading zeros gone if the value fits. -/
def portId (digits : Text) : Text :=
  match Decimal.readDigits? Decimal.limit32 digits with
  | some number => Decimal.render number
  | none => digits

/-- What a name refers to: `Vlan` and a number to a VLAN, another name to the port it ends in. -/
def Interface.ofName (name : Text) : Interface :=
  if Text.lower (name.take 4) = "vlan".toList then
    if Decimal.isNumber (name.drop 4) then .vlan (name.drop 4) else .other
  else
    match Decimal.trailing? name with
    | some digits => .port (portId digits)
    | none => .other

/-- A line that opens or closes a block. -/
inductive Header where
  /-- A VLAN, by its number. -/
  | vlan (id : Text)
  /-- A statement about VLANs that opens nothing and leaves the open block open. -/
  | vlanGlobal
  /-- An interface. -/
  | interface (name : Interface)
  /-- The end of the open block. -/
  | close
deriving DecidableEq, Repr

/-- The header that a line is. -/
def Header.ofLine? (line : Text) : Option Header :=
  (argument? "vlan".toList line).map (fun id =>
    if id.all Char.isDigit then .vlan id else .vlanGlobal) <|>
  (argument? "interface".toList line).map (fun rest =>
    .interface (.ofName ((Text.words rest).headD rest))) <|>
  (if line = ['!'] ∨ line = "end".toList then some .close else none)

inductive VlanStatement where
  | name (text : Text)
  | address (text : Text)
deriving DecidableEq, Repr

/-- The statement of a line in the block of a VLAN; only its interface has an address. -/
def VlanStatement.ofLine? (routed : Bool) (line : Text) : Option VlanStatement :=
  (argument? "name".toList line).map (fun text => .name (Text.withoutQuotes text)) <|>
  (if routed then (argument? "ip address".toList line).map .address else none)

inductive PortStatement where
  | description (text : Text)
  /-- The mode of the port; an unknown word takes the mode away. -/
  | mode (mode : Option PortMode)
  | access (vlan : Text)
  /-- The VLANs added to the trunk. -/
  | trunk (vlans : List Text)
  | native (vlan : Option Text)
  | voice (vlan : Text)
  /-- Power on or off, and whether the statement is kept for a writer that repeats it. -/
  | power (enabled kept : Bool)
  | trustMarking
  | open
  | shut
deriving DecidableEq, Repr

def lastWord (argument : Text) : Text := (Text.lastWord? argument).getD argument

/-- The VLANs of a trunk list, `add` in front of it or not; a list not accepted has none. -/
def trunkList (argument : Text) : List Text :=
  let list := (("add ".toList.isPrefixOf? argument).map Text.trim).getD argument
  if NumberList.accepts list then NumberList.vlans list else []

/-- The power mode `never` turns power off and any other turns it on; only `never` and `auto` are
kept. -/
def powerMode (argument : Text) : PortStatement :=
  let never := occursIn "never".toList (Text.lower argument)
  .power (!never) (never || occursIn "auto".toList (Text.lower argument))

def trustsMarking (line : Text) : Bool :=
  ["trust cos".toList, "qos trust".toList, "mls qos".toList].any (occursIn · (Text.lower line))

/-- The statement of a line in the block of a port. -/
def PortStatement.ofLine? (line : Text) : Option PortStatement :=
  (argument? "description".toList line).map .description <|>
  (argument? "switchport mode".toList line).map (fun rest =>
    .mode ((Text.lastWord? rest).bind PortMode.ofName?)) <|>
  (argument? "switchport access vlan".toList line).map (fun rest => .access (lastWord rest)) <|>
  (argument? "switchport trunk allowed vlan".toList line).map (fun rest =>
    .trunk (trunkList rest)) <|>
  (argument? "switchport trunk native vlan".toList line).map (fun rest =>
    .native (Text.lastWord? rest)) <|>
  (argument? "switchport voice vlan".toList line).map (fun rest => .voice (lastWord rest)) <|>
  (argument? "power inline".toList line).map powerMode <|>
  (if trustsMarking line then some .trustMarking else none) <|>
  (if line = "no shutdown".toList then some .open else none) <|>
  (if line = "shutdown".toList then some .shut else none)

/-- The block that is open. -/
inductive Block where
  | none
  /-- A VLAN, or its routed interface. -/
  | vlan (id : Text) (routed : Bool)
  | port (id : Text)
deriving DecidableEq, Repr

structure State where
  network : Network
  block : Block
deriving DecidableEq

def State.initial : State := ⟨{ source := .ios }, .none⟩

/-- Open or close a block, and create the record of the new one. -/
def State.openBlock (state : State) : Header → State
  | .vlan id => ⟨state.network.updateVlan id fun vlan => vlan, .vlan id false⟩
  | .vlanGlobal => state
  | .interface (.vlan id) => ⟨state.network.updateVlan id fun vlan => vlan, .vlan id true⟩
  | .interface (.port id) =>
    ⟨{ state.network with ports := state.network.ports.insertNew id { id, shutdown := .off } },
      .port id⟩
  | .interface .other => { state with block := .none }
  | .close => { state with block := .none }

def VlanStatement.apply : VlanStatement → Vlan → Vlan
  | .name text, vlan => { vlan with name := some text }
  | .address text, vlan => { vlan with address := some text }

namespace PortStatement

def apply : PortStatement → Port → Port
  | .description text, port => { port with description := some text }.keep (.description text)
  | .mode declared, port => { port with mode := declared }
  | .access vlan, port => { port with accessVlan := some vlan }
  | .trunk vlans, port => vlans.foldl Port.addTrunkVlan port
  | .native vlan, port => { port with nativeVlan := vlan }
  | .voice vlan, port => { port with voiceVlan := some vlan }
  | .power enabled kept, port =>
    let port := { port with power := .ofBool enabled }
    if kept then port.keep (.power enabled) else port
  | .trustMarking, port => { port with trustsMarking := true }
  | .open, port => { port with shutdown := .off }
  | .shut, port => { port with shutdown := .on, power := .off }.keep .shutdown

/-- The VLANs that a statement makes its port an untagged member of. -/
def untaggedVlans : PortStatement → List Text
  | .access vlan => [vlan]
  | _ => []

def taggedVlans : PortStatement → List Text
  | .trunk vlans => vlans
  | .voice vlan => [vlan]
  | _ => []

end PortStatement

/-- Make a port an untagged member of a VLAN, if that has been declared. -/
def joinUntagged (port : Text) (network : Network) (vlan : Text) : Network :=
  network.modifyVlan vlan (Vlan.addUntagged · port)

def joinTagged (port : Text) (network : Network) (vlan : Text) : Network :=
  network.modifyVlan vlan (Vlan.addTagged · port)

def PortStatement.applyTo (statement : PortStatement) (network : Network) (id : Text) : Network :=
  let network := network.modifyPort id statement.apply
  let network := statement.untaggedVlans.foldl (joinUntagged id) network
  statement.taggedVlans.foldl (joinTagged id) network

/-- The network after a line that is neither a header nor about the device. -/
def State.member (state : State) (line : Text) : Network :=
  match state.block with
  | .none => state.network
  | .vlan id routed =>
    match VlanStatement.ofLine? routed line with
    | some statement => state.network.modifyVlan id statement.apply
    | none => state.network
  | .port id =>
    match PortStatement.ofLine? line with
    | some statement => statement.applyTo state.network id
    | none => state.network

def State.step (state : State) (line : Text) : State :=
  match deviceStatement? line with
  | some statement => { state with network := state.network.declare statement }
  | none =>
    match Header.ofLine? line with
    | some header => state.openBlock header
    | none => { state with network := state.member line }

def run (text : Text) : State := (Text.significantLines text).foldl State.step .initial

/-- The network that a configuration describes. -/
def read (text : Text) : Network := (run text).network

end SwitchDialects.Ios
