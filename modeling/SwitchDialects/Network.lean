import SwitchDialects.Dialect
import SwitchDialects.OrderedMap

/-!
# Networks

What a configuration says, apart from the dialect it says it in. VLAN membership is held twice: each
VLAN has the sets of its untagged and tagged ports, and each port has its access, voice, trunk and
native VLANs. One writer works from the first view and the other from the second; the readers fill
both. Records are created by the first statement that names them.

There are several ways in which the two views can agree. A set is current when the ports in it still
name the VLAN, and complete when it holds every port that does.
-/

namespace SwitchDialects

/-- A setting that may be left open. -/
inductive Setting where
  | unspecified
  | on
  | off
deriving DecidableEq, Repr, Inhabited

def Setting.ofBool : Bool → Setting
  | true => on
  | false => off

inductive PortMode where
  | access
  | trunk
deriving DecidableEq, Repr

namespace PortMode

def name : PortMode → Text
  | access => "access".toList
  | trunk => "trunk".toList

/-- The mode with this name; every other word declares none. -/
def ofName? (word : Text) : Option PortMode :=
  if word = access.name then some access
  else if word = trunk.name then some trunk
  else none

end PortMode

/-- A statement about a port that is kept, in order, for a writer that repeats it. -/
inductive KeptStatement where
  | description (text : Text)
  | power (enabled : Bool)
  | shutdown
deriving DecidableEq, Repr

inductive DeviceStatement where
  | hostname (name : Text)
  | community (name : Text) (access : Option Text)
  | location (text : Text)
  | spanningTree (mode : Text)
deriving DecidableEq, Repr

/-- A VLAN with the ports that belong to it. -/
structure Vlan where
  id : Text
  name : Option Text := none
  address : Option Text := none
  voice : Bool := false
  untagged : OrderedSet := .empty
  tagged : OrderedSet := .empty
deriving DecidableEq

namespace Vlan

def addUntagged (vlan : Vlan) (port : Text) : Vlan :=
  { vlan with untagged := vlan.untagged.insert port }

def addTagged (vlan : Vlan) (port : Text) : Vlan :=
  { vlan with tagged := vlan.tagged.insert port }

end Vlan

/-- A port with the VLANs it belongs to. -/
structure Port where
  id : Text
  description : Option Text := none
  mode : Option PortMode := none
  accessVlan : Option Text := none
  voiceVlan : Option Text := none
  trunkVlans : List Text := []
  nativeVlan : Option Text := none
  power : Setting := .unspecified
  trustsMarking : Bool := false
  shutdown : Setting := .unspecified
  speed : Option Text := none
  kept : List KeptStatement := []
deriving DecidableEq

namespace Port

/-- Add a VLAN to the trunk, once. -/
def addTrunkVlan (port : Port) (vlan : Text) : Port :=
  { port with trunkVlans := appendNew port.trunkVlans vlan }

/-- Keep a statement, after those kept so far. -/
def keep (port : Port) (statement : KeptStatement) : Port :=
  { port with kept := port.kept ++ [statement] }

end Port

/-- What one configuration says. -/
structure Network where
  source : Dialect
  vlans : OrderedMap Vlan := .empty
  ports : OrderedMap Port := .empty
  device : List DeviceStatement := []
deriving DecidableEq

namespace Network

/-- Change a VLAN, creating it first if it is new. -/
def updateVlan (network : Network) (id : Text) (change : Vlan → Vlan) : Network :=
  { network with vlans := network.vlans.upsert id { id } change }

def updatePort (network : Network) (id : Text) (change : Port → Port) : Network :=
  { network with ports := network.ports.upsert id { id } change }

/-- Change a VLAN that has been declared. -/
def modifyVlan (network : Network) (id : Text) (change : Vlan → Vlan) : Network :=
  { network with vlans := network.vlans.modify id change }

/-- Change a port that has been declared. -/
def modifyPort (network : Network) (id : Text) (change : Port → Port) : Network :=
  { network with ports := network.ports.modify id change }

def declare (network : Network) (statement : DeviceStatement) : Network :=
  { network with device := network.device ++ [statement] }

/-- The name that the last statement gave the device. -/
def hostname? (network : Network) : Option Text :=
  network.device.reverse.findSome? fun
    | .hostname name => some name
    | _ => none

/-- The location that the first statement gave. -/
def location? (network : Network) : Option Text :=
  network.device.findSome? fun
    | .location text => some text
    | _ => none

variable (network : Network)

def HasUntagged (port key : Text) : Prop :=
  ∃ vlan, network.vlans.get? key = some vlan ∧ port ∈ vlan.untagged

def HasTagged (port key : Text) : Prop :=
  ∃ vlan, network.vlans.get? key = some vlan ∧ port ∈ vlan.tagged

/-- A port in the untagged set of a VLAN has it for its access VLAN. -/
def UntaggedCurrent : Prop :=
  ∀ key vlan port, network.vlans.get? key = some vlan → port ∈ vlan.untagged →
    ∃ record, network.ports.get? port = some record ∧ record.accessVlan = some key

/-- A port in the tagged set of a VLAN has it on its trunk or for its voice VLAN. -/
def TaggedCurrent : Prop :=
  ∀ key vlan port, network.vlans.get? key = some vlan → port ∈ vlan.tagged →
    ∃ record, network.ports.get? port = some record ∧
      (key ∈ record.trunkVlans ∨ record.voiceVlan = some key)

/-- No port is in the untagged sets of two VLANs. -/
def UntaggedOnce : Prop :=
  ∀ key vlan other vlan' port, network.vlans.get? key = some vlan →
    network.vlans.get? other = some vlan' → port ∈ vlan.untagged → port ∈ vlan'.untagged →
    key = other

/-- The access VLAN of a port has it in its untagged set, if it is a VLAN of the network. -/
def UntaggedComplete : Prop :=
  ∀ key vlan port record, network.vlans.get? key = some vlan →
    network.ports.get? port = some record → record.accessVlan = some key → port ∈ vlan.untagged

/-- The trunk VLANs and the voice VLAN of a port have it in their tagged sets, so far as they are
VLANs of the network. -/
def TaggedComplete : Prop :=
  ∀ key vlan port record, network.vlans.get? key = some vlan →
    network.ports.get? port = some record →
    key ∈ record.trunkVlans ∨ record.voiceVlan = some key → port ∈ vlan.tagged

/-- Every record bears the identifier that it is found under. -/
structure Keyed : Prop where
  vlans : ∀ key vlan, network.vlans.get? key = some vlan → vlan.id = key
  ports : ∀ key port, network.ports.get? key = some port → port.id = key

theorem UntaggedCurrent.once {network : Network} (h : network.UntaggedCurrent) :
    network.UntaggedOnce := by
  intro key vlan other vlan' port hkey hother hport hport'
  obtain ⟨record, hrecord, haccess⟩ := h key vlan port hkey hport
  obtain ⟨record', hrecord', haccess'⟩ := h other vlan' port hother hport'
  have hsame : record = record' := Option.some.inj (hrecord.symm.trans hrecord')
  subst hsame
  exact Option.some.inj (haccess.symm.trans haccess')

end Network

end SwitchDialects
