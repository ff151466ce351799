import SwitchDialects.Policy

/-!
# Writing configurations

A configuration is written as an outline: statements at the left margin, and the members of a block
moved in by a fixed number of spaces. The lines are joined by line feeds, with none after the last.

In AOS-CX the name and location of the device come first, then the VLANs by number, the spanning
tree, and the ports by number. Before that every port on the voice VLAN without a native VLAN takes
its access VLAN for one; what is written is the network after this.

In ProCurve a warning stands first, then the statements about the device, the VLANs and the ports,
each in the order they were first named. Membership is written from the sets of the VLANs. The block
of a port repeats its kept statements in order, and a port that is shut supplies no power from there
on.
-/

namespace SwitchDialects

inductive Line where
  /-- A statement at the left margin. -/
  | flush (text : Text)
  /-- A member of the block above. -/
  | member (text : Text)
deriving DecidableEq, Repr

/-- The text of a line, given the indentation of members. -/
def Line.render (indent : Nat) : Line → Text
  | flush text => text
  | member text => List.replicate indent ' ' ++ text

namespace Outline

def render (indent : Nat) (lines : List Line) : Text :=
  Text.joinWith ['\n'] (lines.map (Line.render indent))

end Outline

namespace AosCx

def indent : Nat := 4

/-- The network with the native VLANs of its voice ports filled in. -/
def prepare (network : Network) (profile : SiteProfile) : Network :=
  { network with ports := network.ports.mapValues (Port.withVoiceNative · profile) }

def deviceLines (network : Network) : List Line :=
  (network.hostname?.map fun name => .flush ("hostname ".toList ++ name)).toList ++
    (network.location?.map fun text =>
      .flush ("snmp-server system-location ".toList ++ text)).toList

/-- The block of a VLAN. -/
def vlanBlock (profile : SiteProfile) (vlan : Vlan) : List Line :=
  [.flush ("vlan ".toList ++ vlan.id)] ++
    (vlan.name.map fun name => .member ("name ".toList ++ name)).toList ++
    (if vlan.isVoice profile then [.member "voice".toList] else [])

def shutdownLine? : Setting → Option Text
  | .on => some "shutdown".toList
  | .off => some "no shutdown".toList
  | .unspecified => none

def membershipLines : Membership → List Text
  | .trunk nativeVlan allowed =>
    ["vlan trunk native ".toList ++ nativeVlan,
     "vlan trunk allowed ".toList ++ Text.joinWith [','] allowed]
  | .access vlan => ["vlan access ".toList ++ vlan]
  | .none => []

def portLines (source : Dialect) (profile : SiteProfile) (port : Port) : List Text :=
  (shutdownLine? port.shutdown).toList ++
    (if port.trustsMarking then ["qos trust cos".toList] else []) ++
    (port.description.map ("description ".toList ++ ·)).toList ++
    port.powerLine?.toList ++ (port.speed.map speedLine).toList ++
    membershipLines (port.membership source profile)

/-- The block of a port. -/
def portBlock (source : Dialect) (profile : SiteProfile) (port : Port) : List Line :=
  .flush ("interface ".toList ++ profile.portStem ++ port.id) ::
    (portLines source profile port).map .member

/-- The lines for a network as it is. -/
def outline (network : Network) (profile : SiteProfile) : List Line :=
  deviceLines network ++
    (NumericOrder.sortBy Vlan.id network.vlans.values).flatMap (vlanBlock profile) ++
    [.flush "spanning-tree mode rpvst".toList, .flush "spanning-tree".toList] ++
    (NumericOrder.sortBy Port.id network.ports.values).flatMap
      (portBlock network.source profile)

/-- The configuration that describes a network. -/
def write (network : Network) (profile : SiteProfile) : Text :=
  Outline.render indent (outline (prepare network profile) profile)

end AosCx

namespace ProCurve

def indent : Nat := 3

/-- The warning at the head of every configuration. -/
def warning : List Text :=
  ["; !!! WARNING !!!".toList,
   "; ---------------------------- ".toList,
   "; 2960 configs should not be converted to HP 2520/2530 due to supply concerns.".toList,
   "; It's getting harder and harder to recieve these - Brandon".toList,
   "; =========================== ".toList]

def deviceLine? : DeviceStatement → Option Text
  | .hostname name => some ("hostname ".toList ++ name)
  | .spanningTree mode =>
    if mode = "rapid-pvst".toList then some "spanning-tree".toList else none
  | .community name access =>
    some ("snmp-server community ".toList ++ Text.quoted name ++ ' ' :: communityLevel access)
  | .location text =>
    some ("snmp-server location ".toList ++ Text.quoted (Text.withoutQuotes text))

/-- The statement that lists some ports, unless there are none. -/
def portList (keyword : String) (ports : OrderedSet) : List Line :=
  match ports.toList with
  | [] => []
  | members => [.member (keyword.toList ++ ' ' :: Text.joinWith [','] members)]

def vlanBlock (profile : SiteProfile) (vlan : Vlan) : List Line :=
  [.flush ("vlan ".toList ++ vlan.id)] ++
    (vlan.name.map fun name => .member ("name ".toList ++ Text.quoted name)).toList ++
    portList "untagged" vlan.untagged ++ portList "tagged" vlan.tagged ++
    (if vlan.isVoice profile then [.member "voice".toList] else []) ++
    [.member (match vlan.address with
      | some address => "ip address ".toList ++ address
      | none => "no ip address".toList),
     .member "exit".toList]

/-- The lines for a kept statement about a port. -/
def keptLines : KeptStatement → List Line
  | .description text => [.member ("name ".toList ++ Text.quoted (Text.withoutQuotes text))]
  | .power true => [.member "power-over-ethernet".toList]
  | .power false => [.member "no power-over-ethernet".toList]
  | .shutdown => [.member "disable".toList, .member "no power-over-ethernet".toList]

/-- The block of a port. -/
def portBlock (port : Port) : List Line :=
  [.flush ("interface ".toList ++ port.id)] ++ port.kept.flatMap keptLines ++
    [.member "exit".toList]

def outline (network : Network) (profile : SiteProfile) : List Line :=
  warning.map .flush ++ (network.device.filterMap deviceLine?).map .flush ++
    network.vlans.values.flatMap (vlanBlock profile) ++ network.ports.values.flatMap portBlock

/-- The configuration that describes a network. -/
def write (network : Network) (profile : SiteProfile) : Text :=
  Outline.render indent (outline network profile)

end ProCurve

end SwitchDialects
