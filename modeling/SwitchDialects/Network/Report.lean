import SwitchDialects.Network
import SwitchDialects.Text.Number

/-!
# Reports of a network

A network is printed as a JSON document or as an overview.

In the document every record is an object with its fields in a fixed order, and the two maps are
objects with the identifiers for keys. It is printed with two spaces for each level, one entry a
line, a space after each colon, and empty arrays and objects closed at once. In a string the quote,
the backslash and the characters below the space are escaped, and nothing else is.

The overview has one line for the whole, then one for each statement about the device, each VLAN and
each port, in the order they were first named. A hyphen stands for what is not set and for an empty
list.
-/

namespace SwitchDialects

/-- A JSON value without numbers; the keys of an object stay in order. -/
inductive Json where
  | null
  | bool (value : Bool)
  | string (value : Text)
  | array (items : List Json)
  | object (fields : List (Text × Json))

namespace Json

def ofOption : Option Text → Json
  | none => null
  | some t => string t

def ofTexts (texts : List Text) : Json := array (texts.map string)

/-- A character as it stands in a string. -/
def escape (c : Char) : Text :=
  if c = '"' then ['\\', '"']
  else if c = '\\' then ['\\', '\\']
  else if c = '\n' then ['\\', 'n']
  else if c = '\r' then ['\\', 'r']
  else if c = '\t' then ['\\', 't']
  else if c = '\x08' then ['\\', 'b']
  else if c = '\x0C' then ['\\', 'f']
  else if c.toNat < 0x20 then
    ['\\', 'u', '0', '0', Nat.digitChar (c.toNat / 16), Nat.digitChar (c.toNat % 16)]
  else [c]

def quote (t : Text) : Text := '"' :: t.flatMap escape ++ ['"']

def newline (level : Nat) : Text := '\n' :: List.replicate (2 * level) ' '

mutual

/-- The printed form of a value whose first line stands at a level. -/
def print (level : Nat) : Json → Text
  | null => "null".toList
  | bool true => "true".toList
  | bool false => "false".toList
  | string t => quote t
  | array [] => "[]".toList
  | array (item :: items) =>
    '[' :: newline (level + 1) ++ print (level + 1) item ++ printItems (level + 1) items ++
      newline level ++ [']']
  | object [] => "\x7b\x7d".toList
  | object ((key, value) :: fields) =>
    '\x7b' :: newline (level + 1) ++ quote key ++ ": ".toList ++ print (level + 1) value ++
      printFields (level + 1) fields ++ newline level ++ ['\x7d']

def printItems (level : Nat) : List Json → Text
  | [] => []
  | item :: items => ',' :: newline level ++ print level item ++ printItems level items

def printFields (level : Nat) : List (Text × Json) → Text
  | [] => []
  | (key, value) :: fields =>
    ',' :: newline level ++ quote key ++ ": ".toList ++ print level value ++
      printFields level fields

end

def render (value : Json) : Text := print 0 value

end Json

def Json.record (fields : List (String × Json)) : Json :=
  .object (fields.map fun (key, value) => (key.toList, value))

def Setting.toJson : Setting → Json
  | unspecified => .string "unspecified".toList
  | on => .string "on".toList
  | off => .string "off".toList

def KeptStatement.toJson : KeptStatement → Json
  | description text => .record [("kind", .string "description".toList), ("value", .string text)]
  | power enabled => .record [("kind", .string "poe".toList), ("value", .bool enabled)]
  | shutdown => .record [("kind", .string "shutdown".toList)]

def DeviceStatement.toJson : DeviceStatement → Json
  | hostname name => .record [("kind", .string "hostname".toList), ("name", .string name)]
  | community name access =>
    .record [("kind", .string "snmp_community".toList), ("community", .string name),
      ("access", .ofOption access)]
  | location text =>
    .record [("kind", .string "snmp_location".toList), ("location", .string text)]
  | spanningTree mode =>
    .record [("kind", .string "spanning_tree".toList), ("mode", .string mode)]

def Vlan.toJson (vlan : Vlan) : Json :=
  .record [("id", .string vlan.id), ("name", .ofOption vlan.name),
    ("ip_address", .ofOption vlan.address), ("voice", .bool vlan.voice),
    ("untagged_ports", .ofTexts vlan.untagged.toList),
    ("tagged_ports", .ofTexts vlan.tagged.toList)]

def Port.toJson (port : Port) : Json :=
  .record [("id", .string port.id), ("description", .ofOption port.description),
    ("mode", .ofOption (port.mode.map PortMode.name)),
    ("access_vlan", .ofOption port.accessVlan), ("voice_vlan", .ofOption port.voiceVlan),
    ("trunk_vlans", .ofTexts port.trunkVlans), ("native_vlan", .ofOption port.nativeVlan),
    ("poe", port.power.toJson), ("qos_trust_cos", .bool port.trustsMarking),
    ("shutdown", port.shutdown.toJson), ("speed", .ofOption port.speed),
    ("directives", .array (port.kept.map KeptStatement.toJson))]

/-- A network with its maps as objects in order of insertion. -/
def Network.toJson (network : Network) : Json :=
  .record [("source", .string network.source.name),
    ("vlans", .object (network.vlans.entries.map fun (id, vlan) => (id, vlan.toJson))),
    ("interfaces", .object (network.ports.entries.map fun (id, port) => (id, port.toJson))),
    ("device", .array (network.device.map DeviceStatement.toJson))]

namespace Overview

def orHyphen (value : Option Text) : Text := value.getD "-".toList

/-- Members with commas between them, or a hyphen when that is empty. -/
def list (members : List Text) : Text :=
  match Text.joinWith [','] members with
  | [] => "-".toList
  | joined => joined

def flag (value : Bool) : Text := if value then "true".toList else "false".toList

def setting : Setting → Text
  | .unspecified => "-".toList
  | .on => "on".toList
  | .off => "off".toList

def field (label : String) (value : Text) : Text := ' ' :: label.toList ++ '=' :: value

def deviceStatement : DeviceStatement → Text
  | .hostname name => "hostname".toList ++ field "name" name
  | .community name access =>
    "snmp_community".toList ++ field "community" name ++ field "access" (orHyphen access)
  | .location text => "snmp_location".toList ++ field "location" text
  | .spanningTree mode => "spanning_tree".toList ++ field "mode" mode

def vlan (v : Vlan) : Text :=
  "vlan ".toList ++ v.id ++ field "name" (orHyphen v.name) ++ field "ip" (orHyphen v.address) ++
    field "voice" (flag v.voice) ++ field "untagged" (list v.untagged.toList) ++
    field "tagged" (list v.tagged.toList)

def port (p : Port) : Text :=
  "interface ".toList ++ p.id ++ field "mode" (orHyphen (p.mode.map PortMode.name)) ++
    field "access" (orHyphen p.accessVlan) ++ field "voice" (orHyphen p.voiceVlan) ++
    field "trunk" (list p.trunkVlans) ++ field "native" (orHyphen p.nativeVlan) ++
    field "poe" (setting p.power) ++ field "shutdown" (setting p.shutdown) ++
    field "qos" (flag p.trustsMarking) ++ field "speed" (orHyphen p.speed) ++
    field "description" (orHyphen p.description)

end Overview

open Overview in
/-- The overview of a network, a line for each record. -/
def Network.overview (network : Network) : Text :=
  Text.joinWith ['\n'] <|
    [("source=".toList ++ network.source.name ++
        field "vlans" (Decimal.render network.vlans.size) ++
        field "interfaces" (Decimal.render network.ports.size) ++
        field "device_lines" (Decimal.render network.device.length))] ++
      (network.device.map fun s => "device ".toList ++ deviceStatement s) ++
      network.vlans.values.map vlan ++ network.ports.values.map port

end SwitchDialects
