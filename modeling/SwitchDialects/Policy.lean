import SwitchDialects.Disk
import SwitchDialects.Toml.Document
import SwitchDialects.Network
import SwitchDialects.Text.Number

/-!
# Site profiles and the policy for AOS-CX

A profile holds the conventions of a site that a configuration does not state and a writer has to
know. The default profile is the one in use where no profile is given. A profile file is a TOML
document. Its keys for the conventions of a site have strings for values; a key that is missing
leaves its convention at the default, and other keys are not looked at.

What AOS-CX is told about a port does not follow statement by statement from what was said in
another dialect. A port is a trunk when it lists trunk VLANs, when it is the uplink, or when an IOS
access port carries a voice VLAN beside its data; a trunk allows every VLAN of the port and takes
its native VLAN from the native, the access or the site's VLAN, in this order. A port that is shut
supplies no power.
-/

namespace SwitchDialects

/-- The conventions of a site. -/
structure SiteProfile where
  /-- The VLAN of the phones. -/
  voiceVlan : Text := "901".toList
  /-- The port that becomes a trunk as soon as it carries any VLAN. -/
  uplinkPort : Text := "1".toList
  /-- The native VLAN of a trunk that names neither a native nor an access VLAN. -/
  nativeVlan : Text := "1".toList
  /-- What stands before the number of a port in AOS-CX. -/
  portStem : Text := "1/1/".toList
deriving DecidableEq, Repr

/-- The profile in use where none is given. -/
def SiteProfile.default : SiteProfile := {}

namespace SiteProfile

/-- The string under a key, or a default if there is no such key. -/
def string? (entries : Toml.Entries) (key : String) (default : Text) : Option Text :=
  match entries.lookup key.toList with
  | none => some default
  | some (.string value) => some value
  | some _ => none

def ofDocument? (text : Text) : Option SiteProfile := do
  let entries ← Toml.document? text
  return {
    voiceVlan := ← string? entries "voice_vlan" default.voiceVlan
    uplinkPort := ← string? entries "uplink_port" default.uplinkPort
    nativeVlan := ← string? entries "default_native_vlan" default.nativeVlan
    portStem := ← string? entries "aruba_port_prefix" default.portStem }

inductive LoadError where
  | unreadable (fault : Disk.Fault)
  | malformed
deriving DecidableEq, Repr

def unreadableMessage (file : Text) (fault : Disk.Fault) : Text :=
  "failed to read profile file ".toList ++ file ++ ": ".toList ++ fault.message

def load : Except Disk.Fault Text → Except LoadError SiteProfile
  | .error fault => .error (.unreadable fault)
  | .ok text =>
    match ofDocument? text with
    | some profile => .ok profile
    | none => .error .malformed

end SiteProfile

/-- How a port is told to belong to VLANs. -/
inductive Membership where
  | trunk (native : Text) (allowed : List Text)
  | access (vlan : Text)
  | none
deriving DecidableEq, Repr

namespace Vlan

/-- Whether a VLAN is for phones: it says so, or it is the site's. -/
def isVoice (vlan : Vlan) (profile : SiteProfile) : Bool :=
  vlan.voice || vlan.id == profile.voiceVlan

end Vlan

namespace Port

/-- Whether a port is on the site's voice VLAN and has an access but no native VLAN. -/
def lacksVoiceNative (port : Port) (profile : SiteProfile) : Bool :=
  port.voiceVlan == some profile.voiceVlan && port.nativeVlan.isNone && port.accessVlan.isSome

/-- A port on the site's voice VLAN with no native VLAN takes its access VLAN for one. -/
def withVoiceNative (port : Port) (profile : SiteProfile) : Port :=
  if port.lacksVoiceNative profile then { port with nativeVlan := port.accessVlan } else port

/-- Whether a port is the site's uplink: the same number, or the same text if one is no number. -/
def isUplink (port : Port) (profile : SiteProfile) : Bool :=
  match Decimal.read? Decimal.limit32 port.id,
    Decimal.read? Decimal.limit32 profile.uplinkPort with
  | some number, some uplink => number == uplink
  | _, _ => port.id == profile.uplinkPort

/-- Whether a port is in access mode, declared or by having an access VLAN and no mode. -/
def isAccess (port : Port) : Bool :=
  match port.mode with
  | some mode => mode == .access
  | none => port.accessVlan.isSome

/-- An access port of IOS with a voice VLAN carries two VLANs. -/
def carriesVoice (port : Port) (source : Dialect) : Bool :=
  source == .ios && port.isAccess && port.voiceVlan.isSome

def wantsTrunk (port : Port) (source : Dialect) (profile : SiteProfile) : Bool :=
  !port.trunkVlans.isEmpty || port.carriesVoice source || port.isUplink profile

/-- Every VLAN of a port once, in the order of VLANs. -/
def allowedVlans (port : Port) : List Text :=
  let named := port.trunkVlans ++ port.accessVlan.toList ++ port.voiceVlan.toList
  NumericOrder.sortBy (fun vlan => vlan)
    ((named.filter fun vlan => !vlan.isEmpty).foldl appendNew [])

def trunkNative (port : Port) (profile : SiteProfile) : Text :=
  (port.nativeVlan.or port.accessVlan).getD profile.nativeVlan

/-- The membership of a port. -/
def membership (port : Port) (source : Dialect) (profile : SiteProfile) : Membership :=
  if !port.allowedVlans.isEmpty && port.wantsTrunk source profile then
    .trunk (port.trunkNative profile) port.allowedVlans
  else
    match port.accessVlan with
    | some vlan => .access vlan
    | none => .none

/-- Whether a port supplies power: not if it is shut, and unsaid if nothing was said. -/
def powerOutput (port : Port) : Setting :=
  if port.power = .off || port.shutdown = .on then .off
  else if port.power = .on then .on
  else .unspecified

def powerLine? (port : Port) : Option Text :=
  match port.powerOutput with
  | .unspecified => none
  | .on => some "power-over-ethernet".toList
  | .off => some "no power-over-ethernet".toList

/-- Taking the access VLAN for a native one does not change which VLAN a trunk has as native. -/
theorem trunkNative_withVoiceNative (port : Port) (profile site : SiteProfile) :
    (port.withVoiceNative profile).trunkNative site = port.trunkNative site := by
  by_cases h : port.lacksVoiceNative profile = true
  · have hn : port.nativeVlan = none := by
      simp only [lacksVoiceNative, Bool.and_eq_true, Option.isNone_iff_eq_none] at h
      exact h.1.2
    simp [withVoiceNative, h, trunkNative, hn]
  · simp [withVoiceNative, h]

end Port

/-- The rates that a speed setting may offer, as written in it and as AOS-CX names them. -/
def offeredRates : List (Text × Text) :=
  [("10".toList, "10m".toList), ("100".toList, "100m".toList), ("1000".toList, "1g".toList)]

/-- The speed statement for a setting: the rates it offers, or the fixed setting in lower case. -/
def speedLine (setting : Text) : Text :=
  let setting := Text.lower setting
  if "auto".toList.isPrefixOf setting then
    let rates := offeredRates.filter fun (rate, _) => Text.occursIn rate setting
    "speed auto".toList ++ rates.flatMap fun (_, name) => ' ' :: name
  else "speed ".toList ++ setting

/-- The access level of a community: only the keyword `RO` restricts it. -/
def communityLevel (access : Option Text) : Text :=
  if access = some "RO".toList then "Operator".toList else "Manager".toList

end SwitchDialects
