import SwitchDialects.Writer
import SwitchDialects.Ios.Reader
import SwitchDialects.ProCurve.Reader

/-!
# Translating configurations

A configuration is read in the dialect it is written in and written in another. Three directions are
supported. No text fails to translate; a summary counts what was found and what was written.
-/

namespace SwitchDialects

/-- The network that a text describes in a dialect; AOS-CX is only written. -/
def Dialect.read? : Dialect → Text → Option Network
  | ios, text => some (Ios.read text)
  | proCurve, text => some (ProCurve.read text)
  | aosCx, _ => none

/-- A supported pair of dialects. -/
inductive Direction where
  | iosToAosCx
  | proCurveToAosCx
  | iosToProCurve
deriving DecidableEq, Repr

namespace Direction

def source : Direction → Dialect
  | iosToAosCx | iosToProCurve => .ios
  | proCurveToAosCx => .proCurve

def target : Direction → Dialect
  | iosToAosCx | proCurveToAosCx => .aosCx
  | iosToProCurve => .proCurve

def all : List Direction := [iosToAosCx, proCurveToAosCx, iosToProCurve]

def between? (source target : Dialect) : Option Direction :=
  all.find? fun d => d.source == source && d.target == target

def name (d : Direction) : Text := d.source.name ++ "->".toList ++ d.target.name

/-- A direction is determined by its dialects. -/
theorem between?_eq_some_iff {source target : Dialect} {d : Direction} :
    between? source target = some d ↔ d.source = source ∧ d.target = target := by
  cases source <;> cases target <;> cases d <;> decide

end Direction

/-- What a translation found and wrote. -/
structure Summary where
  vlans : Nat
  ports : Nat
  /-- Ports with a trunk list. -/
  trunks : Nat
  shutPorts : Nat
  deviceStatements : Nat
  outputLines : Nat
deriving DecidableEq, Repr

namespace Summary

def of (network : Network) (output : Text) : Summary where
  vlans := network.vlans.size
  ports := network.ports.size
  trunks := network.ports.values.countP fun port => !port.trunkVlans.isEmpty
  shutPorts := network.ports.values.countP fun port => port.shutdown == .on
  deviceStatements := network.device.length
  outputLines := Text.lineCount output

def render (s : Summary) : Text :=
  "convert_summary vlans=".toList ++ Decimal.render s.vlans ++
    " interfaces=".toList ++ Decimal.render s.ports ++
    " tagged_ports=".toList ++ Decimal.render s.trunks ++
    " shutdown_ports=".toList ++ Decimal.render s.shutPorts ++
    " device_lines=".toList ++ Decimal.render s.deviceStatements ++
    " output_lines=".toList ++ Decimal.render s.outputLines

/-- Whether nothing was found that a translation is about. -/
def isBare (s : Summary) : Bool := s.vlans == 0 && s.ports == 0

end Summary

structure Translation where
  output : Text
  summary : Summary
deriving DecidableEq

namespace Direction

def read : Direction → Text → Network
  | proCurveToAosCx, text => ProCurve.read text
  | iosToAosCx, text | iosToProCurve, text => Ios.read text

def write : Direction → Network → SiteProfile → Text
  | iosToAosCx, network, profile | proCurveToAosCx, network, profile =>
    AosCx.write network profile
  | iosToProCurve, network, profile => ProCurve.write network profile

/-- Translate a text under a site profile. -/
def translate (d : Direction) (text : Text) (profile : SiteProfile) : Translation :=
  let network := d.read text
  let output := d.write network profile
  ⟨output, .of network output⟩

theorem output_translate (d : Direction) (text : Text) (profile : SiteProfile) :
    (d.translate text profile).output = d.write (d.read text) profile := rfl

end Direction

end SwitchDialects
