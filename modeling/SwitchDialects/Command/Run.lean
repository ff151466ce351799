import SwitchDialects.Command.Arguments
import SwitchDialects.Dialect
import SwitchDialects.Disk
import SwitchDialects.Network.Report
import SwitchDialects.Policy
import SwitchDialects.Translation

/-!
# Running commands

A conversion never writes over its source and writes nothing unless everything before has
succeeded: the paths are compared first, then the source is read, its dialect and the direction are
settled, and the profile is loaded. The other commands write no file. A command ends with a code, a
text on the standard output and one on the standard error.
-/

namespace SwitchDialects.Command

open Disk (Access)

/-- Why a command fails. -/
inductive Failure where
  | overwritesSource (output input : Text)
  | unreadable (file : Text)
  | unknownSource
  | unsupported (source target : Dialect)
  | profile (file : Text)
  | unwritable (file : Text)
  | noReader (dialect : Dialect)
deriving DecidableEq, Repr

def Failure.message : Failure → Text
  | overwritesSource output input =>
    "refusing to overwrite source config: output ".toList ++ output ++
      " matches input ".toList ++ input
  | unreadable file => "failed to read ".toList ++ file
  | unknownSource => "could not detect source dialect; pass --from".toList
  | unsupported source target =>
    "unsupported conversion: ".toList ++ source.name ++ " -> ".toList ++ target.name
  | profile file => "failed to load profile ".toList ++ file
  | unwritable file => "failed to write ".toList ++ file
  | noReader dialect => "no reader for ".toList ++ dialect.name ++ " configs".toList

/-- How a command ends. -/
structure Outcome where
  code : Nat
  output : Text := []
  errors : Text := []
deriving DecidableEq, Repr

namespace Outcome

def failure (failure : Failure) (warnings : Text := []) : Outcome where
  code := 1
  errors := warnings ++ "Error: ".toList ++ failure.message ++ ['\n']

/-- A successful outcome that prints a text and ends its line. -/
def line (text : Text) : Outcome := { code := 0, output := text ++ ['\n'] }

end Outcome

/-- The dialect of a source, detected if need be. -/
def SourceChoice.dialect (choice : SourceChoice) (text : Text) : Except Failure Dialect :=
  match choice with
  | ios => .ok .ios
  | proCurve => .ok .proCurve
  | auto =>
    match Dialect.detect? text with
    | some dialect => .ok dialect
    | none => .error .unknownSource

def TargetChoice.dialect : TargetChoice → Dialect
  | aosCx => .aosCx
  | proCurve => .proCurve

def direction (source : SourceChoice) (target : TargetChoice) (text : Text) :
    Except Failure Direction := do
  let dialect ← source.dialect text
  match Direction.between? dialect target.dialect with
  | some direction => .ok direction
  | none => .error (.unsupported dialect target.dialect)

variable {m : Type → Type} [Monad m]

/-- The parts by which a path is compared: of the file it leads to, or else of its absolute form. -/
def identity (disk : Access m) (path : Text) : m (List Text) := do
  match ← disk.canonical? path with
  | some path => return Disk.components path
  | none =>
    if Disk.isAbsolute path then return Disk.components path
    else return Disk.components (← disk.workingDirectory) ++ Disk.components path

/-- Refuse an output that is the input. -/
def guardSource (disk : Access m) (input : Text) : Option Text → ExceptT Failure m Unit
  | none => return
  | some output => do
    let target ← (identity disk output : m _)
    let source ← (identity disk input : m _)
    if target = source then throw (.overwritesSource output input)

def readSource (disk : Access m) (file : Text) : ExceptT Failure m Text := do
  match ← (disk.read file : m _) with
  | .ok text => return text
  | .error _ => throw (.unreadable file)

def loadProfile (disk : Access m) : Option Text → ExceptT Failure m SiteProfile
  | none => return .default
  | some file => do
    match SiteProfile.load (← (disk.read file : m _)) with
    | .ok profile => return profile
    | .error _ => throw (.profile file)

/-- All of a conversion but its output. -/
def translate (disk : Access m) (input : Text) (output : Option Text) (source : SourceChoice)
    (target : TargetChoice) (profile : Option Text) : ExceptT Failure m Translation := do
  guardSource disk input output
  let text ← readSource disk input
  let direction ← (direction source target text : Except _ _)
  return direction.translate text (← loadProfile disk profile)

def warnings (input : Text) (summary : Summary) : Text :=
  if summary.isBare then
    "warning: no VLAN or interface statements found in ".toList ++ input ++ ['\n']
  else []

/-- Translate a file, to another file or to the standard output. -/
def convert (disk : Access m) (input : Text) (output : Option Text) (source : SourceChoice)
    (target : TargetChoice) (profile : Option Text) (summary : Bool) : m Outcome := do
  match ← (translate disk input output source target profile).run with
  | .error failure => return .failure failure
  | .ok translation =>
    let warnings := warnings input translation.summary
    let counts := translation.summary.render ++ ['\n']
    match output with
    | none =>
      return { code := 0, output := translation.output ++ ['\n']
               errors := warnings ++ if summary then counts else [] }
    | some path =>
      match ← disk.write path (Text.terminated translation.output) with
      | .error _ => return .failure (.unwritable path) warnings
      | .ok () =>
        return { code := 0, output := "wrote ".toList ++ path ++ '\n' :: counts
                 errors := warnings }

def inspect (disk : Access m) (file : Text) (source : SourceChoice) (format : Format) :
    m Outcome := do
  let result : Except Failure Network ← ExceptT.run do
    let text ← readSource disk file
    let dialect ← (source.dialect text : Except _ _)
    match dialect.read? text with
    | some network => return network
    | none => throw (.noReader dialect)
  match result, format with
  | .error failure, _ => return .failure failure
  | .ok network, .text => return .line network.overview
  | .ok network, .json => return .line network.toJson.render

def detect (disk : Access m) (file : Text) : m Outcome := do
  match ← (readSource disk file).run with
  | .error failure => return .failure failure
  | .ok text =>
    let name := ((Dialect.detect? text).map Dialect.name).getD "unknown".toList
    return .line ("dialect=".toList ++ name)

def Request.run (disk : Access m) : Request → m Outcome
  | .convert input output source target profile summary =>
    Command.convert disk input output source target profile summary
  | .inspect file source format => Command.inspect disk file source format
  | .detect file => Command.detect disk file

def usage : Text :=
  ("usage: switch-dialects convert FILE --to aruba6100|hp [--from auto|cisco|hp]\n" ++
   "         [-o FILE] [--profile FILE] [--summary]\n" ++
   "       switch-dialects inspect FILE [--from auto|cisco|hp] [--format text|json]\n" ++
   "       switch-dialects detect FILE\n").toList

/-- Run the program on its arguments. -/
def run (disk : Access m) (arguments : List Text) : m Outcome :=
  match request arguments with
  | .ok request => request.run disk
  | .error .help => return { code := 0, output := usage }
  | .error .usage => return { code := 2, errors := usage }

end SwitchDialects.Command
