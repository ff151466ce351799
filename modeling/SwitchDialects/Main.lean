import SwitchDialects.Command.Run

/-!
# The program

The operations on files are those of the system, and the outcome of a command is printed and
returned. Everything else is decided by `Command.run`.
-/

namespace SwitchDialects

/-- The fault that an error of the system stands for. -/
def faultOf : IO.Error → Disk.Fault
  | .noFileOrDirectory .. => .missing
  | error => .other (toString error).toList

def systemFiles : Disk.Access IO where
  read path := do
    try
      return Disk.decode (← IO.FS.readBinFile (String.ofList path))
    catch error => return .error (faultOf error)
  write path text := do
    try
      IO.FS.writeBinFile (String.ofList path) (Disk.encode text)
      return .ok ()
    catch error => return .error (faultOf error)
  canonical? path := do
    try
      return some (← IO.FS.realPath (String.ofList path)).toString.toList
    catch _ => return none
  workingDirectory := do return (← IO.currentDir).toString.toList

end SwitchDialects

open SwitchDialects in
def main (arguments : List String) : IO UInt32 := do
  let outcome ← Command.run systemFiles (arguments.map String.toList)
  (← IO.getStdout).putStr (String.ofList outcome.output)
  (← IO.getStderr).putStr (String.ofList outcome.errors)
  return outcome.code.toUInt32
