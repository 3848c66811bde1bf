import Playground.Cli.Run

/-!
The command line. The files that a command touches are read before it runs, and those that it
changed are written after it. Requests to a share service fail, since no network is reached from
here.
-/

namespace Playground

open Exchange

def defaultDirectory? : IO (Option String) := do
  let data ← IO.getEnv "XDG_DATA_HOME"
  let home ← IO.getEnv "HOME"
  return (data.or (home.map (· ++ "/.local/share"))).map (· ++ "/sandbox-cli")

def readFile? (path : String) : IO (Option ByteArray) := do
  try return some (← IO.FS.readBinFile path) catch _ => return none

def readDisk (paths : List String) : IO Disk :=
  paths.foldlM (fun d path => do
    match ← readFile? path with
    | some bytes => return (d.placeBytes path bytes.toList).toOption.getD d
    | none => return d) Disk.empty

def writeChanged (before after : Disk) (path : String) : IO Unit := do
  match (before.readBytes path).toOption, (after.readBytes path).toOption with
  | old, some bytes =>
    if old ≠ some bytes then
      if let parent :: _ := Disk.above path then IO.FS.createDirAll parent
      IO.FS.writeBinFile path ⟨bytes.toArray⟩
      IO.setAccessRights path { user := { read := true, write := true } }
  | _, none => return

def closeDirectory (path : String) : IO Unit := do
  try IO.setAccessRights path { user := { read := true, write := true, execution := true } }
  catch _ => return

def runCommand (args : List String) (paths : List String) (input : String) : IO UInt32 := do
  let disk ← readDisk paths
  let (code, world) := Cli.execute unreachable (← defaultDirectory?) args ⟨disk, input, "", ""⟩
  for path in paths do
    writeChanged disk world.disk path
  (← IO.getStdout).putStr world.out
  (← IO.getStderr).putStr world.err
  return UInt32.ofNat code

def usageHint : String := "For more information, try \x27--help\x27.\n"

end Playground

open Playground

def main (args : List String) : IO UInt32 := do
  match Cli.Invocation.read args with
  | .ok i =>
    let directory := i.dataDirectory.or (← defaultDirectory?)
    let input ← if Cli.takesInput i.command then (← IO.getStdin).readToEnd else pure ""
    let code ← runCommand args ((directory.map (Cli.touched i)).getD []) input
    if let some path := directory then closeDirectory path
    return code
  | .error .usage =>
    (← IO.getStderr).putStr usageHint
    return 2
  | .error _ => runCommand args [] ""
