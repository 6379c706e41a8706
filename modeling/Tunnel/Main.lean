import Tunnel.CommandLine

/-!
# The program

Reads the command line, carries out its command on the file system and, where requests are to be served,
waits for what the connector does next. No network is up, so the relay is never reached. Only this
module touches the world; all it decides, it asks of the others.
-/
namespace Tunnel.Program

def noNetwork : String := "Network is unreachable (os error 101)"

def readFiles (path : String) : IO FileTree := do
  try
    let bytes ← IO.FS.readBinFile path
    let p := FilePath.ofText path
    match FileTree.empty.makeDirectories p.parent with
    | .error _ => return .empty
    | .ok files =>
      match files.write p bytes.toList with
      | .error _ => return .empty
      | .ok files => return files
  catch _ => return .empty

def directoryOf (path : String) : String :=
  String.ofList (path.toList.reverse.dropWhile (· ≠ '/')).reverse

/-- Writes a file and the directory that it is in; says whether that went well. -/
def writeFile (path : String) (bytes : List UInt8) : IO Bool := do
  try
    let directory := directoryOf path
    if !directory.isEmpty then IO.FS.createDirAll directory
    IO.FS.writeBinFile path ⟨bytes.toArray⟩
    return true
  catch _ => return false

/-- Puts the file of a command back; says whether that went well. -/
def writeFiles (path : String) (files : FileTree) : IO Bool :=
  match files.read (.ofText path) with
  | .ok bytes => writeFile path bytes
  | .error _ => return false

def pathOf : CommandLine.Command → String
  | .pair c => c.path
  | .run c => c.path

/-- Waits until a connector has stopped, and says whether it was closed. -/
partial def serve (c : Connector) : IO Bool := do
  match c.channel.phase, c.channel.nextDue with
  | .stopped (.exhausted _), _ => return false
  | .stopped .closed, _ => return true
  | .crashed, _ => return true
  | _, none => return true
  | _, some due =>
    let span := due - c.channel.now
    IO.sleep (UInt32.ofNat (Duration.ofNanos span).millis)
    serve (c.act (.channel (.advance span)))

def run (c : CommandLine.Command) : IO UInt32 := do
  let files ← readFiles (pathOf c)
  match c.execute files (Client.unreachable noNetwork) with
  | (.ended false, _) => return 1
  | (.ended true, files) => return if ← writeFiles (pathOf c) files then 0 else 1
  | (.serving connector, _) =>
    return if ← serve (connector.act (.channel .connect)) then 0 else 1

end Tunnel.Program

def main (args : List String) : IO UInt32 := do
  match Tunnel.CommandLine.read args with
  | .ok c => Tunnel.Program.run c
  | .error notice =>
    IO.print notice.output
    IO.eprint notice.errorOutput
    return notice.status.toUInt32
