/-
BrokerNode/Main.lean

The command line program.

It runs the service in the environment and the working folder of its process, prints the log lines
above the level of details and ends with the exit code of the run.  It has no sockets of its own, so
no way leads to a broker.
-/
import BrokerNode.Service

namespace BrokerNode.Main

/-- The environment of the process. -/
def environment : IO Environment := do
  let bytes ←
    try IO.FS.readBinFile "/proc/self/environ"
    catch _ => pure ⟨#[]⟩
  return ⟨(bytes.data.toList.splitOn 0).filter (!·.isEmpty)⟩

/-- The problem behind a failure to read a file. -/
def problemOf : IO.Error → Folder.Problem
  | .noFileOrDirectory .. => .notFound
  | .inappropriateType _ 21 _ => .isFolder
  | .inappropriateType .. => .notFolder
  | .invalidArgument _ 22 _ => .nullInName
  | .invalidArgument .. => .nameTooLong
  | .permissionDenied .. => .other "Permission denied" 13
  | _ => .other "Input/output error" 5

/-- The content of a file. -/
def readFile (path : String) : IO Folder.FileResult := do
  try return .ok (← IO.FS.readBinFile path)
  catch e => return .error (problemOf e)

/-- The nearest environment file, from a path to a folder upward; `height` bounds the way. -/
def environmentFile (path : String) : Nat → IO (Option ByteArray)
  | 0 => return none
  | height + 1 => do
    match ← readFile (path ++ ".env") with
    | .ok content => return some content
    | .error .notFound | .error .isFolder => environmentFile (path ++ "../") height
    | .error _ => return none

/-- Random bits. -/
def randomBits : IO UInt64 := do
  return (← IO.getRandomBytes 8).toUInt64LE!

/-- Runs the service. -/
def run : IO UInt32 := do
  let env ← environment
  let height := (toString (← IO.currentDir)).length
  let dotenv ← environmentFile "" height
  let file ←
    match Settings.ofEnvironment env dotenv with
    | .ok (.ok s) => readFile s.definitionPath
    | _ => pure (.error .notFound)
  let r := Service.run env dotenv (fun _ => file) {
    nodeId := .random (← randomBits) (← randomBits)
    clientId := .random (← randomBits) (← randomBits)
    network := .failing .unreachable
    delivery := Mqtt.Turn.alternating 1
    leave := Mqtt.Turn.alternating 1 }
  for line in r.log.ordinary do
    IO.println line.printed
  if let .brokenOff f := r.ending then IO.eprintln f.message
  return r.exitCode.toUInt32

end BrokerNode.Main

/-- The program. -/
def main : IO UInt32 := BrokerNode.Main.run
