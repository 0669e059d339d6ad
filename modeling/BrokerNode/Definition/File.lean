/-
BrokerNode/Definition/File.lean

Definitions in files.

A file gives a definition when it can be read, holds text and the text is a definition.
-/
import BrokerNode.Definition
import BrokerNode.Folder

namespace BrokerNode.Definition

/-- Why a file gives no definition. -/
inductive LoadProblem where
  | unreadable (p : Folder.Problem)
  | malformed (f : Json.LocatedFault)

/-- The words for a problem. -/
def LoadProblem.message : LoadProblem → String
  | .unreadable p => "Cannot read node definition: " ++ p.message
  | .malformed f => "Malformed node definition: " ++ f.message

/-- The definition in a file. -/
def ofFile (content : Folder.FileResult) : Except LoadProblem Definition :=
  match Folder.text content with
  | .error p => .error (.unreadable p)
  | .ok text =>
    match parse text with
    | .error f => .error (.malformed f)
    | .ok d => .ok d

end BrokerNode.Definition
