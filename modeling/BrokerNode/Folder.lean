/-
BrokerNode/Folder.lean

Files, as far as the program sees them.

A folder holds files and folders by name.  A program runs in a working folder, which lies in others,
up to the root of the file system.  What there is at a path is the content of a file, or a problem.
-/

namespace BrokerNode

/-- A file or a folder. -/
inductive Folder.Entry where
  | file (content : ByteArray)
  | folder (entries : List (String × Folder.Entry))

/-- What a folder holds, by name. -/
abbrev Folder := List (String × Folder.Entry)

namespace Folder

/-- Why a file cannot be read. -/
inductive Problem where
  | notFound
  | isFolder
  | notFolder
  | nameTooLong
  | nullInName
  | notText
  | other (text : String) (code : Nat)
deriving DecidableEq, Repr

/-- The words for a problem. -/
def Problem.message : Problem → String
  | .notFound => "No such file or directory (os error 2)"
  | .isFolder => "Is a directory (os error 21)"
  | .notFolder => "Not a directory (os error 20)"
  | .nameTooLong => "File name too long (os error 36)"
  | .nullInName => "file name contained an unexpected NUL byte"
  | .notText => "stream did not contain valid UTF-8"
  | .other text code => text ++ " (os error " ++ toString code ++ ")"

/-- The content of a file, or why it cannot be read. -/
abbrev FileResult := Except Problem ByteArray

/-- The content of the file of the given name in the innermost folder that holds one.  Folders of that
name are passed over. -/
def nearest? (name : String) : List Folder → Option ByteArray
  | [] => none
  | folder :: outer =>
    match folder.lookup name with
    | some (.file content) => some content
    | _ => nearest? name outer

/-- The text of a file. -/
def text (content : FileResult) : Except Problem String :=
  match content with
  | .ok bytes =>
    match String.fromUTF8? bytes with
    | some s => .ok s
    | none => .error .notText
  | .error e => .error e

end Folder

end BrokerNode
