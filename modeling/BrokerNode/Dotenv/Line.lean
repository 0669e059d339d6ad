/-
BrokerNode/Dotenv/Line.lean

The logical lines of an environment file.

A file is read line by line.  Quotes and backslashes may carry a logical line over several lines of
the file: a line counts as finished only outside quotes, not behind a backslash and not behind blanks
that the file ends in.  A hash sign behind a blank, outside quotes, starts a comment that goes to the
end of the line.  A logical line whose text so far starts with a hash sign is dropped as a whole.

The lines are those up to the first that is not text in UTF-8; a logical line that is not finished at
that place, or at the end of the file, does not count.
-/
import BrokerNode.Text.Blank

namespace BrokerNode.Dotenv

/-- Where a reader of a logical line stands. -/
inductive Standing where
  | complete
  | blank
  | escape
  | double
  | doubleEscape
  | single
  | singleEscape
  | comment
deriving DecidableEq, Repr

namespace Standing

/-- Where the reader stands behind one more character. -/
def after (c : Char) : Standing → Standing
  | .complete =>
    if Text.isBlank c ∧ c ≠ '\n' ∧ c ≠ '\r' then .blank
    else if c = '\\' then .escape
    else if c = '"' then .double
    else if c = '\'' then .single
    else .complete
  | .blank =>
    if c = '#' then .comment
    else if c = '\\' then .escape
    else if c = '"' then .double
    else if c = '\'' then .single
    else .complete
  | .escape => .complete
  | .double => if c = '\\' then .doubleEscape else if c = '"' then .complete else .double
  | .doubleEscape => .double
  | .single => if c = '\\' then .singleEscape else if c = '\'' then .complete else .single
  | .singleEscape => .single
  | .comment => .comment

/-- Where the reader stands behind a text, and the text in front of a comment. -/
def through : Standing → List Char → Standing × List Char
  | s, [] => (s, [])
  | s, c :: cs =>
    match s.after c with
    | .comment => (.comment, [])
    | s' => ((s'.through cs).1, c :: (s'.through cs).2)

end Standing

/-- A text without the line end that it ends in. -/
def dropLineEnd (s : List Char) : List Char :=
  match s.reverse with
  | '\n' :: '\r' :: r => r.reverse
  | '\n' :: r => r.reverse
  | _ => s

/-- The logical lines that lines of a file make up, after an unfinished text and where its reader
stands. -/
def joinLines (s : Standing) (unfinished : List Char) : List (List Char) → List (List Char)
  | [] => []
  | line :: lines =>
    let text := unfinished ++ line
    if (Text.trimStart text).head? = some '#' then [] :: joinLines .complete [] lines
    else
      match s.through line with
      | (.complete, _) => dropLineEnd text :: joinLines .complete [] lines
      | (.comment, kept) => (unfinished ++ kept) :: joinLines .complete [] lines
      | (s', _) => joinLines s' text lines

/-- Splits bytes behind each line end; `line` is the start of the first line, last byte first. -/
def splitLines (line : List UInt8) : List UInt8 → List (List UInt8)
  | [] => if line.isEmpty then [] else [line.reverse]
  | b :: bytes =>
    if b = 10 then (b :: line).reverse :: splitLines [] bytes else splitLines (b :: line) bytes

/-- The texts of lines, up to the first that is not text. -/
def readable : List (List UInt8) → List (List Char)
  | [] => []
  | line :: lines =>
    match String.fromUTF8? ⟨line.toArray⟩ with
    | some text => text.toList :: readable lines
    | none => []

/-- Bytes without the byte order mark that they start with. -/
def dropByteOrderMark : List UInt8 → List UInt8
  | 0xEF :: 0xBB :: 0xBF :: bytes => bytes
  | bytes => bytes

/-- The logical lines of a file. -/
def logicalLines (content : ByteArray) : List (List Char) :=
  joinLines .complete [] (readable (splitLines [] (dropByteOrderMark content.data.toList)))

end BrokerNode.Dotenv
