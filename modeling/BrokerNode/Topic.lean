/-
BrokerNode/Topic.lean

Topics: how a root and a topic below it are joined, and which topics can be published on.

The join has exactly one slash between its parts, however many stand at the end of the root or at
the start of the topic; without a root the topic stays as it is.
-/

namespace BrokerNode.Topic

/-- A text without the slashes at its end. -/
def dropTrailingSlashes (s : List Char) : List Char := (s.reverse.dropWhile (· == '/')).reverse

/-- A text without the slashes at its start. -/
def dropLeadingSlashes (s : List Char) : List Char := s.dropWhile (· == '/')

/-- The topic below a root. -/
def join (root topic : String) : String :=
  if root.isEmpty then topic
  else String.ofList
    (dropTrailingSlashes root.toList ++ '/' :: dropLeadingSlashes topic.toList)

/-- Whether a topic can be published on: it has no wildcard in it. -/
def isPublishable (topic : String) : Bool := topic.toList.all fun c => c != '+' && c != '#'

end BrokerNode.Topic
