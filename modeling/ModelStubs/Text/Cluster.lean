import ModelStubs.Text
import ModelStubs.Text.ClusterTable

/-!
# Clusters of characters

A cluster is what a reader takes for one character: a base with the marks attached to it. A letter with a combining
accent is one cluster, and so is a line feed after a carriage return, or a row of pictures tied by joiners.

Clusters are cut here to look at the case of letters. Signs of scripts without case that would form larger clusters
(Hangul syllables, flags, Indic conjuncts) are cut finer than a reader would, which no rule about case can notice.
-/

namespace ModelStubs.Text

/-- How a character behaves where a cluster may be cut. -/
inductive ClusterRole
  /-- Stands alone, except that a line feed joins a carriage return. -/
  | carriageReturn
  | lineFeed
  | control
  /-- Attaches to the character before it. -/
  | extending
  | joiner
  | spacingMark
  /-- Attaches to the character after it. -/
  | prepended
  /-- Joins a picture before it across a joiner. -/
  | picture
  | other
  deriving DecidableEq

/-- The role of a character. -/
def clusterRole (c : Char) : ClusterRole :=
  let n := c.toNat
  if c = '\r' then .carriageReturn
  else if c = '\n' then .lineFeed
  else if n = 0x200D then .joiner
  else if inRanges n controlRanges then .control
  else if inRanges n extendingRanges then .extending
  else if inRanges n spacingMarkRanges then .spacingMark
  else if inRanges n prependedRanges then .prepended
  else if inRanges n pictureRanges then .picture
  else .other

/-- What the rules remember of the cluster read so far: the role of its last character, and whether it is a picture with
extending marks (`picture`), or that and a joiner (`joined`). -/
structure ClusterState where
  last : ClusterRole
  picture : Bool
  joined : Bool

/-- The state after a character is added to a cluster, or opens one (`none`). -/
def ClusterState.add (state : Option ClusterState) (role : ClusterRole) : ClusterState :=
  let picture := match state with
    | some s => s.picture
    | none => false
  { last := role
    picture := role = .picture || (picture && role = .extending)
    joined := picture && role = .joiner }

/-- Whether a character belongs to the cluster before it. -/
def ClusterState.attaches (state : ClusterState) (role : ClusterRole) : Bool :=
  match state.last, role with
  | .carriageReturn, .lineFeed => true
  | .carriageReturn, _ | .lineFeed, _ | .control, _ => false
  | _, .carriageReturn | _, .lineFeed | _, .control => false
  | _, .extending | _, .joiner | _, .spacingMark => true
  | .prepended, _ => true
  | _, .picture => state.joined
  | _, _ => false

/-- The clusters of a text whose first cluster continues `current`, which is given backwards. -/
def clustersFrom (current : Text) (state : ClusterState) : Text → List Text
  | [] => [current.reverse]
  | c :: rest =>
    let role := clusterRole c
    if state.attaches role then clustersFrom (c :: current) (ClusterState.add (some state) role) rest
    else current.reverse :: clustersFrom [c] (ClusterState.add none role) rest

/-- The text cut into clusters. -/
def clusters : Text → List Text
  | [] => []
  | c :: rest => clustersFrom [c] (ClusterState.add none (clusterRole c)) rest

end ModelStubs.Text
