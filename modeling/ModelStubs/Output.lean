import ModelStubs.Declaration
import ModelStubs.Path
import ModelStubs.Stub

/-!
# Outputs

The two kinds of output, and the choice between them by the name of the file.
-/

namespace ModelStubs

/-- A kind of output. -/
inductive Output
  /-- Script stubs, for editors that follow assignments. -/
  | stubs
  /-- Type declarations. -/
  | declarations
  deriving DecidableEq, Repr

namespace Output

/-- The kinds of output. -/
def all : List Output := [.stubs, .declarations]

/-- How a kind of output is named to the user. -/
def title : Output → Text
  | .stubs => "JavaScript stubs".toList
  | .declarations => "TypeScript declarations".toList

/-- The kind of output that a file takes: declarations if its extension is `ts`, in either case of the letters, and
stubs otherwise. -/
def ofPath (p : Path) : Output :=
  if (Path.extension? p).map Text.asciiLower = some "ts".toList then .declarations else .stubs

/-- The text of a model in an output. -/
def render (output : Output) (naming : Naming) (objects : List Object) : Text :=
  match output with
  | .stubs => Stub.ofModel naming objects
  | .declarations => Declaration.ofModel naming objects

/-- The descriptors that an output does not recognize: stubs do not look inside a descriptor. -/
def unrecognized (output : Output) (objects : List Object) : List (Text × Text) :=
  match output with
  | .stubs => []
  | .declarations => Declaration.unrecognized objects

end Output

end ModelStubs
