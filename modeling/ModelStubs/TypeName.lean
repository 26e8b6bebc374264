import ModelStubs.Descriptor

/-!
# Names of types in the output

A declaration file writes a type as an expression (`Descriptor.declared`), a stub as the name of a constructor (`Tag`).
The two are read off a descriptor on their own: only the expression looks inside, and only the constructor heeds a mark
of nullability.
-/

namespace ModelStubs

namespace Descriptor

/-- A descriptor as a type of a declaration. Of a qualified argument of a collection the last part is kept. A scalar
argument of any other generic type is set after the name without brackets, and an array keeps the name of its element as
written. -/
def declared : Descriptor → Text
  | .scalar s => s.name
  | .collection _ (.scalar s) => "Array<".toList ++ s.name ++ [ '>' ]
  | .collection _ (.raw t) => "Array<".toList ++ Text.afterLast '.' t ++ [ '>' ]
  | .array element => "Array<".toList ++ element ++ [ '>' ]
  | .generic name (.scalar s) _ => name ++ s.name
  | .generic _ (.raw _) written => written
  | .unknown name => name

/-- The type of a declaration for the text of a descriptor. -/
def declaredType (t : Text) : Text := (ofText t).declared

/-- The identifier that stands in for a descriptor of no known shape. -/
def unrecognized? (t : Text) : Option Text :=
  match ofText t with
  | .unknown name => some name
  | _ => none

end Descriptor

/-- The constructor of a property's initial value in a stub. -/
inductive Tag
  | scalar (s : Scalar)
  | array
  | object
  deriving DecidableEq, Repr

namespace Tag

/-- The name of the constructor. -/
def name : Tag → Text
  | .scalar s => s.name
  | .array => "Array".toList
  | .object => "Object".toList

/-- The constructor for the text of a descriptor: only scalars are told apart, whatever looks like a list is an array,
and the rest is an object. A mark of nullability is not taken off, so `int?` is an object. -/
def ofText (t : Text) : Tag :=
  match Scalar.ofText? t with
  | some s => .scalar s
  | none => if Descriptor.mentionsCollection t || Descriptor.mentionsBrackets t then .array else .object

end Tag

end ModelStubs
