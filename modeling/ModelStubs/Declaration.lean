import ModelStubs.Model
import ModelStubs.TypeName

/-!
# Declarations

A declaration file describes a model to a typed language: a module, and in it one interface per object with a typed
member for every property.
-/

namespace ModelStubs.Declaration

/-- The parameter of a generic interface, read off the full name of its object. -/
def parameter? (fullName : Text) : Option Text :=
  (Descriptor.genericSuffix? fullName).map fun raw =>
    match Scalar.ofText? raw with
    | some s => s.name
    | none => raw

/-- The opening line of an interface. -/
def opening (object : Object) : Text :=
  match parameter? object.fullName with
  | some parameter => "\tinterface ".toList ++ object.name ++ "<".toList ++ parameter ++ "> \x7b\n".toList
  | none => "\tinterface ".toList ++ object.name ++ "\x7b\n".toList

/-- The member for a property. -/
def ofProperty (naming : Naming) (property : Property) : Text :=
  "\t\t".toList ++ naming.propertyName property.name ++ ": ".toList ++ Descriptor.declaredType property.type ++
    ";\n".toList

/-- The interface of an object. -/
def ofObject (naming : Naming) (object : Object) : Text :=
  opening object ++ object.properties.flatMap (ofProperty naming) ++ "\x7d\n".toList

/-- The declaration file of a model. -/
def ofModel (naming : Naming) (objects : List Object) : Text :=
  "declare module ".toList ++ naming.spaceName ++ " \x7b\n\n".toList ++ objects.flatMap (ofObject naming) ++
    "\x7d\n".toList

/-- The descriptors of a model that a declaration file names by a bare identifier, with that identifier, in the order in
which they are written. -/
def unrecognized (objects : List Object) : List (Text × Text) :=
  (objects.flatMap (·.properties)).filterMap fun property =>
    (Descriptor.unrecognized? property.type).map (property.type, ·)

end ModelStubs.Declaration
