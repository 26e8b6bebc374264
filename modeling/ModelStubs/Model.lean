import ModelStubs.Identifier

/-!
# The model

A model is a list of objects with their properties, as a manifest declares them, and the naming rules under which they
are written out.
-/

namespace ModelStubs

/-- A property of an object: its name, the descriptor of its type, and a summary for readers if there is one. -/
structure Property where
  name : Text
  type : Text
  summary : Option Text
  deriving DecidableEq, Repr

/-- An object: its name in the output, its full name in the host type system, and its properties in order. -/
structure Object where
  name : Text
  fullName : Text
  properties : List Property
  deriving DecidableEq, Repr

/-- How names are written: the namespace of the output, and whether property names are put into camel case. -/
structure Naming where
  spaceName : Text
  camelCaseProperties : Bool
  deriving DecidableEq, Repr

namespace Naming

/-- The namespace of an output for which none is configured. -/
def defaultSpace : Text := "server".toList

/-- The rules in force where none are configured. -/
def standard : Naming := ⟨defaultSpace, false⟩

/-- The name of a property in the output. -/
def propertyName (naming : Naming) (name : Text) : Text :=
  if naming.camelCaseProperties then Identifier.camelCase name else name

end Naming

end ModelStubs
