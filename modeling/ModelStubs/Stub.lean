import ModelStubs.Comment
import ModelStubs.TypeName

/-!
# Stubs

A stub file is script for an editor: a namespace object, and on it one constructor function per object whose body gives
every property an initial value of its type, under a comment that documents it.
-/

namespace ModelStubs.Stub

/-- The comment line and the assignment of a property. -/
def ofProperty (naming : Naming) (owner : Object) (property : Property) : Text :=
  let name := naming.propertyName property.name
  let tag := (Tag.ofText property.type).name
  "\t/// <field name=\"".toList ++ name ++ "\" type=\"".toList ++ tag ++ "\">".toList ++
    Comment.ofProperty owner property ++ "</field>\n\tthis.".toList ++ name ++ " = new ".toList ++ tag ++
    "();\n".toList

/-- The constructor function of an object. -/
def ofObject (naming : Naming) (object : Object) : Text :=
  naming.spaceName ++ ".".toList ++ object.name ++ " = function()  \x7b\n".toList ++
    object.properties.flatMap (ofProperty naming object) ++ "\x7d;\n\n".toList

/-- The stub file of a model. -/
def ofModel (naming : Naming) (objects : List Object) : Text :=
  "var ".toList ++ naming.spaceName ++ " = ".toList ++ naming.spaceName ++ " || \x7b\x7d;\n".toList ++
    objects.flatMap (ofObject naming)

end ModelStubs.Stub
