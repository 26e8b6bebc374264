import ModelStubs.Scalar

/-!
# Type descriptors

A type descriptor is a text taken from a live type system, such as `int?`, `Order[]` or
`System.Collections.Generic.List<Shop.Order>`. Descriptors follow loose habits only, so reading one never fails: every
text has one of five shapes, and `unknown` takes what no other shape claims.
-/

namespace ModelStubs

/-- The argument of a generic type: a scalar, or the text as written. -/
inductive Argument
  | scalar (s : Scalar)
  | raw (t : Text)
  deriving DecidableEq, Repr

/-- What a type descriptor says. -/
inductive Descriptor
  /-- A scalar. -/
  | scalar (s : Scalar)
  /-- `Element[]`. -/
  | array (element : Text)
  /-- A generic type of a collection namespace, `….Name<Arg>`. -/
  | collection (name : Text) (arg : Argument)
  /-- Any other generic type, with the piece of the descriptor that reads `Name<Arg>`. -/
  | generic (name : Text) (arg : Argument) (written : Text)
  /-- Anything else, known by a bare identifier. -/
  | unknown (name : Text)
  deriving DecidableEq, Repr

namespace Argument

/-- The argument that a text stands for. -/
def ofText (t : Text) : Argument :=
  match Scalar.ofText? t with
  | some s => .scalar s
  | none => .raw t

end Argument

namespace Descriptor

/-- The name of an element or a type that has none in letters. -/
def anyName : Text := "any".toList

/-- The namespace whose members are collections. -/
def collectionNamespace : Text := "System.Collections".toList

/-- Whether a text speaks of a collection: it names the collection namespace or the word `Array`. -/
def mentionsCollection (t : Text) : Bool :=
  Text.occursIn collectionNamespace t || Text.occursIn "Array".toList t

/-- Whether a text has a pair of brackets anywhere. -/
def mentionsBrackets (t : Text) : Bool := Text.occursIn "[]".toList t

/-- `Name<Arg>` at the end of a descriptor: `name` is the whole run of letters before the angle, `arg` all that stands
between it and the closing angle that ends the descriptor. -/
structure GenericForm where
  name : Text
  arg : Text
  deriving DecidableEq, Repr

/-- The piece of the descriptor that the form was read from. -/
def GenericForm.written (form : GenericForm) : Text := form.name ++ '<' :: form.arg ++ ['>']

/-- The first `Name<Arg` of a text whose closing angle is taken off. `seen` holds what was passed, backwards. An opening
angle counts if letters stand before it, something stands after it, and the text before the letters is accepted; that
text is handed over backwards. -/
def genericFrom (accept : Text → Bool) (seen : Text) : Text → Option GenericForm
  | [] => none
  | c :: rest =>
    let name := seen.takeWhile Text.isLetter
    if c = '<' ∧ name ≠ [] ∧ rest ≠ [] ∧ accept (seen.dropWhile Text.isLetter) = true then
      some ⟨name.reverse, rest⟩
    else genericFrom accept (c :: seen) rest

/-- The leftmost `Name<Arg>` that ends a text. -/
def generic? (t : Text) : Option GenericForm :=
  (Text.dropLast? '>' t).bind (genericFrom (fun _ => true) [])

/-- The leftmost `.Name<Arg>` that ends a text: the name is the last part of a qualified one. -/
def qualifiedGeneric? (t : Text) : Option GenericForm :=
  (Text.dropLast? '>' t).bind (genericFrom (fun before => before.head? = some '.') [])

/-- The text between the first opening angle and a closing angle that ends the text; it may be empty. -/
def genericSuffix? (t : Text) : Option Text :=
  (Text.dropLast? '>' t).bind (Text.afterFirst? '<')

/-- The letters before a pair of brackets that ends the text. -/
def bracketElement? (t : Text) : Option Text := do
  let body ← Text.dropLast? '[' (← Text.dropLast? ']' t)
  let element := Text.lettersAtEnd body
  if element = [] then none else some element

/-- The identifier of a text that no other shape claims: the letters that end it, or else the letters that open its part
after the last dot, or else `any`. -/
def bareName (t : Text) : Text :=
  if Text.lettersAtEnd t ≠ [] then Text.lettersAtEnd t
  else if Text.lettersAtStart (Text.afterLast '.' t) ≠ [] then Text.lettersAtStart (Text.afterLast '.' t)
  else anyName

/-- The text without its marks of nullability. -/
def dropNullable (t : Text) : Text := t.filter (· != '?')

/-- The shape of a text without marks of nullability; the first that fits. -/
def ofPlain (t : Text) : Descriptor :=
  match Scalar.ofText? t with
  | some s => .scalar s
  | none =>
    match if mentionsCollection t then qualifiedGeneric? t else none with
    | some form => .collection form.name (.ofText form.arg)
    | none =>
      if mentionsBrackets t then .array ((bracketElement? t).getD anyName)
      else match generic? t with
        | some form => .generic form.name (.ofText form.arg) form.written
        | none => .unknown (bareName t)

/-- What a descriptor says; marks of nullability are left out of account. -/
def ofText (t : Text) : Descriptor := ofPlain (dropNullable t)

end Descriptor

end ModelStubs
