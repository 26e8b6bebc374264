import ModelStubs.Decimal
import ModelStubs.Text.HiddenTable
import ModelStubs.Toml.Reader

/-!
# Typed reading of TOML

A record is read from the entries of a table, in ascending order of the keys, or from the elements of an array, one per
field. The first value of a wrong type is the fault of the whole; a field that is missing is noticed after that. Keys
that no field has are passed over, but a number there that is beyond every number type, or is no number after all, is
still a fault.

A text inside the wording of a fault stands between double quotes, with the characters that a reader would not see, or not
see apart, written as escapes.
-/

namespace ModelStubs

namespace Text

/-- A character as it is shown between double quotes. -/
def shownChar (c : Char) : Text :=
  if c = '\x00' then "\\0".toList
  else if c = '\t' then "\\t".toList
  else if c = '\r' then "\\r".toList
  else if c = '\n' then "\\n".toList
  else if c = '\\' then "\\\\".toList
  else if c = '"' then "\\\"".toList
  else if inRanges c.toNat graphemeExtendRanges || inRanges c.toNat invisibleRanges then
    "\\u\x7b".toList ++ Nat.toDigits 16 c.toNat ++ "\x7d".toList
  else [c]

/-- A text as it is shown in a message. -/
def shown (t : Text) : Text := '"' :: t.flatMap shownChar ++ ['"']

end Text

namespace Toml

/-- What was found where something else was expected. -/
inductive Found
  | string (t : Text)
  | integer (n : Int)
  | float (negative : Bool) (x : Double)
  | infinite (negative : Bool)
  | nan
  | boolean (b : Bool)
  | sequence
  /-- A table; a date or a time counts as one. -/
  | map
  deriving DecidableEq, Repr

/-- Why a document is not what it should be. -/
inductive Fault
  /-- The document is not well formed. -/
  | malformed
  | invalidType (found : Found) (expected : Text)
  | missingField (name : Text)
  /-- An array has fewer elements than the record has fields. -/
  | tooShort
  /-- A number is beyond every number type. -/
  | outOfRange
  /-- A word that could only be a whole number is none. -/
  | brokenInteger
  deriving DecidableEq, Repr

/-- A whole number as it is shown in a message. -/
def Found.integerText (n : Int) : Text :=
  if n < 0 then '-' :: Text.ofNat n.natAbs else Text.ofNat n.natAbs

/-- A finding as it is shown in a message. Beyond 64 bits the type of a whole number is named too. -/
def Found.message : Found → Text
  | .string t => "string ".toList ++ Text.shown t
  | .integer n =>
    "integer `".toList ++ integerText n ++ "`".toList ++
      if -Int.pow 2 63 ≤ n ∧ n < Int.pow 2 64 then []
      else if n < Int.pow 2 127 then " as i128".toList
      else " as u128".toList
  | .float negative x =>
    "floating point `".toList ++ (if negative then ['-'] else []) ++ x.positional ++ "`".toList
  | .infinite negative => if negative then "floating point `-inf`".toList else "floating point `inf`".toList
  | .nan => "floating point `NaN`".toList
  | .boolean b => if b then "boolean `true`".toList else "boolean `false`".toList
  | .sequence => "sequence".toList
  | .map => "map".toList

/-- The wording of a fault, for those that have one. -/
def Fault.message? : Fault → Option Text
  | .invalidType found expected =>
    some ("invalid type: ".toList ++ found.message ++ ", expected ".toList ++ expected)
  | .missingField name => some ("missing field `".toList ++ name ++ "`".toList)
  | _ => none

/-- What a whole number is found to be, if it fits a number type of at most 128 bits. -/
def Found.ofInteger (n : Int) : Except Fault Found :=
  if -Int.pow 2 127 ≤ n ∧ n < Int.pow 2 128 then .ok (.integer n) else .error .outOfRange

/-- What a floating point number is found to be, if it is not beyond every finite double. -/
def Found.ofFloat : Float → Except Fault Found
  | .decimal negative digits exponent =>
    match Double.ofDecimal? digits exponent with
    | some x => .ok (.float negative x)
    | none => .error .outOfRange
  | .infinite negative => .ok (.infinite negative)
  | .nan => .ok .nan

/-- What a value is found to be. -/
def Found.ofValue : Value → Except Fault Found
  | .string t => .ok (.string t)
  | .integer n => ofInteger n
  | .float x => ofFloat x
  | .brokenInteger => .error .brokenInteger
  | .boolean b => .ok (.boolean b)
  | .dateTime _ => .ok .map
  | .array _ => .ok .sequence
  | .tables _ => .ok .sequence
  | .table _ _ => .ok .map

mutual

/-- Pass over a value: every number in it must be one, and fit a number type. -/
def Value.pass : Value → Except Fault Unit
  | .integer n => (Found.ofInteger n).map fun _ => ()
  | .float x => (Found.ofFloat x).map fun _ => ()
  | .brokenInteger => .error .brokenInteger
  | .array elements => passAll elements
  | .tables elements => passAll elements
  | .table _ entries => passEntries entries
  | _ => .ok ()

/-- Pass over values in order. -/
def passAll : List Value → Except Fault Unit
  | [] => .ok ()
  | v :: rest => do
    v.pass
    passAll rest

/-- Pass over the values of entries in order. -/
def passEntries : List (Text × Value) → Except Fault Unit
  | [] => .ok ()
  | (_, v) :: rest => do
    v.pass
    passEntries rest

end

namespace Decode

/-- The fault of a value that is not of the type expected. -/
def mismatch {α : Type} (expected : String) (v : Value) : Except Fault α := do
  .error (.invalidType (← Found.ofValue v) expected.toList)

/-- A text. -/
def string : Value → Except Fault Text
  | .string t => .ok t
  | v => mismatch "a string" v

/-- A path. -/
def path : Value → Except Fault Text
  | .string t => .ok t
  | v => mismatch "path string" v

/-- A truth value. -/
def boolean : Value → Except Fault Bool
  | .boolean b => .ok b
  | v => mismatch "a boolean" v

/-- A list of values of one type. -/
def list {α : Type} (item : Value → Except Fault α) : Value → Except Fault (List α)
  | .array elements => elements.mapM item
  | .tables elements => elements.mapM item
  | v => mismatch "a sequence" v

/-- A field that has to be there. -/
def required {α : Type} (name : String) : Option α → Except Fault α
  | some x => .ok x
  | none => .error (.missingField name.toList)

/-- The first elements of an array as the fields of a record: the first element and the rest. -/
def element {α : Type} (item : Value → Except Fault α) : List Value → Except Fault (α × List Value)
  | [] => .error .tooShort
  | v :: rest => do return (← item v, rest)

/-- An element that stands for a default where the array ends before it. -/
def elementOr {α : Type} (default : α) (item : Value → Except Fault α) : List Value → Except Fault (α × List Value)
  | [] => .ok (default, [])
  | v :: rest => do return (← item v, rest)

/-- A record: `field` takes the value of a key into a draft, and `finish` makes the record of a finished draft. A date
or a time counts as a table without a key that any field has. -/
def record {δ α : Type} (expected : String) (start : δ) (field : δ → Text → Value → Except Fault δ)
    (finish : δ → Except Fault α) (fromArray : List Value → Except Fault α) : Value → Except Fault α
  | .table _ entries => do finish (← entries.foldlM (fun draft (key, v) => field draft key v) start)
  | .dateTime _ => finish start
  | .array elements => fromArray elements
  | .tables elements => fromArray elements
  | v => mismatch expected v

end Decode

/-- The record that a document holds. -/
def decode {α : Type} (item : Value → Except Fault α) (t : Text) : Except Fault α :=
  match document? t with
  | some entries => item (.table .header entries)
  | none => .error .malformed

end Toml

end ModelStubs
