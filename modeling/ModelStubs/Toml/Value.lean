import ModelStubs.Text

/-!
# TOML values

The value of a TOML document is a table. A table keeps its keys in ascending order, and remembers how it came to be,
because that decides what a later part of the document may still add to it.
-/

namespace ModelStubs.Toml

/-- A floating point number as written. -/
inductive Float
  /-- `digits · 10 ^ exponent`, or the negative of that. -/
  | decimal (negative : Bool) (digits : Nat) (exponent : Int)
  | infinite (negative : Bool)
  | nan
  deriving DecidableEq, Repr

/-- How a table came to be. -/
inductive TableOrigin
  /-- It is the document, or has a header of its own. -/
  | header
  /-- It stands on the way to the table of a longer header. -/
  | implied
  /-- It stands on the way to a dotted key. -/
  | dotted
  /-- It is written out between braces. -/
  | inline
  deriving DecidableEq, Repr

/-- A TOML value. A date or a time is kept as written. -/
inductive Value
  | string (t : Text)
  | integer (n : Int)
  | float (x : Float)
  /-- A word that could only be a whole number, and is none. That is a fault only where the value is looked at. -/
  | brokenInteger
  | boolean (b : Bool)
  | dateTime (t : Text)
  /-- An array between brackets. -/
  | array (elements : List Value)
  /-- An array of tables, each with a header of its own. -/
  | tables (elements : List Value)
  | table (origin : TableOrigin) (entries : List (Text × Value))
  deriving Repr

/-- The entries of a table, in ascending order of their keys. -/
abbrev Entries := List (Text × Value)

namespace Entries

/-- The value of a key. -/
def find? (key : Text) : Entries → Option Value
  | [] => none
  | (k, v) :: rest => if k = key then some v else find? key rest

/-- The entries with a value set for a key, in place of one that is there. -/
def set (key : Text) (value : Value) : Entries → Entries
  | [] => [(key, value)]
  | (k, v) :: rest =>
    if k = key then (key, value) :: rest
    else if Text.before key k then (key, value) :: (k, v) :: rest
    else (k, v) :: set key value rest

/-- Under the key that was set there is the value, and under every other key what was there before. -/
@[simp] theorem find?_set (key other : Text) (value : Value) (es : Entries) :
    find? other (set key value es) = if key = other then some value else find? other es := by
  induction es with
  | nil => rfl
  | cons e es ih =>
    obtain ⟨k, v⟩ := e
    rw [set]
    by_cases hk : k = key
    · subst hk
      rw [if_pos rfl, find?, find?]
      split <;> rfl
    · rw [if_neg hk]
      by_cases hb : Text.before key k = true
      · rw [if_pos hb, find?]
      · rw [if_neg hb, find?, find?, ih]
        by_cases h : k = other
        · rw [if_pos h, if_neg (fun e => hk (h.trans e.symm)), if_pos h]
        · rw [if_neg h, if_neg h]

end Entries

end ModelStubs.Toml
