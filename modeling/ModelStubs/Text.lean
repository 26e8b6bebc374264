/-!
# Text

A text is the list of its characters. Every rule of this library that looks at letters, brackets or separators is a
recursion on that list, so that it can be reasoned about by induction.

Texts are ordered by code point, character by character, a text before its continuations. This is also the order of
their UTF-8 bytes, which is how keys of a document and names of a directory are ordered.

A property of characters that goes beyond ASCII is kept as the ascending list of the ranges of code points that have it.
-/

namespace ModelStubs

/-- A text, as the list of its characters. -/
abbrev Text := List Char

namespace Text

/-- Whether `word` occurs in a text as a contiguous piece. -/
def occursIn (word : Text) : Text → Bool
  | [] => word.isEmpty
  | c :: r => word.isPrefixOf (c :: r) || occursIn word r

/-- Whether one text stands strictly before another in the order of code points. -/
def before : Text → Text → Bool
  | _, [] => false
  | [], _ :: _ => true
  | a :: r, b :: s => if a.toNat < b.toNat then true else if b.toNat < a.toNat then false else before r s

/-- The text without its last character, if that character is `c`. -/
def dropLast? (c : Char) : Text → Option Text
  | [] => none
  | [d] => if d = c then some [] else none
  | d :: e :: r => (dropLast? c (e :: r)).map (d :: ·)

/-- The part after the last `c`, or all of the text if it has none. -/
def afterLast (c : Char) (t : Text) : Text :=
  (t.reverse.takeWhile (· != c)).reverse

/-- The part after the first `c`, if there is one. -/
def afterFirst? (c : Char) : Text → Option Text
  | [] => none
  | d :: r => if d = c then some r else afterFirst? c r

/-- The text cut at every `c`, the cuts removed: one piece more than there are cuts. -/
def splitAt (c : Char) : Text → List Text
  | [] => [[]]
  | d :: r =>
    match splitAt c r with
    | [] => [[d]]
    | piece :: pieces => if d = c then [] :: piece :: pieces else (d :: piece) :: pieces

/-- A number in decimal digits. -/
def ofNat (n : Nat) : Text := Nat.toDigits 10 n

/-- The letters A to Z in either case are letters; no other character is. -/
def isLetter (c : Char) : Bool := c.isAlpha

/-- The longest run of letters that ends the text. -/
def lettersAtEnd (t : Text) : Text := (t.reverse.takeWhile isLetter).reverse

/-- The longest run of letters that opens the text. -/
def lettersAtStart (t : Text) : Text := t.takeWhile isLetter

/-- The text in lower case as far as A to Z go; every other character is kept. -/
def asciiLower (t : Text) : Text := t.map Char.toLower

/-- Whether a code point lies in one of the ranges, each with both ends included. The ranges ascend, so the search stops
at the first one that starts above the code point. -/
def inRanges (n : Nat) : List (Nat × Nat) → Bool
  | [] => false
  | (low, high) :: rest => if n < low then false else if n ≤ high then true else inRanges n rest

end Text

end ModelStubs
