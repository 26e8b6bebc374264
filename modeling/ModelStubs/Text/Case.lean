import ModelStubs.Text
import ModelStubs.Text.CaseTable

/-!
# Letter case

Lower and upper case of whole texts, with the full mappings of Unicode: one character may become several (`ß` is `SS` in
upper case), and a capital sigma that ends a word becomes the final form of the small letter.
-/

namespace ModelStubs.Text

/-- Where the first run that holds a code point takes it. The runs ascend by their first letter. -/
def mapByRuns (n : Nat) : List CaseRun → Option Nat
  | [] => none
  | run :: rest =>
    if n < run.first then none
    else if n ≤ run.last ∧ (n - run.first) % run.step = 0 then some (run.target + (n - run.first))
    else mapByRuns n rest

/-- The expansion listed for a code point. -/
def expansion? (n : Nat) : List (Nat × List Nat) → Option (List Nat)
  | [] => none
  | (m, expanded) :: rest => if n < m then none else if n = m then some expanded else expansion? n rest

/-- The lower case of one character on its own. The dotted capital I is the only letter that becomes two characters. -/
def lowerChar (c : Char) : Text :=
  if c = 'İ' then ['i', '\u0307']
  else match mapByRuns c.toNat lowerRuns with
    | some n => [Char.ofNat n]
    | none => [c]

/-- The upper case of one character. -/
def upperChar (c : Char) : Text :=
  match expansion? c.toNat upperExpansions with
  | some expanded => expanded.map Char.ofNat
  | none => match mapByRuns c.toNat upperRuns with
    | some n => [Char.ofNat n]
    | none => [c]

/-- Whether a character has a case. -/
def isCased (c : Char) : Bool := inRanges c.toNat casedRanges

/-- Whether a character does not interrupt a word when its case is looked at. -/
def isCaseIgnorable (c : Char) : Bool := inRanges c.toNat caseIgnorableRanges

/-- Whether the next character that matters has a case. -/
def continuesCased (t : Text) : Bool :=
  match t.dropWhile isCaseIgnorable with
  | c :: _ => isCased c
  | [] => false

/-- The lower case of a text that follows `seen`, which is given from its last character backwards. A capital sigma is
final if a cased letter comes before it and none comes after it. -/
def lowerAfter (seen : Text) : Text → Text
  | [] => []
  | c :: rest =>
    (if c = 'Σ' then if continuesCased seen && !continuesCased rest then ['ς'] else ['σ'] else lowerChar c) ++
      lowerAfter (c :: seen) rest

/-- The lower case of a text. -/
def lower (t : Text) : Text := lowerAfter [] t

/-- The upper case of a text. -/
def upper (t : Text) : Text := t.flatMap upperChar

end ModelStubs.Text
