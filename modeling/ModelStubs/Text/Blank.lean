import ModelStubs.Text

/-!
# Blank characters

White space in the sense of the Unicode property of that name: ASCII blanks and line breaks, the no-break spaces, the
spaces of fixed width and the line and paragraph separators. The zero-width space is not among them.
-/

namespace ModelStubs.Text

/-- The ranges of white space. -/
def blankRanges : List (Nat × Nat) :=
  [(0x9, 0xD), (0x20, 0x20), (0x85, 0x85), (0xA0, 0xA0), (0x1680, 0x1680), (0x2000, 0x200A), (0x2028, 0x2029),
    (0x202F, 0x202F), (0x205F, 0x205F), (0x3000, 0x3000)]

/-- Whether a character is white space. -/
def isBlank (c : Char) : Bool := inRanges c.toNat blankRanges

/-- The text without the white space at its end. -/
def trimEnd (t : Text) : Text := (t.reverse.dropWhile isBlank).reverse

/-- The text without the white space at either end. -/
def trim (t : Text) : Text := trimEnd (t.dropWhile isBlank)

example (c : Char) (h : c = ' ' ∨ c = '\t' ∨ c = '\n' ∨ c = '\r') : isBlank c = true := by
  rcases h with rfl | rfl | rfl | rfl <;> decide

example : isBlank '\u200B' = false := by decide

end ModelStubs.Text
