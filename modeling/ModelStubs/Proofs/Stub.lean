import Mathlib.Algebra.Ring.Nat
import ModelStubs.Proofs.Comment
import ModelStubs.Stub

/-!
# The lines of a stub file

A script ends its lines at four characters. Where the names in a stub file are identifiers, all of these characters that
stand in it are written by the rules themselves, but for those that its comments hold (`count_ofModel`). A comment holds no
line feed and no carriage return; a line separator and a paragraph separator are kept in it as other white space is
(`lineTerminators_ofModel`), and so a summary can end the line of its comment (`comment_ends_its_line`).
-/

namespace ModelStubs

open Text (isBlank)

namespace Identifier

/-- Whether a text is an identifier in ASCII: a letter or an underscore, and then letters, digits and underscores. -/
def isAscii : Text → Bool
  | [] => false
  | c :: rest => (c.isAlpha || c = '_') && rest.all fun d => d.isAlphanum || d = '_'

/-- The codes of letters and digits. -/
theorem toNat_of_isAlphanum {c : Char} (h : c.isAlphanum = true) :
    ((65 ≤ c.toNat ∧ c.toNat ≤ 90) ∨ (97 ≤ c.toNat ∧ c.toNat ≤ 122)) ∨ (48 ≤ c.toNat ∧ c.toNat ≤ 57) := by
  rcases Bool.or_eq_true_iff.mp h with hl | hd
  · exact Or.inl ((Text.isLetter_iff c).mp hl)
  · exact Or.inr (Char.isDigit_iff_toNat.mp hd)

theorem not_isBlank_of_isAlphanum {c : Char} (h : c.isAlphanum = true) : isBlank c = false := by
  have hc := toNat_of_isAlphanum h
  simp only [isBlank, Text.blankRanges, Text.inRanges]
  grind

/-- Whether a character can be in an identifier. -/
def isPart (c : Char) : Bool := c.isAlphanum || c = '_'

/-- An identifier consists of letters, digits and underscores. -/
theorem isPart_of_isAscii {t : Text} (h : isAscii t = true) : ∀ c ∈ t, isPart c = true := by
  cases t with
  | nil => nofun
  | cons d rest =>
    rw [isAscii, Bool.and_eq_true, List.all_eq_true] at h
    intro c hc
    rcases List.mem_cons.mp hc with rfl | hc
    · rcases Bool.or_eq_true_iff.mp h.1 with hl | hl
      · simp [isPart, Char.isAlphanum, hl]
      · simp [isPart, hl]
    · exact h.2 c hc

/-- White space is in no identifier. -/
theorem not_isBlank_of_isAscii {t : Text} (h : isAscii t = true) : ∀ c ∈ t, isBlank c = false := by
  intro c hc
  rcases Bool.or_eq_true_iff.mp (isPart_of_isAscii h c hc) with hl | hl
  · exact not_isBlank_of_isAlphanum hl
  · rw [of_decide_eq_true hl]
    decide

end Identifier

theorem Tag.isAscii_name (tag : Tag) : Identifier.isAscii tag.name = true := by
  cases tag with
  | scalar s => cases s <;> decide
  | array => decide
  | object => decide

namespace Stub

open Comment (Between)

/-- The characters that end a line of a script. -/
def lineTerminators : List Char := ['\n', '\r', '\u2028', '\u2029']

/-- Line terminators are white space. -/
theorem isBlank_of_mem_lineTerminators {c : Char} (h : c ∈ lineTerminators) : isBlank c = true := by
  have hall : (lineTerminators.all isBlank) = true := by decide
  exact List.all_eq_true.mp hall c h

/-! ## Counting along the rules -/

variable {naming : Naming} {c : Char}

/-- A text of the rules ends so many lines, and ends them with line feeds. -/
def EndsLines (t : Text) (lines : Nat) : Prop := ∀ c ∈ lineTerminators, t.count c = if c = '\n' then lines else 0

instance decEndsLines (t : Text) (lines : Nat) : Decidable (EndsLines t lines) :=
  decidable_of_iff ((lineTerminators.all fun c => t.count c = if c = '\n' then lines else 0) = true)
    (by simp only [List.all_eq_true, decide_eq_true_eq, EndsLines])

/-- An identifier ends no line. -/
theorem endsLines_of_isAscii {t : Text} (h : Identifier.isAscii t = true) : EndsLines t 0 := by
  intro c hc
  rw [Comment.count_eq_zero_of_blank (isBlank_of_mem_lineTerminators hc) (Identifier.not_isBlank_of_isAscii h), ite_self]

/-- The two lines of a property end in line feeds, and hold what the comment holds. -/
theorem count_ofProperty (hc : c ∈ lineTerminators) (owner : Object) {property : Property}
    (hp : Identifier.isAscii (naming.propertyName property.name) = true) :
    (ofProperty naming owner property).count c =
      (if c = '\n' then 2 else 0) + (Comment.ofProperty owner property).count c := by
  have hname := endsLines_of_isAscii hp c hc
  have htag := endsLines_of_isAscii (Tag.ofText property.type).isAscii_name c hc
  have h1 : EndsLines "\t/// <field name=\"".toList 0 := by decide
  have h2 : EndsLines "\" type=\"".toList 0 := by decide
  have h3 : EndsLines "\">".toList 0 := by decide
  have h4 : EndsLines "</field>\n\tthis.".toList 1 := by decide
  have h5 : EndsLines " = new ".toList 0 := by decide
  have h6 : EndsLines "();\n".toList 1 := by decide
  delta ofProperty
  simp only [List.count_append, hname, htag, h1 c hc, h2 c hc, h3 c hc, h4 c hc, h5 c hc, h6 c hc]
  split <;> omega

/-- An object takes three lines besides those of its properties. -/
theorem count_ofObject (hc : c ∈ lineTerminators) (hs : Identifier.isAscii naming.spaceName = true) {object : Object}
    (ho : Identifier.isAscii object.name = true)
    (hp : ∀ property ∈ object.properties, Identifier.isAscii (naming.propertyName property.name) = true) :
    (ofObject naming object).count c = (if c = '\n' then 3 + 2 * object.properties.length else 0) +
      (object.properties.map fun property => (Comment.ofProperty object property).count c).sum := by
  have hprops : (object.properties.flatMap (ofProperty naming object)).count c =
      (if c = '\n' then 2 * object.properties.length else 0) +
        (object.properties.map fun property => (Comment.ofProperty object property).count c).sum := by
    generalize object.properties = properties at hp
    induction properties with
    | nil => simp
    | cons property rest ih =>
      rw [List.flatMap_cons, List.count_append, count_ofProperty hc object (hp property List.mem_cons_self),
        ih fun q hq => hp q (List.mem_cons_of_mem _ hq), List.map_cons, List.sum_cons, List.length_cons]
      split <;> omega
  have h1 : EndsLines ".".toList 0 := by decide
  have h2 : EndsLines " = function()  \x7b\n".toList 1 := by decide
  have h3 : EndsLines "\x7d;\n\n".toList 2 := by decide
  simp only [ofObject, List.count_append, endsLines_of_isAscii hs c hc, endsLines_of_isAscii ho c hc, hprops, h1 c hc,
    h2 c hc, h3 c hc]
  split <;> omega

/-- Whether all names of a stub file are identifiers: the namespace, the objects, and the properties as they are written
out. -/
structure Named (naming : Naming) (objects : List Object) : Prop where
  spaceName : Identifier.isAscii naming.spaceName = true
  object : ∀ object ∈ objects, Identifier.isAscii object.name = true
  property : ∀ object ∈ objects, ∀ property ∈ object.properties,
    Identifier.isAscii (naming.propertyName property.name) = true

instance decNamed (naming : Naming) (objects : List Object) : Decidable (Named naming objects) :=
  decidable_of_iff (_ ∧ _ ∧ _) ⟨fun h => ⟨h.1, h.2.1, h.2.2⟩, fun h => ⟨h.1, h.2, h.3⟩⟩

/-- The line terminators of a stub file are the line feeds of its rules and what its comments hold. -/
theorem count_ofModel (hc : c ∈ lineTerminators) {objects : List Object} (h : Named naming objects) :
    (ofModel naming objects).count c =
      (if c = '\n' then 1 + (objects.map fun object => 3 + 2 * object.properties.length).sum else 0) +
        (objects.map fun object =>
          (object.properties.map fun property => (Comment.ofProperty object property).count c).sum).sum := by
  obtain ⟨hs, ho, hp⟩ := h
  have hobjects : (objects.flatMap (ofObject naming)).count c =
      (if c = '\n' then (objects.map fun object => 3 + 2 * object.properties.length).sum else 0) +
        (objects.map fun object =>
          (object.properties.map fun property => (Comment.ofProperty object property).count c).sum).sum := by
    induction objects with
    | nil => simp
    | cons object rest ih =>
      rw [List.flatMap_cons, List.count_append,
        count_ofObject hc hs (ho object List.mem_cons_self) (hp object List.mem_cons_self),
        ih (fun o hm => ho o (List.mem_cons_of_mem _ hm)) (fun o hm => hp o (List.mem_cons_of_mem _ hm)),
        List.map_cons, List.sum_cons, List.map_cons, List.sum_cons]
      split <;> omega
  have h1 : EndsLines "var ".toList 0 := by decide
  have h2 : EndsLines " = ".toList 0 := by decide
  have h3 : EndsLines " || \x7b\x7d;\n".toList 1 := by decide
  delta ofModel
  simp only [List.count_append, endsLines_of_isAscii hs c hc, hobjects, h1 c hc, h2 c hc, h3 c hc]
  split <;> omega

/-! ## What comments hold -/

/-- Of line terminators, a comment holds what its text has between two characters that are not white space, with no line
break beside it. -/
theorem mem_comment_iff (hc : c ∈ lineTerminators) (owner : Object) (property : Property) :
    c ∈ Comment.ofProperty owner property ↔
      Between c (property.summary.getD (Comment.defaultSentence owner property)) := by
  have hb := isBlank_of_mem_lineTerminators hc
  have hs : c ≠ ' ' := by
    rintro rfl
    exact absurd hc (by decide)
  rw [← Comment.mem_flatten_iff hb hs, ← List.count_pos_iff, Comment.ofProperty, Comment.count_escape hb,
    List.count_pos_iff]

/-- A comment holds no line break. -/
theorem count_comment_of_isLineBreak (hc : c ∈ lineTerminators) (hl : Comment.isLineBreak c = true) (owner : Object)
    (property : Property) : (Comment.ofProperty owner property).count c = 0 := by
  rw [List.count_eq_zero, mem_comment_iff hc]
  exact Comment.not_between_of_isLineBreak hl _

/-- Where all names are identifiers, a stub file has the line feeds of its rules and no other, and no carriage return. It
has a line separator or a paragraph separator exactly if the text of some comment has one between two characters that are
not white space, with no line break beside it. -/
theorem lineTerminators_ofModel (naming : Naming) (objects : List Object) (h : Named naming objects) :
    (ofModel naming objects).count '\n' = 1 + (objects.map fun object => 3 + 2 * object.properties.length).sum ∧
      '\r' ∉ ofModel naming objects ∧
      ∀ c, c = '\u2028' ∨ c = '\u2029' → (c ∈ ofModel naming objects ↔
        ∃ object ∈ objects, ∃ property ∈ object.properties,
          Between c (property.summary.getD (Comment.defaultSentence object property))) := by
  have hzero : ∀ c ∈ lineTerminators, Comment.isLineBreak c = true → (objects.map fun object =>
      (object.properties.map fun property => (Comment.ofProperty object property).count c).sum).sum = 0 := by
    intro c hc hl
    rw [List.sum_eq_zero_iff_forall_eq_nat, List.forall_mem_map]
    intro object _
    rw [List.sum_eq_zero_iff_forall_eq_nat, List.forall_mem_map]
    exact fun property _ => count_comment_of_isLineBreak hc hl object property
  refine ⟨?_, ?_, ?_⟩
  · rw [count_ofModel (by decide) h, if_pos rfl, hzero _ (by decide) (by decide), Nat.add_zero]
  · rw [← List.count_eq_zero, count_ofModel (by decide) h, if_neg (by decide), hzero _ (by decide) (by decide)]
  · intro c hsep
    have hc : c ∈ lineTerminators := by rcases hsep with rfl | rfl <;> decide
    have hn : c ≠ '\n' := by rcases hsep with rfl | rfl <;> decide
    rw [← List.count_pos_iff, count_ofModel hc h, if_neg hn, Nat.zero_add]
    simp [← mem_comment_iff hc, List.sum_pos_iff_exists_pos_nat]

/-- A model with one object, of which one property has a summary with a line separator in it. -/
def separated : List Object :=
  [⟨"Order".toList, "Shop.Order".toList,
    [⟨"Note".toList, "string".toList, some "first\u2028alert(1)".toList⟩, ⟨"Total".toList, "decimal".toList, none⟩]⟩]

/-- In the stubs of that model there are the eight line feeds of the rules, no carriage return and a line separator. -/
theorem lineTerminators_separated :
    Named Naming.standard separated ∧ (ofModel Naming.standard separated).count '\n' = 8 ∧
      '\r' ∉ ofModel Naming.standard separated ∧ '\u2028' ∈ ofModel Naming.standard separated := by
  have hn : Named Naming.standard separated := by decide +kernel
  obtain ⟨hf, hr, hs⟩ := lineTerminators_ofModel Naming.standard separated hn
  refine ⟨hn, hf, hr, (hs '\u2028' (Or.inl rfl)).mpr ?_⟩
  have hrun : ∀ d ∈ ['\u2028'], isBlank d = true ∧ Comment.isLineBreak d = false := by
    intro d hd
    rw [List.mem_singleton.mp hd]
    decide
  exact ⟨_, List.mem_singleton_self _, _, List.mem_cons_self, "firs".toList, 't', ['\u2028'], 'a', "lert(1)".toList,
    by decide, by decide, by decide, hrun, by decide⟩

/-- Identifiers for names do not keep the line terminators of summaries out of a stub file. -/
theorem comment_ends_its_line :
    ¬∀ naming objects, Named naming objects → ∀ c ∈ lineTerminators, c ≠ '\n' → c ∉ ofModel naming objects := by
  intro h
  have hn : Named Naming.standard separated := by decide +kernel
  have hm : '\u2028' ∈ ofModel Naming.standard separated := by decide +kernel
  exact h _ _ hn '\u2028' (by decide) (by decide) hm

end Stub

end ModelStubs
