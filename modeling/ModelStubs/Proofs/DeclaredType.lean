import ModelStubs.Proofs.Descriptor
import ModelStubs.Proofs.GenericForm

/-!
# The rules for declared types

The type of a declaration is given by five rules, each stated by how the text of the descriptor can be put together and
none by how it is searched. The first rule that gives anything decides (`declaredType_eq_iff`). Whichever it is, the type is
made of letters, angles and characters of the descriptor (`written_of_mem_declaredType`).
-/

namespace ModelStubs.Descriptor

open Text (EndRun StartRun LastPart)

/-- How an argument is named as the element of a collection: a scalar by its name, and anything else by its last part. -/
def ElementName (arg element : Text) : Prop :=
  (∃ s, Scalar.ofText? arg = some s ∧ element = s.name) ∨ Scalar.ofText? arg = none ∧ LastPart '.' arg element

/-- The longest run of letters directly before a pair of brackets that ends the text, if there is a letter. -/
def BracketElement (t element : Text) : Prop :=
  ∃ body, t = body ++ "[]".toList ∧ EndRun body element ∧ element ≠ []

/-- The letters that end a text, or else those that open its part after the last dot, or else `any`. -/
def BareName (t name : Text) : Prop :=
  EndRun t name ∧ name ≠ [] ∨ EndRun t [] ∧ ∃ part, LastPart '.' t part ∧
    (StartRun part name ∧ name ≠ [] ∨ StartRun part [] ∧ name = anyName)

/-- The rules for the type of a declaration. -/
inductive Rule
  | scalar
  | collection
  | brackets
  | generic
  | bare

namespace Rule

/-- The rules in the order in which they are tried. -/
def all : List Rule := [scalar, collection, brackets, generic, bare]

/-- `type` is what a rule gives for a text. -/
def Gives (t type : Text) : Rule → Prop
  | scalar => ∃ s, Scalar.ofText? t = some s ∧ type = s.name
  | collection => (collectionNamespace <:+: t ∨ "Array".toList <:+: t) ∧
      ∃ form, FirstReading (fun before => ['.'] <:+ before) t form ∧
        ∃ element, ElementName form.arg element ∧ type = arrayOf element
  | brackets => "[]".toList <:+: t ∧
      ∃ element, (BracketElement t element ∨ (¬∃ e, BracketElement t e) ∧ element = anyName) ∧ type = arrayOf element
  | generic => ∃ form, FirstReading (fun _ => True) t form ∧
      ((∃ s, Scalar.ofText? form.arg = some s ∧ type = form.name ++ s.name) ∨
        Scalar.ofText? form.arg = none ∧ type = form.written)
  | bare => BareName t type

/-- The first rule of a list that gives anything for a text gives `type`. -/
def FirstGives (t type : Text) : List Rule → Prop
  | [] => False
  | rule :: rest => rule.Gives t type ∨ (¬∃ other, rule.Gives t other) ∧ FirstGives t type rest

/-- What a rule gives, as the reading of a descriptor finds it. -/
def answer? (t : Text) : Rule → Option Text
  | scalar => (Scalar.ofText? t).map Scalar.name
  | collection => (if mentionsCollection t then qualifiedGeneric? t else none).map fun form =>
      (Descriptor.collection form.name (.ofText form.arg)).declared
  | brackets => if mentionsBrackets t then some (Descriptor.array ((bracketElement? t).getD anyName)).declared else none
  | generic => (generic? t).map fun form =>
      (Descriptor.generic form.name (.ofText form.arg) form.written).declared
  | bare => some (bareName t)

end Rule

/-! ## What the parts of a reading find -/

/-- The element of a collection is its argument by name, and that name is found. -/
theorem exists_declared_collection (name arg : Text) :
    ∃ element, (Descriptor.collection name (.ofText arg)).declared = arrayOf element ∧ ElementName arg element := by
  cases h : Scalar.ofText? arg with
  | some s => exact ⟨s.name, by rw [Argument.ofText, h]; rfl, Or.inl ⟨s, h, rfl⟩⟩
  | none => exact ⟨_, by rw [Argument.ofText, h]; rfl, Or.inr ⟨h, Text.lastPart_afterLast '.' arg⟩⟩

/-- An argument is named in one way. -/
theorem ElementName.unique {arg a b : Text} (ha : ElementName arg a) (hb : ElementName arg b) : a = b := by
  rcases ha with ⟨s, hs, rfl⟩ | ⟨hs, ha⟩
  · rcases hb with ⟨s', hs', rfl⟩ | ⟨hs', -⟩
    · rw [Option.some.inj (hs.symm.trans hs')]
    · nomatch hs.symm.trans hs'
  · rcases hb with ⟨s', hs', -⟩ | ⟨-, hb⟩
    · nomatch hs.symm.trans hs'
    · rw [← (Text.lastPart_iff _ _ _).mp ha, ← (Text.lastPart_iff _ _ _).mp hb]

/-- A collection is declared as an array of the element that its argument names. -/
theorem declared_collection_iff (name arg type : Text) :
    (Descriptor.collection name (.ofText arg)).declared = type ↔
      ∃ element, ElementName arg element ∧ type = arrayOf element := by
  obtain ⟨element, he, hn⟩ := exists_declared_collection name arg
  rw [he]
  constructor
  · rintro rfl
    exact ⟨element, hn, rfl⟩
  · rintro ⟨other, ho, rfl⟩
    rw [hn.unique ho]

/-- A generic type is declared by its name and that of a scalar argument, and as written if the argument is none. -/
theorem declared_generic_iff (form : GenericForm) (type : Text) :
    (Descriptor.generic form.name (.ofText form.arg) form.written).declared = type ↔
      (∃ s, Scalar.ofText? form.arg = some s ∧ type = form.name ++ s.name) ∨
        Scalar.ofText? form.arg = none ∧ type = form.written := by
  rw [Argument.ofText]
  cases h : Scalar.ofText? form.arg with
  | some s =>
    rw [show (Descriptor.generic form.name (.scalar s) form.written).declared = form.name ++ s.name from rfl]
    simp [eq_comm]
  | none =>
    rw [show (Descriptor.generic form.name (.raw form.arg) form.written).declared = form.written from rfl]
    simp [eq_comm]

/-- The element before the brackets is what the rule of brackets says it is. -/
theorem bracketElement?_eq_some_iff (t element : Text) : bracketElement? t = some element ↔ BracketElement t element := by
  simp only [bracketElement?, BracketElement, Text.endRun_iff, Option.bind_eq_bind, Option.bind_eq_some_iff,
    Text.dropLast?_eq_some_iff]
  constructor
  · rintro ⟨opened, rfl, body, rfl, h⟩
    split at h
    · nomatch h
    · rename_i hne
      cases h
      exact ⟨body, by simp, rfl, hne⟩
  · rintro ⟨body, rfl, rfl, hne⟩
    exact ⟨body ++ ['['], by simp, body, rfl, by rw [if_neg hne]⟩

/-- The bare name of a text is what the rule of bare names says it is. -/
theorem bareName_eq_iff (t name : Text) : bareName t = name ↔ BareName t name := by
  simp only [BareName, Text.endRun_iff, Text.startRun_iff, Text.lastPart_iff, exists_eq_left']
  rw [bareName]
  split
  · rename_i h
    constructor
    · rintro rfl
      exact Or.inl ⟨rfl, h⟩
    · rintro (⟨he, -⟩ | ⟨he, -⟩)
      · exact he
      · exact absurd he h
  · rename_i h
    replace h : Text.lettersAtEnd t = [] := Decidable.not_not.mp h
    split
    · rename_i hs
      constructor
      · rintro rfl
        exact Or.inr ⟨h, Or.inl ⟨rfl, hs⟩⟩
      · rintro (⟨he, hne⟩ | ⟨-, ⟨he, -⟩ | ⟨he, -⟩⟩)
        · exact absurd (he.symm.trans h) hne
        · exact he
        · exact absurd he hs
    · rename_i hs
      replace hs := Decidable.not_not.mp hs
      constructor
      · rintro rfl
        exact Or.inr ⟨h, Or.inr ⟨hs, rfl⟩⟩
      · rintro (⟨he, hne⟩ | ⟨-, ⟨he, hne⟩ | ⟨-, he⟩⟩)
        · exact absurd (he.symm.trans h) hne
        · exact absurd (he.symm.trans hs) hne
        · exact he.symm

/-! ## The first rule that gives anything -/

namespace Rule

/-- A rule gives what the reading of a descriptor finds by it. -/
theorem gives_iff (rule : Rule) (t type : Text) : rule.Gives t type ↔ rule.answer? t = some type := by
  cases rule with
  | scalar => cases h : Scalar.ofText? t <;> simp [Gives, answer?, h, eq_comm]
  | collection =>
    by_cases hm : mentionsCollection t = true
    · have hm' := (mentionsCollection_iff t).mp hm
      simp only [Gives, answer?, hm, hm', if_true, true_and, Option.map_eq_some_iff, qualifiedGeneric?_eq_some_iff]
      exact exists_congr fun form => and_congr_right fun _ => (declared_collection_iff _ _ _).symm
    · have hm' := mt (mentionsCollection_iff t).mpr hm
      simp only [Gives, answer?, hm, hm', false_and, if_false, Option.map_none, reduceCtorEq]
  | brackets =>
    by_cases hm : mentionsBrackets t = true
    · have hm' := (mentionsBrackets_iff t).mp hm
      simp only [Gives, answer?, hm, hm', if_true, true_and, Option.some.injEq, ← bracketElement?_eq_some_iff]
      cases h : bracketElement? t <;> simp [eq_comm]
    · have hm' := mt (mentionsBrackets_iff t).mpr hm
      simp only [Gives, answer?, hm, hm', false_and, if_false, reduceCtorEq]
  | generic =>
    simp only [Gives, answer?, Option.map_eq_some_iff, generic?_eq_some_iff, declared_generic_iff]
  | bare => simp only [Gives, answer?, Option.some.injEq, bareName_eq_iff]

/-- The first rule that gives a type gives the first of the answers. -/
theorem firstGives_iff (rules : List Rule) (t type : Text) :
    FirstGives t type rules ↔ rules.findSome? (answer? t) = some type := by
  induction rules with
  | nil => simp [FirstGives]
  | cons rule rest ih =>
    simp only [FirstGives, gives_iff, ih, List.findSome?_cons]
    cases rule.answer? t <;> simp

/-- The reading of a descriptor tries the rules in their order. -/
theorem findSome?_answer? (t : Text) : all.findSome? (answer? t) = some (ofPlain t).declared := by
  rw [ofPlain]
  cases hs : Scalar.ofText? t with
  | some s => simp [all, answer?, hs]
  | none =>
    cases hc : if mentionsCollection t then qualifiedGeneric? t else none with
    | some form => simp [all, answer?, hs, hc]
    | none =>
      cases hb : mentionsBrackets t with
      | true => simp [all, answer?, hs, hc, hb]
      | false => cases hg : generic? t <;> simp [all, answer?, hs, hc, hb, hg]

end Rule

/-! ## The characters of a type -/

/-- Whether a character comes from a text, or is one that the rules write: a letter or an angle. -/
def Written (t : Text) (c : Char) : Prop := c ∈ t ∨ Text.isLetter c = true ∨ c = '<' ∨ c = '>'

theorem isWord_name (s : Scalar) : Text.IsWord s.name := by cases s <;> decide

theorem isWord_anyName : Text.IsWord anyName := by decide

/-- What a reading finds is a piece of the text. -/
theorem Reads.written_infix {t before : Text} {form : GenericForm} (h : Reads t before form) : form.written <:+: t := by
  rw [h.text]
  exact (List.suffix_append before _).isInfix

/-- An array has no other characters than its element, beside letters and angles. -/
theorem written_of_mem_arrayOf {t element : Text} (h : ∀ c ∈ element, Written t c) : ∀ c ∈ arrayOf element, Written t c := by
  have hopening : ∀ c ∈ arrayOpening, Written t c := by
    have hall : (arrayOpening.all fun c => Text.isLetter c || c = '<') = true := by decide
    intro c hc
    rcases Bool.or_eq_true_iff.mp (List.all_eq_true.mp hall c hc) with hl | hl
    · exact Or.inr (Or.inl hl)
    · exact Or.inr (Or.inr (Or.inl (of_decide_eq_true hl)))
  intro c hc
  rw [arrayOf, List.mem_append, List.mem_append, List.mem_singleton] at hc
  rcases hc with (hc | hc) | rfl
  · exact hopening c hc
  · exact h c hc
  · exact Or.inr (Or.inr (Or.inr rfl))

/-- A rule makes a type of letters, angles, and pieces of the text. -/
theorem Rule.written_of_gives {rule : Rule} {t type : Text} (h : rule.Gives t type) : ∀ c ∈ type, Written t c := by
  intro c hc
  cases rule with
  | scalar =>
    obtain ⟨s, -, rfl⟩ := h
    exact Or.inr (Or.inl ((isWord_name s).letters c hc))
  | collection =>
    obtain ⟨-, form, ⟨before, -, hr, -⟩, element, he, rfl⟩ := h
    refine written_of_mem_arrayOf (fun d hd => ?_) c hc
    rcases he with ⟨s, -, rfl⟩ | ⟨-, hlast⟩
    · exact Or.inr (Or.inl ((isWord_name s).letters d hd))
    · have harg : d ∈ form.written := by
        rw [GenericForm.written]
        simp [hlast.isInfix.subset hd]
      exact Or.inl (hr.written_infix.subset harg)
  | brackets =>
    obtain ⟨-, element, he, rfl⟩ := h
    refine written_of_mem_arrayOf (fun d hd => ?_) c hc
    rcases he with ⟨body, rfl, hrun, -⟩ | ⟨-, rfl⟩
    · exact Or.inr (Or.inl (hrun.letters d hd))
    · exact Or.inr (Or.inl (isWord_anyName.letters d hd))
  | generic =>
    obtain ⟨form, ⟨before, -, hr, -⟩, ⟨s, -, rfl⟩ | ⟨-, rfl⟩⟩ := h
    · rcases List.mem_append.mp hc with hc | hc
      · exact Or.inr (Or.inl (hr.name.letters c hc))
      · exact Or.inr (Or.inl ((isWord_name s).letters c hc))
    · exact Or.inl (hr.written_infix.subset hc)
  | bare =>
    rcases h with ⟨hrun, -⟩ | ⟨-, part, -, ⟨hrun, -⟩ | ⟨-, rfl⟩⟩
    · exact Or.inr (Or.inl (hrun.letters c hc))
    · exact Or.inr (Or.inl (hrun.letters c hc))
    · exact Or.inr (Or.inl (isWord_anyName.letters c hc))

/-- The type of a declaration consists of letters, angles, and characters of its descriptor other than the marks of
nullability. -/
theorem written_of_mem_declaredType {t : Text} {c : Char} (h : c ∈ declaredType t) : Written (dropNullable t) c := by
  obtain ⟨rule, -, hr⟩ := List.exists_of_findSome?_eq_some (Rule.findSome?_answer? (dropNullable t))
  exact Rule.written_of_gives ((Rule.gives_iff rule _ _).mpr hr) c h

/-- The type of a declaration is what the first rule that gives anything gives for the descriptor without its marks of
nullability. -/
theorem declaredType_eq_iff (t type : Text) :
    declaredType t = type ↔ Rule.FirstGives (dropNullable t) type Rule.all := by
  rw [Rule.firstGives_iff, Rule.findSome?_answer?, Option.some.injEq, declaredType, ofText]

end ModelStubs.Descriptor
