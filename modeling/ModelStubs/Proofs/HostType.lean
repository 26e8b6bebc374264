import ModelStubs.Proofs.DeclaredType

/-!
# Host types and balanced angles

The types that a host type system writes are nested without limit, but a descriptor is read one level deep. The angles of
the type that is declared for one are balanced unless the reading of a collection tears a pair apart
(`balanced_declaredType_iff`): the name it takes up lies inside another type, whose closing angle it keeps, or the dot at
which it cuts the argument lies inside a type of the argument, whose opening angle it loses. Such a type is
`List<Pair<Shop.Order>>` of the collection namespace (`declaredType_not_balanced`).
-/

namespace ModelStubs

open Text (isLetter IsWord)

/-! ## Balanced angles -/

/-- No first part of a text closes more angles than it opens, and all that it opens are closed. -/
structure Balanced (t : Text) : Prop where
  prefixes : ∀ p, p <+: t → p.count '>' ≤ p.count '<'
  total : t.count '<' = t.count '>'

namespace Balanced

theorem of_not_mem {t : Text} (ho : '<' ∉ t) (hc : '>' ∉ t) : Balanced t := by
  refine ⟨fun p hp => ?_, ?_⟩
  · rw [List.count_eq_zero.mpr fun h => hc (hp.subset h)]
    exact Nat.zero_le _
  · rw [List.count_eq_zero.mpr ho, List.count_eq_zero.mpr hc]

theorem of_letters {t : Text} (h : ∀ c ∈ t, isLetter c = true) : Balanced t :=
  of_not_mem (fun hm => absurd (h _ hm) (by decide)) fun hm => absurd (h _ hm) (by decide)

theorem append {a b : Text} (ha : Balanced a) (hb : Balanced b) : Balanced (a ++ b) := by
  refine ⟨fun p hp => ?_, ?_⟩
  · rcases Nat.le_total p.length a.length with hl | hl
    · exact ha.prefixes p (List.prefix_of_prefix_length_le hp (List.prefix_append a b) hl)
    · obtain ⟨rest, rfl⟩ := List.prefix_of_prefix_length_le (List.prefix_append a b) hp hl
      have hr := hb.prefixes rest ((List.prefix_append_right_inj a).mp hp)
      have := ha.total
      simp only [List.count_append]
      omega
  · simp only [List.count_append, ha.total, hb.total]

/-- A balanced text between a pair of angles is balanced. -/
theorem enclosed {t : Text} (h : Balanced t) : Balanced ('<' :: t ++ ['>']) := by
  have ht := h.total
  refine ⟨fun p hp => ?_, by simp [ht]⟩
  rw [List.cons_append, List.prefix_cons_iff] at hp
  rcases hp with rfl | ⟨p, rfl, hp⟩
  · exact Nat.le_refl _
  · rcases List.prefix_concat_iff.mp hp with rfl | hp
    · simp [ht]
    · have := h.prefixes p hp
      simp
      omega

/-- The array of a balanced element is balanced. -/
theorem arrayOf {element : Text} (h : Balanced element) : Balanced (Descriptor.arrayOf element) := by
  have hname : IsWord "Array".toList := by decide
  have he : Descriptor.arrayOf element = "Array".toList ++ ('<' :: element ++ ['>']) := rfl
  rw [he]
  exact (of_letters hname.letters).append h.enclosed

theorem scalarName (s : Scalar) : Balanced s.name := of_letters (Descriptor.isWord_name s).letters

theorem anyName : Balanced Descriptor.anyName := of_letters Descriptor.isWord_anyName.letters

/-- The element in front of brackets is balanced whatever the text is, and so is the name of anything in its place. -/
theorem bracketElement (t : Text) : Balanced ((Descriptor.bracketElement? t).getD Descriptor.anyName) := by
  cases h : Descriptor.bracketElement? t with
  | none => exact anyName
  | some element =>
    obtain ⟨body, -, hrun, -⟩ := (Descriptor.bracketElement?_eq_some_iff t element).mp h
    exact of_letters hrun.letters

theorem bareName (t : Text) : Balanced (Descriptor.bareName t) := by
  rcases (Descriptor.bareName_eq_iff t _).mp rfl with ⟨hrun, -⟩ | ⟨-, part, -, ⟨hrun, -⟩ | ⟨-, hany⟩⟩
  · exact of_letters hrun.letters
  · exact of_letters hrun.letters
  · rw [hany]
    exact anyName

end Balanced

/-- Only a collection can be declared with angles that are not balanced, if those of the generic form are. -/
theorem balanced_declared_ofPlain {t : Text}
    (hc : Descriptor.mentionsCollection t = true → Descriptor.qualifiedGeneric? t = none)
    (hg : ∀ form, Descriptor.generic? t = some form →
      Balanced (Descriptor.generic form.name (.ofText form.arg) form.written).declared) :
    Balanced (Descriptor.ofPlain t).declared := by
  rw [Descriptor.ofPlain]
  cases hs : Scalar.ofText? t with
  | some s => exact Balanced.scalarName s
  | none =>
    have hq : (if Descriptor.mentionsCollection t then Descriptor.qualifiedGeneric? t else none) = none := by
      split
      · rename_i hm
        exact hc hm
      · rfl
    simp only [hq]
    split
    · exact (Balanced.bracketElement t).arrayOf
    · split
      · rename_i form hf
        exact hg form hf
      · exact Balanced.bareName t

/-! ## Host types -/

/-- A dotted path of identifiers made of letters, the last of them apart. -/
structure QualifiedName where
  qualifier : List Text
  last : Text
  words : ∀ word ∈ last :: qualifier, IsWord word

namespace QualifiedName

/-- The qualifier with a dot after each of its identifiers. -/
def dotted (name : QualifiedName) : Text := name.qualifier.flatMap (· ++ ['.'])

def text (name : QualifiedName) : Text := name.dotted ++ name.last

theorem last_word (name : QualifiedName) : IsWord name.last := name.words _ List.mem_cons_self

theorem last_letters (name : QualifiedName) : ∀ c ∈ name.last, isLetter c = true := name.last_word.letters

/-- Every character of a dotted path is a letter or a dot. -/
theorem isLetter_or_dot (name : QualifiedName) : ∀ c ∈ name.text, isLetter c = true ∨ c = '.' := by
  intro c hc
  rcases List.mem_append.mp hc with hc | hc
  · obtain ⟨word, hw, hc⟩ := List.mem_flatMap.mp hc
    rcases List.mem_append.mp hc with hc | hc
    · exact Or.inl ((name.words word (List.mem_cons_of_mem _ hw)).letters c hc)
    · exact Or.inr (List.mem_singleton.mp hc)
  · exact Or.inl (name.last_letters c hc)

/-- A character that is neither a letter nor a dot is not in a dotted path. -/
theorem not_mem_text (name : QualifiedName) {c : Char} (hl : isLetter c = false) (hd : c ≠ '.') : c ∉ name.text := by
  intro hc
  rcases name.isLetter_or_dot c hc with h | h
  · rw [hl] at h
    nomatch h
  · exact hd h

/-- What is no letter, no dot and no bracket is not in a name with brackets. -/
theorem not_mem_array (name : QualifiedName) {c : Char} (hl : isLetter c = false) (hd : c ≠ '.')
    (hb : c ∉ "[]".toList) : c ∉ name.text ++ "[]".toList := by
  rw [List.mem_append, not_or]
  exact ⟨name.not_mem_text hl hd, hb⟩

/-- The qualifier ends in a dot, if there is one. -/
theorem dotted_eq (name : QualifiedName) (h : name.qualifier ≠ []) : ∃ before, name.dotted = before ++ ['.'] := by
  obtain ⟨words, word, hw⟩ := (List.eq_nil_or_concat name.qualifier).resolve_left h
  refine ⟨words.flatMap (· ++ ['.']) ++ word, ?_⟩
  rw [dotted, hw]
  simp

/-- The qualifier of a path that has none is written as nothing. -/
theorem dotted_eq_nil (name : QualifiedName) (h : name.qualifier = []) : name.dotted = [] := by
  rw [dotted, h]
  rfl

end QualifiedName

/-- A type as the host type system writes it: a name, a name with a type for an argument, or a name with brackets. -/
inductive HostType
  | plain (name : QualifiedName)
  | generic (name : QualifiedName) (arg : HostType)
  | array (name : QualifiedName)

namespace HostType

def text : HostType → Text
  | plain name => name.text
  | generic name arg => name.text ++ '<' :: arg.text ++ ['>']
  | array name => name.text ++ "[]".toList

/-- The text up to the closing angles that end it. -/
def opened : HostType → Text
  | plain name => name.text
  | generic name arg => name.text ++ '<' :: arg.opened
  | array name => name.text ++ "[]".toList

/-- The number of closing angles that end the text. -/
def depth : HostType → Nat
  | generic _ arg => arg.depth + 1
  | _ => 0

/-- Whether some name that has an argument is a qualified one. -/
def AppliesQualified : HostType → Prop
  | generic name arg => name.qualifier ≠ [] ∨ arg.AppliesQualified
  | _ => False

/-- Whether a dot stands inside the argument. -/
def DotInArgument : HostType → Prop
  | generic _ arg => '.' ∈ arg.text
  | _ => False

/-- Whether the reading of a collection tears a pair of angles apart: the outer name is qualified and a dot stands inside
the argument of its argument, or it is not and a name further inside is qualified and has an argument. -/
def Torn (type : HostType) : Prop :=
  (Descriptor.collectionNamespace <:+: type.text ∨ "Array".toList <:+: type.text) ∧
  match type with
  | generic name arg => (name.qualifier ≠ [] ∧ arg.DotInArgument) ∨ (name.qualifier = [] ∧ arg.AppliesQualified)
  | _ => False

/-- A host type is written as its opened part and one closing angle for each level of its depth. -/
theorem text_eq (type : HostType) : type.text = type.opened ++ List.replicate type.depth '>' := by
  induction type with
  | plain name => simp [text, opened, depth]
  | array name => simp [text, opened, depth]
  | generic name arg ih => simp [text, opened, depth, ih, List.replicate_succ']

/-- No angle closes in the opened part of a host type. -/
theorem not_mem_opened (type : HostType) : '>' ∉ type.opened := by
  induction type with
  | plain name => exact name.not_mem_text (by decide) (by decide)
  | array name => exact name.not_mem_array (by decide) (by decide) (by decide)
  | generic name arg ih =>
    rw [opened, List.mem_append, List.mem_cons, not_or, not_or]
    exact ⟨name.not_mem_text (by decide) (by decide), by decide, ih⟩

/-- The opened part of a host type opens as many angles as the type is deep. -/
theorem count_opened (type : HostType) : type.opened.count '<' = type.depth := by
  have hn : ∀ name : QualifiedName, name.text.count '<' = 0 := fun name =>
    List.count_eq_zero.mpr (name.not_mem_text (by decide) (by decide))
  induction type with
  | plain name => exact hn name
  | array name =>
    rw [opened, List.count_append, hn]
    rfl
  | generic name arg ih => simp [opened, depth, hn, ih]

theorem text_ne_nil (type : HostType) : type.text ≠ [] := by
  have hn : ∀ name : QualifiedName, name.text ≠ [] := fun name h =>
    name.last_word.ne_nil (List.append_eq_nil_iff.mp h).2
  cases type with
  | plain name => exact hn name
  | array name => exact fun h => hn name (List.append_eq_nil_iff.mp h).1
  | generic name arg => simp [text]

/-- The mark of a nullable type is not in a host type. -/
theorem not_mem_nullable (type : HostType) : '?' ∉ type.text := by
  have hn : ∀ name : QualifiedName, '?' ∉ name.text := fun name => name.not_mem_text (by decide) (by decide)
  induction type with
  | plain name => exact hn name
  | array name => exact name.not_mem_array (by decide) (by decide) (by decide)
  | generic name arg ih => simp [text, hn, ih]

/-- The declared type of a host type is that of its plain text: there is no mark to take off. -/
theorem declaredType_text (type : HostType) :
    Descriptor.declaredType type.text = (Descriptor.ofPlain type.text).declared := by
  rw [Descriptor.declaredType, Descriptor.ofText, Descriptor.dropNullable_eq_self type.not_mem_nullable]

/-- The angles of a host type as written are balanced. -/
theorem balanced_text (type : HostType) : Balanced type.text := by
  have hn : ∀ name : QualifiedName, Balanced name.text := fun name =>
    Balanced.of_not_mem (name.not_mem_text (by decide) (by decide)) (name.not_mem_text (by decide) (by decide))
  induction type with
  | plain name => exact hn name
  | array name => exact (hn name).append (Balanced.of_not_mem (by decide) (by decide))
  | generic name arg ih =>
    rw [text, List.append_assoc]
    exact (hn name).append ih.enclosed

/-! ## What the searches find in a host type -/

section Search

variable {accept : Text → Bool} {seen rest : Text}

/-- What the search makes of a name with an argument: it stops there if it accepts what stands before the last identifier,
and goes on inside the argument otherwise. Before the last identifier stands a dot, or what was passed before the name. -/
theorem genericFrom_name (name : QualifiedName) (hs : ∀ c ∈ seen.head?, isLetter c = false) (hr : rest ≠ []) :
    Descriptor.genericFrom accept seen (name.text ++ '<' :: rest) =
      if accept (name.dotted.reverse ++ seen) then some ⟨name.last, rest⟩
      else Descriptor.genericFrom accept ('<' :: (name.text.reverse ++ seen)) rest := by
  have hangle : '<' ∉ name.dotted := fun hm =>
    name.not_mem_text (by decide) (by decide) (List.mem_append_left _ hm)
  have hbefore : ∀ c ∈ (name.dotted.reverse ++ seen).head?, isLetter c = false := by
    by_cases hq : name.qualifier = []
    · rw [name.dotted_eq_nil hq]
      exact hs
    · obtain ⟨before, hd⟩ := name.dotted_eq hq
      rw [hd]
      simp
      decide
  exact Descriptor.genericFrom_name hangle name.last_word hbefore hr

/-- The test of the search for qualified names. -/
def afterDot (before : Text) : Bool := before.head? = some '.'

/-- The written qualifier puts a dot in front of the last identifier if and only if there is a qualifier. -/
theorem afterDot_dotted (name : QualifiedName) (hs : seen.head? ≠ some '.') :
    afterDot (name.dotted.reverse ++ seen) = true ↔ name.qualifier ≠ [] := by
  by_cases hq : name.qualifier = []
  · simp [afterDot, name.dotted_eq_nil hq, hs, hq]
  · obtain ⟨before, hd⟩ := name.dotted_eq hq
    simp [afterDot, hd, hq]

/-- The closing angle of a generic type joins those that stand behind it. -/
theorem closed_text (name : QualifiedName) (arg : HostType) (k : Nat) :
    (generic name arg).text ++ List.replicate k '>' = name.text ++ '<' :: (arg.text ++ List.replicate (k + 1) '>') := by
  simp [text, List.replicate_succ]

/-- What stands before a name: nothing, or the angle that opens the argument it is. -/
def BeforeName (seen : Text) : Prop := seen = [] ∨ ∃ before, seen = '<' :: before

theorem beforeName_nil : BeforeName [] := Or.inl rfl

/-- What stands before a name does not end in a letter. -/
theorem BeforeName.not_letter (h : BeforeName seen) : ∀ c ∈ seen.head?, isLetter c = false := by
  rcases h with rfl | ⟨before, rfl⟩
  · nofun
  · rintro c ⟨⟩
    decide

/-- What stands before a name does not end in a dot. -/
theorem BeforeName.not_dot (h : BeforeName seen) : seen.head? ≠ some '.' := by
  rcases h with rfl | ⟨before, rfl⟩
  · nofun
  · simp

/-- Inside other types the search finds an argument with more closing angles after it than were there before. -/
theorem genericFrom_of_appliesQualified {type : HostType} (h : type.AppliesQualified) (hs : BeforeName seen) (k : Nat) :
    ∃ last inner n, k < n ∧ Descriptor.genericFrom afterDot seen (type.text ++ List.replicate k '>') =
      some ⟨last, text inner ++ List.replicate n '>'⟩ := by
  induction type generalizing seen k with
  | plain name => exact h.elim
  | array name => exact h.elim
  | generic name arg ih =>
    have hne : arg.text ++ List.replicate (k + 1) '>' ≠ [] := by simp
    rw [closed_text, genericFrom_name name hs.not_letter hne]
    by_cases hq : name.qualifier = []
    · rw [if_neg (by rw [afterDot_dotted name hs.not_dot]; exact not_not_intro hq)]
      obtain ⟨last, inner, n, hn, hf⟩ := ih (h.resolve_left (not_not_intro hq)) (Or.inr ⟨_, rfl⟩) (k + 1)
      exact ⟨last, inner, n, by omega, hf⟩
    · rw [if_pos ((afterDot_dotted name hs.not_dot).mpr hq)]
      exact ⟨name.last, arg, k + 1, Nat.lt_succ_self k, rfl⟩

/-- The search for a qualified name finds nothing in a host type where no qualified name has an argument. -/
theorem genericFrom_of_not_appliesQualified {type : HostType} (h : ¬type.AppliesQualified) (hs : BeforeName seen)
    (k : Nat) : Descriptor.genericFrom afterDot seen (type.text ++ List.replicate k '>') = none := by
  induction type generalizing seen k with
  | plain name =>
    apply Descriptor.genericFrom_eq_none
    rw [List.mem_append, not_or]
    exact ⟨name.not_mem_text (by decide) (by decide), by simp [List.mem_replicate]⟩
  | array name =>
    apply Descriptor.genericFrom_eq_none
    rw [List.mem_append, not_or]
    exact ⟨name.not_mem_array (by decide) (by decide) (by decide), by simp [List.mem_replicate]⟩
  | generic name arg ih =>
    rw [AppliesQualified, not_or, Decidable.not_not] at h
    have hne : arg.text ++ List.replicate (k + 1) '>' ≠ [] := by simp
    rw [closed_text, genericFrom_name name hs.not_letter hne,
      if_neg (by rw [afterDot_dotted name hs.not_dot]; exact not_not_intro h.1)]
    exact ih h.2 (Or.inr ⟨_, rfl⟩) (k + 1)

end Search

/-- A generic type without its last closing angle. -/
theorem dropLast?_generic (name : QualifiedName) (arg : HostType) :
    Text.dropLast? '>' (generic name arg).text = some (name.text ++ '<' :: arg.text) :=
  Text.dropLast?_append '>' _

/-- A type without an argument does not end in an angle. -/
theorem dropLast?_eq_none {type : HostType} (h : type.depth = 0) : Text.dropLast? '>' type.text = none := by
  rw [Option.eq_none_iff_forall_ne_some]
  intro body hb
  have he := (Text.dropLast?_eq_some_iff _ _ _).mp hb
  have ht := type.text_eq
  rw [h, List.replicate_zero, List.append_nil] at ht
  apply type.not_mem_opened
  rw [← ht, he]
  simp

/-- The search for a qualified generic name asks for a dot in front of the name. -/
theorem qualifiedGeneric?_eq (t : Text) :
    Descriptor.qualifiedGeneric? t = (Text.dropLast? '>' t).bind (Descriptor.genericFrom afterDot []) := rfl

/-- The generic form of a generic type is its last identifier with its argument. -/
theorem generic?_generic (name : QualifiedName) (arg : HostType) :
    Descriptor.generic? (generic name arg).text = some ⟨name.last, arg.text⟩ := by
  rw [Descriptor.generic?, dropLast?_generic, Option.bind_some,
    genericFrom_name name beforeName_nil.not_letter arg.text_ne_nil]
  rfl

/-- The qualified generic form of a type whose name is qualified is its last identifier with its argument. -/
theorem qualifiedGeneric?_of_qualified {name : QualifiedName} (h : name.qualifier ≠ []) (arg : HostType) :
    Descriptor.qualifiedGeneric? (generic name arg).text = some ⟨name.last, arg.text⟩ := by
  rw [qualifiedGeneric?_eq, dropLast?_generic, Option.bind_some,
    genericFrom_name name beforeName_nil.not_letter arg.text_ne_nil]
  exact if_pos ((afterDot_dotted name beforeName_nil.not_dot).mpr h)

/-- Below a name without a qualifier the search goes on in the argument. -/
theorem qualifiedGeneric?_of_unqualified {name : QualifiedName} (h : name.qualifier = []) (arg : HostType) :
    Descriptor.qualifiedGeneric? (generic name arg).text =
      Descriptor.genericFrom afterDot ('<' :: name.text.reverse) (arg.text ++ List.replicate 0 '>') := by
  rw [qualifiedGeneric?_eq, dropLast?_generic, Option.bind_some,
    genericFrom_name name beforeName_nil.not_letter arg.text_ne_nil,
    if_neg fun hd => (afterDot_dotted name beforeName_nil.not_dot).mp hd h, List.replicate_zero]
  simp only [List.append_nil]

/-! ## Cutting at the last dot -/

/-- The closing angles of a host type stand behind its last dot. -/
theorem afterLast_closed (type : HostType) (k : Nat) :
    Text.afterLast '.' (type.text ++ List.replicate k '>') =
      Text.afterLast '.' type.opened ++ List.replicate (type.depth + k) '>' := by
  rw [text_eq, List.append_assoc, List.replicate_append_replicate]
  exact Text.afterLast_append_of_not_mem _ (by simp [List.mem_replicate])

/-- With a cut that leaves fewer opening angles than closing ones, a list is not balanced. -/
theorem not_balanced_arrayOf {type : HostType} {k : Nat}
    (h : (Text.afterLast '.' type.opened).count '<' < type.depth + k) :
    ¬Balanced (Descriptor.arrayOf (Text.afterLast '.' (type.text ++ List.replicate k '>'))) := by
  intro hb
  have hc : (Text.afterLast '.' type.opened).count '>' = 0 :=
    List.count_eq_zero.mpr fun hm => type.not_mem_opened ((Text.afterLast_sublist '.' _).subset hm)
  have ho : Descriptor.arrayOpening.count '<' = 1 := by decide
  have hn : Descriptor.arrayOpening.count '>' = 0 := by decide
  have ht := hb.total
  rw [afterLast_closed] at ht
  simp only [Descriptor.arrayOf, List.count_append, ho, hn, hc, List.count_replicate] at ht
  simp at ht
  omega

/-- Behind its last dot, the opened part of a host type opens no more angles than the type is deep. -/
theorem count_afterLast_opened_le (type : HostType) : (Text.afterLast '.' type.opened).count '<' ≤ type.depth := by
  rw [← type.count_opened]
  exact (Text.afterLast_sublist '.' _).count_le '<'

/-- The last part of an argument is balanced exactly if no dot stands inside the argument's own argument. -/
theorem balanced_last_part_iff (type : HostType) :
    Balanced (Descriptor.arrayOf (Text.afterLast '.' type.text)) ↔ ¬type.DotInArgument := by
  have plain : ∀ t : Text, '<' ∉ t → '>' ∉ t → Balanced (Descriptor.arrayOf (Text.afterLast '.' t)) := fun t ho hc =>
    (Balanced.of_not_mem (fun h => ho ((Text.afterLast_sublist '.' t).subset h))
      fun h => hc ((Text.afterLast_sublist '.' t).subset h)).arrayOf
  cases type with
  | plain name =>
    exact iff_of_true (plain _ (name.not_mem_text (by decide) (by decide)) (name.not_mem_text (by decide) (by decide)))
      fun h => h.elim
  | array name =>
    refine iff_of_true (plain _ ?_ ?_) fun h => h.elim
    · exact name.not_mem_array (by decide) (by decide) (by decide)
    · exact name.not_mem_array (by decide) (by decide) (by decide)
  | generic name inner =>
    by_cases hd : '.' ∈ inner.text
    · refine iff_of_false ?_ (not_not_intro hd)
      have ho : '.' ∈ '<' :: inner.opened := by
        rw [text_eq, List.mem_append] at hd
        exact List.mem_cons_of_mem _ (hd.resolve_right (by simp [List.mem_replicate]))
      have hcut : (Text.afterLast '.' (generic name inner).opened).count '<' < (generic name inner).depth + 0 := by
        rw [opened, Text.afterLast_append_of_mem _ ho,
          show '<' :: inner.opened = ['<'] ++ inner.opened from rfl,
          Text.afterLast_append_of_mem _ ((List.mem_cons.mp ho).resolve_left (by decide))]
        exact Nat.lt_succ_of_le inner.count_afterLast_opened_le
      have := not_balanced_arrayOf hcut
      rwa [List.replicate_zero, List.append_nil] at this
    · refine iff_of_true ?_ hd
      have hpart : Text.LastPart '.' (generic name inner).text (name.last ++ ('<' :: inner.text ++ ['>'])) := by
        refine ⟨?_, ?_⟩
        · rw [List.mem_append, List.mem_append, List.mem_cons, not_or, not_or, not_or]
          exact ⟨fun h => absurd (name.last_letters _ h) (by decide), ⟨by decide, hd⟩, by decide⟩
        · by_cases hq : name.qualifier = []
          · left
            rw [text, QualifiedName.text, name.dotted_eq_nil hq, List.nil_append, List.append_assoc]
          · right
            obtain ⟨before, hb⟩ := name.dotted_eq hq
            exact ⟨before, by rw [text, QualifiedName.text, hb]; simp⟩
      rw [(Text.lastPart_iff _ _ _).mp hpart]
      exact ((Balanced.of_letters name.last_letters).append inner.balanced_text.enclosed).arrayOf

/-! ## When the declared type is balanced -/

/-- A text of a collection is declared as a list of its argument. -/
theorem declared_ofPlain_collection {t : Text} {form : Descriptor.GenericForm}
    (hm : Descriptor.mentionsCollection t = true) (hq : Descriptor.qualifiedGeneric? t = some form) :
    (Descriptor.ofPlain t).declared = (Descriptor.collection form.name (.ofText form.arg)).declared := by
  rw [Descriptor.ofPlain, Descriptor.ofText?_eq_none_of_marked (Or.inl hm)]
  simp only [hm, if_true, hq]

/-- A collection is declared as the array of what stands behind the last dot of an argument that is no scalar. -/
theorem declared_collection_raw {arg : Text} (h : Scalar.ofText? arg = none) (name : Text) :
    (Descriptor.collection name (.ofText arg)).declared = Descriptor.arrayOf (Text.afterLast '.' arg) := by
  rw [Argument.ofText, h]
  rfl

/-- A generic type read under its own name and argument is declared as a balanced type. -/
theorem balanced_declared_generic (name : QualifiedName) (arg : HostType) :
    Balanced (Descriptor.generic name.last (.ofText arg.text)
      (Descriptor.GenericForm.written ⟨name.last, arg.text⟩)).declared := by
  have hl := Balanced.of_letters name.last_letters
  cases h : Scalar.ofText? arg.text with
  | some s =>
    rw [Argument.ofText, h]
    exact hl.append (Balanced.scalarName s)
  | none =>
    rw [Argument.ofText, h]
    show Balanced (name.last ++ '<' :: arg.text ++ ['>'])
    rw [List.append_assoc]
    exact hl.append arg.balanced_text.enclosed

/-- A collection is declared as a balanced type if and only if no dot is inside the argument of its argument. -/
theorem balanced_declared_collection_iff (last : Text) (arg : HostType) :
    Balanced (Descriptor.collection last (.ofText arg.text)).declared ↔ ¬arg.DotInArgument := by
  cases h : Scalar.ofText? arg.text with
  | none =>
    rw [declared_collection_raw h]
    exact arg.balanced_last_part_iff
  | some s =>
    refine iff_of_true ?_ ?_
    · rw [Argument.ofText, h]
      exact (Balanced.scalarName s).arrayOf
    · intro hd
      cases arg with
      | plain name => exact hd
      | array name => exact hd
      | generic name inner =>
        rw [Scalar.ofText?_eq_none_of_mem Scalar.isForeign_opening (by simp [text])] at h
        cases h

/-- The angles of the type that is declared for a host type are balanced exactly if the reading of a collection does not
tear a pair of them apart. -/
theorem balanced_declaredType_iff (type : HostType) :
    Balanced (Descriptor.declaredType type.text) ↔ ¬type.Torn := by
  rw [declaredType_text]
  have short : ∀ type : HostType, type.depth = 0 → Balanced (Descriptor.ofPlain type.text).declared := by
    intro type hd
    apply balanced_declared_ofPlain
    · intro _
      rw [Descriptor.qualifiedGeneric?, dropLast?_eq_none hd, Option.bind_none]
    · intro form hf
      rw [Descriptor.generic?, dropLast?_eq_none hd, Option.bind_none] at hf
      nomatch hf
  cases type with
  | plain name => exact iff_of_true (short (plain name) rfl) fun h => h.2
  | array name => exact iff_of_true (short (array name) rfl) fun h => h.2
  | generic name arg =>
    have hform : ∀ form, Descriptor.generic? (generic name arg).text = some form →
        Balanced (Descriptor.generic form.name (.ofText form.arg) form.written).declared := by
      intro form hf
      rw [generic?_generic, Option.some.injEq] at hf
      subst hf
      exact balanced_declared_generic name arg
    rw [Torn, ← Descriptor.mentionsCollection_iff]
    by_cases hm : Descriptor.mentionsCollection (generic name arg).text = true
    · by_cases hq : name.qualifier = []
      · by_cases ha : arg.AppliesQualified
        · refine iff_of_false ?_ (not_not_intro ⟨hm, Or.inr ⟨hq, ha⟩⟩)
          obtain ⟨last, inner, n, hn, hf⟩ := genericFrom_of_appliesQualified ha (Or.inr ⟨name.text.reverse, rfl⟩) 0
          rw [← qualifiedGeneric?_of_unqualified hq] at hf
          have hraw : Scalar.ofText? (inner.text ++ List.replicate n '>') = none :=
            Scalar.ofText?_eq_none_of_mem Scalar.isForeign_closing (by simp; omega)
          rw [declared_ofPlain_collection hm hf, declared_collection_raw hraw]
          exact not_balanced_arrayOf (Nat.lt_of_le_of_lt inner.count_afterLast_opened_le (by omega))
        · refine iff_of_true (balanced_declared_ofPlain (fun _ => ?_) hform) ?_
          · rw [qualifiedGeneric?_of_unqualified hq]
            exact genericFrom_of_not_appliesQualified ha (Or.inr ⟨_, rfl⟩) 0
          · rintro ⟨-, ⟨hn, -⟩ | ⟨-, hn⟩⟩
            · exact hn hq
            · exact ha hn
      · rw [declared_ofPlain_collection hm (qualifiedGeneric?_of_qualified hq arg), balanced_declared_collection_iff]
        simp [hm, hq]
    · refine iff_of_true (balanced_declared_ofPlain (fun h => absurd h hm) hform) ?_
      exact fun h => hm h.1

/-- A host type whose declared type is not balanced: the cut at the last dot loses the angle that opens the pair. -/
theorem declaredType_not_balanced : ∃ type : HostType,
    type.text = "System.Collections.Generic.List<Pair<Shop.Order>>".toList ∧
      Descriptor.declaredType type.text = "Array<Order>>".toList ∧ ¬Balanced (Descriptor.declaredType type.text) := by
  let order : QualifiedName := ⟨["Shop".toList], "Order".toList, by decide⟩
  let pair : QualifiedName := ⟨[], "Pair".toList, by decide⟩
  let list : QualifiedName := ⟨["System".toList, "Collections".toList, "Generic".toList], "List".toList, by decide⟩
  have ht : (generic list (generic pair (plain order))).text =
      "System.Collections.Generic.List<Pair<Shop.Order>>".toList := by decide
  have hd : Descriptor.declaredType "System.Collections.Generic.List<Pair<Shop.Order>>".toList =
      "Array<Order>>".toList := by decide
  exact ⟨_, ht, by rw [ht, hd], by rw [ht, hd]; exact fun h => absurd h.total (by decide)⟩

end HostType

end ModelStubs
