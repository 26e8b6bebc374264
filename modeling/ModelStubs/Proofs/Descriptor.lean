import ModelStubs.Proofs.Scalar
import ModelStubs.TypeName

/-!
# The shapes of descriptors

What decides the shape of a text: a mark of a collection or a pair of brackets keeps it from being a scalar
(`ofText?_eq_none_of_marked`), brackets make it a list (`isList_ofPlain_of_mentionsBrackets`), and only a marked text is
a list (`marked_of_isList_ofPlain`). Taking off the marks of nullability loses none of these marks (`infix_dropNullable`).
-/

namespace ModelStubs.Descriptor

/-! ## Marks -/

/-- The marks of a collection are the name of the namespace and that of an array. -/
theorem mentionsCollection_iff (t : Text) :
    mentionsCollection t = true ↔ collectionNamespace <:+: t ∨ "Array".toList <:+: t := by
  rw [mentionsCollection, Bool.or_eq_true, Text.occursIn_iff, Text.occursIn_iff]

/-- A text without marks of a collection has neither name in it. -/
theorem mentionsCollection_eq_false_iff (t : Text) :
    mentionsCollection t = false ↔ ¬collectionNamespace <:+: t ∧ ¬"Array".toList <:+: t := by
  rw [← not_or, ← mentionsCollection_iff, Bool.not_eq_true]

/-- A text has brackets if the two stand side by side in it. -/
theorem mentionsBrackets_iff (t : Text) : mentionsBrackets t = true ↔ "[]".toList <:+: t :=
  Text.occursIn_iff _ t

/-- Whether a text has a mark of a list: one of a collection, or a pair of brackets. -/
def Marked (t : Text) : Prop := mentionsCollection t = true ∨ mentionsBrackets t = true

instance (t : Text) : Decidable (Marked t) := inferInstanceAs (Decidable (_ ∨ _))

/-- No word of the scalar table has a mark of a list in it. -/
theorem ofText?_eq_none_of_marked {t : Text} (h : Marked t) : Scalar.ofText? t = none := by
  rcases h with h | h
  · rcases (mentionsCollection_iff t).mp h with h | h
    · exact Scalar.ofText?_eq_none_of_infix Scalar.isForeign_namespace h
    · exact Scalar.ofText?_eq_none_of_infix Scalar.isForeign_array h
  · exact Scalar.ofText?_eq_none_of_infix Scalar.isForeign_brackets ((mentionsBrackets_iff t).mp h)

/-! ## Marks of nullability -/

/-- A text without marks of nullability is kept as it is. -/
theorem dropNullable_eq_self {t : Text} (h : '?' ∉ t) : dropNullable t = t := by
  rw [dropNullable, List.filter_eq_self]
  intro c hc
  rw [bne_iff_ne]
  rintro rfl
  exact h hc

/-- A piece without marks of nullability is still there when the marks are taken off. -/
theorem infix_dropNullable {piece t : Text} (hp : '?' ∉ piece) (h : piece <:+: t) : piece <:+: dropNullable t := by
  obtain ⟨a, b, rfl⟩ := h
  refine ⟨dropNullable a, dropNullable b, ?_⟩
  simp only [dropNullable, List.filter_append]
  rw [show piece.filter (· != '?') = piece from dropNullable_eq_self hp]

/-- Brackets are still there when the marks of nullability are taken off. -/
theorem mentionsBrackets_dropNullable {t : Text} (h : mentionsBrackets t = true) :
    mentionsBrackets (dropNullable t) = true := by
  rw [mentionsBrackets_iff] at h ⊢
  exact infix_dropNullable (by decide) h

/-- Marks of a list are still there when the marks of nullability are taken off. -/
theorem Marked.dropNullable {t : Text} (h : Marked t) : Marked (dropNullable t) := by
  rcases h with h | h
  · rw [mentionsCollection_iff] at h
    refine Or.inl ((mentionsCollection_iff _).mpr ?_)
    rcases h with h | h
    · exact Or.inl (infix_dropNullable (by decide) h)
    · exact Or.inr (infix_dropNullable (by decide) h)
  · exact Or.inr (mentionsBrackets_dropNullable h)

/-! ## Shapes -/

/-- Whether a descriptor is a list of elements of one type. -/
def IsList : Descriptor → Prop
  | .array _ => True
  | .collection _ _ => True
  | _ => False

/-- A text has the shape of a scalar exactly if it stands for one. -/
theorem ofPlain_eq_scalar_iff (t : Text) (s : Scalar) : ofPlain t = .scalar s ↔ Scalar.ofText? t = some s := by
  rw [ofPlain]
  cases Scalar.ofText? t with
  | some s' => simp
  | none =>
    simp only [reduceCtorEq, iff_false]
    repeat' split
    all_goals nofun

/-- A text with brackets in it is a list, whatever else is in it. -/
theorem isList_ofPlain_of_mentionsBrackets {t : Text} (h : mentionsBrackets t = true) : (ofPlain t).IsList := by
  rw [ofPlain, ofText?_eq_none_of_marked (Or.inr h)]
  cases if mentionsCollection t then qualifiedGeneric? t else none <;> simp [h, IsList]

/-- A text that is a list has a mark of one. -/
theorem marked_of_isList_ofPlain {t : Text} (h : (ofPlain t).IsList) : Marked t := by
  refine Decidable.byContradiction fun hm => ?_
  rw [Marked, not_or] at hm
  rw [ofPlain] at h
  cases hs : Scalar.ofText? t with
  | some s => simp [hs, IsList] at h
  | none => cases hg : generic? t <;> simp [hs, hm.1, hm.2, hg, IsList] at h

/-! ## Types of declarations -/

/-- How the type of a list opens. -/
def arrayOpening : Text := "Array<".toList

/-- The type of a list of elements of one type. -/
def arrayOf (element : Text) : Text := arrayOpening ++ element ++ ['>']

@[simp] theorem declared_scalar (s : Scalar) : (Descriptor.scalar s).declared = s.name := rfl

@[simp] theorem declared_array (element : Text) : (Descriptor.array element).declared = arrayOf element := rfl

@[simp] theorem declared_unknown (name : Text) : (Descriptor.unknown name).declared = name := rfl

/-- Every list is declared as one. -/
theorem IsList.declared {d : Descriptor} (h : d.IsList) : ∃ element, d.declared = arrayOf element := by
  cases d with
  | array element => exact ⟨element, rfl⟩
  | collection name arg =>
    cases arg with
    | scalar s => exact ⟨s.name, rfl⟩
    | raw t => exact ⟨Text.afterLast '.' t, rfl⟩
  | scalar s => exact h.elim
  | generic name arg written => exact h.elim
  | unknown name => exact h.elim

end ModelStubs.Descriptor
