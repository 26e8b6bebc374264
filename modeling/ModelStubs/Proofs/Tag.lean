import ModelStubs.Proofs.Descriptor

/-!
# Constructors and types agree

Stubs name a constructor for a descriptor as written, declarations a type for the descriptor without its marks of
nullability. Up to these marks the two agree on every text (`tag_agrees`): on the scalars, and on what is a list.
-/

namespace ModelStubs

namespace Tag

open Descriptor (Marked dropNullable)

/-- The tag of a text is that of a scalar exactly if the text stands for the scalar. -/
theorem ofText_eq_scalar_iff (t : Text) (s : Scalar) : ofText t = .scalar s ↔ Scalar.ofText? t = some s := by
  rw [ofText]
  cases Scalar.ofText? t with
  | some s' => simp
  | none =>
    simp only [reduceCtorEq, iff_false]
    split <;> nofun

/-- The constructor is that of arrays exactly for the texts with a mark of a list. -/
theorem ofText_eq_array_iff (t : Text) : ofText t = .array ↔ Marked t := by
  constructor
  · intro h
    rw [ofText] at h
    split at h
    · nomatch h
    · split at h
      · rename_i hm
        exact (Bool.or_eq_true _ _).mp hm
      · nomatch h
  · intro h
    rw [ofText, Descriptor.ofText?_eq_none_of_marked h]
    exact if_pos ((Bool.or_eq_true _ _).mpr h)

/-- What stands for a scalar has no mark of nullability. -/
theorem not_mem_of_ofText?_eq_some {t : Text} {s : Scalar} (h : Scalar.ofText? t = some s) : '?' ∉ t := by
  intro hq
  rw [Scalar.ofText?_eq_none_of_mem Scalar.isForeign_nullable hq] at h
  nomatch h

/-- A text is a scalar for a stub if it is one for a declaration and has no mark of nullability. -/
theorem ofText_eq_scalar_iff_declared (t : Text) (s : Scalar) :
    ofText t = .scalar s ↔ '?' ∉ t ∧ Descriptor.ofText t = .scalar s := by
  rw [ofText_eq_scalar_iff, Descriptor.ofText, Descriptor.ofPlain_eq_scalar_iff]
  constructor
  · intro h
    have hq := not_mem_of_ofText?_eq_some h
    exact ⟨hq, by rw [Descriptor.dropNullable_eq_self hq]; exact h⟩
  · rintro ⟨hq, h⟩
    rw [Descriptor.dropNullable_eq_self hq] at h
    exact h

/-- Taking off the marks of nullability changes the constructor only where it was that of objects. -/
theorem ofText_eq_ofText_dropNullable (t : Text) : ofText t = ofText (dropNullable t) ∨ ofText t = .object := by
  cases h : ofText t with
  | scalar s =>
    have hq := not_mem_of_ofText?_eq_some ((ofText_eq_scalar_iff t s).mp h)
    rw [Descriptor.dropNullable_eq_self hq]
    exact Or.inl h.symm
  | array => exact Or.inl ((ofText_eq_array_iff _).mpr ((ofText_eq_array_iff t).mp h).dropNullable).symm
  | object => exact Or.inr rfl

end Tag

namespace Descriptor

/-- A text with brackets is an array for a stub and a list for a declaration. -/
theorem lists_of_brackets {t : Text} (h : "[]".toList <:+: t) : Tag.ofText t = .array ∧ (ofText t).IsList := by
  rw [← mentionsBrackets_iff] at h
  exact ⟨(Tag.ofText_eq_array_iff t).mpr (Or.inr h),
    isList_ofPlain_of_mentionsBrackets (mentionsBrackets_dropNullable h)⟩

/-- The type of a list opens with `Array<` and ends with an angle. -/
theorem IsList.declaredType {t : Text} (h : (ofText t).IsList) :
    "Array<".toList <+: Descriptor.declaredType t ∧ ['>'] <:+ Descriptor.declaredType t := by
  obtain ⟨element, he⟩ := h.declared
  rw [Descriptor.declaredType, he, arrayOf, List.append_assoc]
  exact ⟨List.prefix_append _ _, ⟨arrayOpening ++ element, by rw [List.append_assoc]⟩⟩

/-- Constructors and types agree up to nullability: a scalar is one for both unless it is nullable, brackets make a list
for both, a list of a declaration is an array of a stub once its marks are taken off, an array of a stub is no scalar of a
declaration, and the marks of nullability can only turn a constructor into that of objects. -/
theorem tag_agrees (t : Text) :
    (∀ s, Tag.ofText t = .scalar s ↔ '?' ∉ t ∧ ofText t = .scalar s) ∧
    ("[]".toList <:+: t → Tag.ofText t = .array ∧ (ofText t).IsList ∧
      "Array<".toList <+: declaredType t ∧ ['>'] <:+ declaredType t) ∧
    ((ofText t).IsList → Tag.ofText (dropNullable t) = .array) ∧
    (Tag.ofText t = .array → ∀ s, ofText t ≠ .scalar s) ∧
    (Tag.ofText t = Tag.ofText (dropNullable t) ∨ Tag.ofText t = .object) := by
  refine ⟨Tag.ofText_eq_scalar_iff_declared t, ?_, ?_, ?_, Tag.ofText_eq_ofText_dropNullable t⟩
  · intro h
    obtain ⟨ht, hl⟩ := lists_of_brackets h
    exact ⟨ht, hl, hl.declaredType⟩
  · intro h
    exact (Tag.ofText_eq_array_iff _).mpr (marked_of_isList_ofPlain h)
  · intro h s hs
    have hm := ((Tag.ofText_eq_array_iff t).mp h).dropNullable
    rw [ofText, ofPlain_eq_scalar_iff, ofText?_eq_none_of_marked hm] at hs
    nomatch hs

end Descriptor

end ModelStubs
