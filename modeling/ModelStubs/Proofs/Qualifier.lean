import ModelStubs.Proofs.HostType

/-!
# Qualified texts

A descriptor may be written with the path of its namespace before it. Every rule for the shape of a text looks at it from its
end, or for an opening angle with a name before it, and comes to a stop at the dot that ends the path. So the path is not
seen, unless the text is a scalar with or without it or speaks of a collection (`ofText_qualified`).
-/

namespace ModelStubs.Descriptor

open Text (isLetter)

variable {before t : Text}

theorem isLetter_dot : isLetter '.' = false := by decide

/-! ## What each rule finds behind a dot -/

/-- What stands before a dot does not change the bare name. -/
theorem bareName_append_cons (before t : Text) : bareName (before ++ '.' :: t) = bareName t := by
  rw [bareName, Text.lettersAtEnd_append_cons isLetter_dot, Text.afterLast_append_cons, bareName]

/-- What stands before a dot does not change the element before the brackets. -/
theorem bracketElement?_append_cons (before t : Text) : bracketElement? (before ++ '.' :: t) = bracketElement? t := by
  have hclosing : '.' ≠ ']' := by decide
  have hopening : '.' ≠ '[' := by decide
  rw [bracketElement?, bracketElement?, Text.dropLast?_append_cons hclosing]
  cases Text.dropLast? ']' t with
  | none => rfl
  | some opened =>
    simp only [Option.map_some, Option.bind_eq_bind, Option.bind_some]
    rw [Text.dropLast?_append_cons hopening]
    cases Text.dropLast? '[' opened with
    | none => rfl
    | some body => simp only [Option.map_some, Option.bind_some, Text.lettersAtEnd_append_cons isLetter_dot]

/-- What has no opening angle and stands before a dot does not change the form that ends a text. -/
theorem generic?_append_cons (hb : '<' ∉ before) (t : Text) : generic? (before ++ '.' :: t) = generic? t := by
  have hclosing : '.' ≠ '>' := by decide
  rw [generic?, generic?, Text.dropLast?_append_cons hclosing]
  cases Text.dropLast? '>' t with
  | none => rfl
  | some body =>
    have hdot : '<' ∉ before ++ ['.'] := by simp [hb]
    have hcut : before ++ '.' :: body = (before ++ ['.']) ++ body := by simp
    have hseen : (before ++ ['.']).reverse ++ [] = [] ++ '.' :: before.reverse := by simp
    rw [Option.map_some, Option.bind_some, Option.bind_some, hcut, genericFrom_append body hdot, hseen,
      genericFrom_of_not_letter isLetter_dot]

/-- What has no opening bracket and stands before a dot adds no pair of brackets. -/
theorem mentionsBrackets_append_cons (hb : '[' ∉ before) (t : Text) :
    mentionsBrackets (before ++ '.' :: t) = mentionsBrackets t := by
  have hdot : '[' ∉ before ++ ['.'] := by simp [hb]
  have hcut : before ++ '.' :: t = (before ++ ['.']) ++ t := by simp
  rw [Bool.eq_iff_iff, mentionsBrackets_iff, mentionsBrackets_iff, hcut]
  exact Text.cons_infix_append_iff hdot [']'] t

/-- What speaks of no collection does so in none of its last parts. -/
theorem mentionsCollection_of_append_cons (h : mentionsCollection (before ++ '.' :: t) = false) :
    mentionsCollection t = false := by
  have hends : t <:+: before ++ '.' :: t := ((List.suffix_cons '.' t).trans (List.suffix_append before _)).isInfix
  rw [mentionsCollection_eq_false_iff] at h ⊢
  exact ⟨fun hm => h.1 (hm.trans hends), fun hm => h.2 (hm.trans hends)⟩

/-- A text that is no scalar and speaks of no collection has the shape of its part behind a dot, if that is no scalar
either and no angle and no bracket stands before the dot. -/
theorem ofPlain_append_cons (hangle : '<' ∉ before) (hbracket : '[' ∉ before) (ht : Scalar.ofText? t = none)
    (hq : Scalar.ofText? (before ++ '.' :: t) = none) (hc : mentionsCollection (before ++ '.' :: t) = false) :
    ofPlain (before ++ '.' :: t) = ofPlain t := by
  rw [ofPlain, ofPlain, hq, ht, hc, mentionsCollection_of_append_cons hc, bareName_append_cons,
    bracketElement?_append_cons, generic?_append_cons hangle, mentionsBrackets_append_cons hbracket]
  simp only [Bool.false_eq_true, if_false]

/-! ## Paths of namespaces -/

/-- A path has no marks of nullability to take off. -/
theorem dropNullable_qualified (path : QualifiedName) (t : Text) :
    dropNullable (path.text ++ '.' :: t) = path.text ++ '.' :: dropNullable t := by
  have hpath := dropNullable_eq_self (path.not_mem_text (c := '?') (by decide) (by decide))
  rw [dropNullable, List.filter_append, ← dropNullable, hpath]
  rfl

/-- Let neither a text nor the text behind the path of a namespace be a scalar, and let the latter speak of no collection,
marks of nullability left out of account. Then both have the same shape, and are declared by the same type. -/
theorem ofText_qualified (path : QualifiedName) (t : Text) (ht : Scalar.ofText? (dropNullable t) = none)
    (hq : Scalar.ofText? (dropNullable (path.text ++ '.' :: t)) = none)
    (hn : ¬collectionNamespace <:+: dropNullable (path.text ++ '.' :: t))
    (ha : ¬"Array".toList <:+: dropNullable (path.text ++ '.' :: t)) :
    ofText (path.text ++ '.' :: t) = ofText t ∧ declaredType (path.text ++ '.' :: t) = declaredType t := by
  have hangle : '<' ∉ path.text := path.not_mem_text (by decide) (by decide)
  have hbracket : '[' ∉ path.text := path.not_mem_text (by decide) (by decide)
  have hc := (mentionsCollection_eq_false_iff _).mpr ⟨hn, ha⟩
  rw [dropNullable_qualified] at hq hc
  have hshape : ofText (path.text ++ '.' :: t) = ofText t := by
    rw [ofText, dropNullable_qualified, ofPlain_append_cons hangle hbracket ht hq hc, ofText]
  exact ⟨hshape, by rw [declaredType, hshape, declaredType]⟩

/-- The path `Shop.Models`. -/
def shopModels : QualifiedName where
  qualifier := ["Shop".toList]
  last := "Models".toList
  words := by decide

/-- The name that is taken up lies inside another type, whose closing angle stays with its argument, with the path and
without it. -/
theorem ofText_tuple :
    Scalar.ofText? (dropNullable "Tuple2<Pair<int?>>".toList) = none ∧
    Scalar.ofText? (dropNullable "Shop.Models.Tuple2<Pair<int?>>".toList) = none ∧
    ¬collectionNamespace <:+: dropNullable "Shop.Models.Tuple2<Pair<int?>>".toList ∧
    ¬"Array".toList <:+: dropNullable "Shop.Models.Tuple2<Pair<int?>>".toList ∧
    ofText "Shop.Models.Tuple2<Pair<int?>>".toList =
      .generic "Pair".toList (.raw "int>".toList) "Pair<int>>".toList ∧
    declaredType "Shop.Models.Tuple2<Pair<int?>>".toList = "Pair<int>>".toList := by
  have htext : "Shop.Models.Tuple2<Pair<int?>>".toList = shopModels.text ++ '.' :: "Tuple2<Pair<int?>>".toList := by decide
  have ht : Scalar.ofText? (dropNullable "Tuple2<Pair<int?>>".toList) = none := by decide
  have hq : Scalar.ofText? (dropNullable "Shop.Models.Tuple2<Pair<int?>>".toList) = none := by decide
  have hc : mentionsCollection (dropNullable "Shop.Models.Tuple2<Pair<int?>>".toList) = false := by decide
  obtain ⟨hn, ha⟩ := (mentionsCollection_eq_false_iff _).mp hc
  refine ⟨ht, hq, hn, ha, ?_⟩
  rw [htext] at hq hn ha ⊢
  obtain ⟨hshape, htype⟩ := ofText_qualified shopModels "Tuple2<Pair<int?>>".toList ht hq hn ha
  rw [hshape, htype]
  decide

end ModelStubs.Descriptor
