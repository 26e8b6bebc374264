import ModelStubs.Declaration
import ModelStubs.Proofs.Descriptor
import ModelStubs.Proofs.GenericForm

/-!
# Parameters of interfaces

An interface takes its parameter from behind the first angle of a full name, while a reference to the type takes its argument
from behind the first angle that has a name before it. The parameter ends in that argument, and is no more than it exactly if
the first angle has a letter before it. So an object whose full name is its own name with an argument is declared under the
type that its full name is read as (`interface_opens_as_declared`).
-/

namespace ModelStubs

open Text (isLetter lettersAtEnd IsWord)

namespace Descriptor

variable {accept : Text → Bool} {seen rest t first arg : Text} {form : GenericForm}

/-- What the search gives for an argument stands behind some angle. -/
theorem exists_of_genericFrom (h : genericFrom accept seen rest = some form) :
    ∃ passed, rest = passed ++ '<' :: form.arg := by
  obtain ⟨mid, ho, -⟩ := opens_of_genericFrom_eq_some h
  have ht := ho.text
  rw [List.append_assoc] at ht
  exact ⟨mid, List.append_cancel_left ht⟩

/-- The search decides at the first angle whether that is the one, and goes on behind it if not. -/
theorem generic?_of_first (h : '<' ∉ first) : generic? (first ++ '<' :: arg ++ ['>']) =
    if lettersAtEnd first ≠ [] ∧ arg ≠ [] then some ⟨lettersAtEnd first, arg⟩
    else genericFrom (fun _ => true) ('<' :: first.reverse) arg := by
  rw [generic?, Text.dropLast?_append, Option.bind_some, genericFrom_append _ h, List.append_nil, genericFrom]
  simp [lettersAtEnd]

/-- A letter stands right before the first angle exactly if letters end what stands before that angle. -/
theorem letter_before_first_iff (h : '<' ∉ first) (rest : Text) :
    (∃ before c after, first ++ '<' :: rest = before ++ c :: '<' :: after ∧ '<' ∉ before ∧ isLetter c = true) ↔
      lettersAtEnd first ≠ [] := by
  rw [Text.lettersAtEnd_ne_nil_iff]
  constructor
  · rintro ⟨before, c, after, he, hbefore, hc⟩
    have hne : '<' ∉ before ++ [c] := by
      rw [List.mem_append, List.mem_singleton, not_or]
      refine ⟨hbefore, ?_⟩
      rintro rfl
      nomatch hc
    rw [List.append_cons before] at he
    exact ⟨before, c, (Text.first_cut_unique h hne he).1, hc⟩
  · rintro ⟨before, c, rfl, hc⟩
    exact ⟨before, c, rest, by simp, fun hm => h (List.mem_append_left _ hm), hc⟩

/-- Where a type is found to have an argument, an interface has a parameter. It ends in that argument, and is the same
exactly if there is a letter right before the first angle. -/
theorem exists_genericSuffix? (h : generic? t = some form) : ∃ arg, genericSuffix? t = some arg ∧ form.arg <:+ arg ∧
    (form.arg = arg ↔ ∃ before c rest, t = before ++ c :: '<' :: rest ∧ '<' ∉ before ∧ isLetter c = true) := by
  obtain ⟨before, -, hr, -⟩ := (generic?_eq_some_iff t form).mp h
  have hangle : '<' ∈ before ++ form.name ++ '<' :: form.arg := by simp
  obtain ⟨first, arg, hcut, hfirst⟩ := List.eq_append_cons_of_mem hangle
  have ht : t = first ++ '<' :: arg ++ ['>'] := by
    rw [← hcut, hr.text, GenericForm.written]
    simp
  refine ⟨arg, (genericSuffix?_eq_some_iff t arg).mpr ⟨first, hfirst, ht⟩, ?_⟩
  have hletter := letter_before_first_iff hfirst (arg ++ ['>'])
  rw [← List.cons_append, ← List.append_assoc, ← ht] at hletter
  rw [hletter]
  rw [ht, generic?_of_first hfirst] at h
  split at h
  · rename_i hopens
    cases h
    exact ⟨List.suffix_refl _, iff_of_true rfl hopens.1⟩
  · rename_i hpasses
    obtain ⟨passed, hpassed⟩ := exists_of_genericFrom h
    refine ⟨⟨passed ++ ['<'], by rw [hpassed]; simp⟩, iff_of_false ?_ ?_⟩
    · intro he
      have hlength := congrArg List.length hpassed
      rw [he, List.length_append, List.length_cons] at hlength
      omega
    · exact fun hn => hpasses ⟨hn, by rw [hpassed]; simp⟩

end Descriptor

/-- An object whose full name is its own name with an argument that is no scalar, after a qualifier if there is one. The full
name has no mark of nullability and no mark of a list. -/
structure OfGenericType (object : Object) (qualifier arg : Text) : Prop where
  fullName : object.fullName = qualifier ++ object.name ++ '<' :: arg ++ ['>']
  qualified : qualifier = [] ∨ ['.'] <:+ qualifier
  no_angle : '<' ∉ qualifier
  name : IsWord object.name
  arg_ne_nil : arg ≠ []
  arg_no_scalar : Scalar.ofText? arg = none
  not_nullable : '?' ∉ object.fullName
  no_brackets : ¬"[]".toList <:+: object.fullName
  no_namespace : ¬Descriptor.collectionNamespace <:+: object.fullName
  no_array : ¬"Array".toList <:+: object.fullName

namespace OfGenericType

variable {object : Object} {qualifier arg : Text}

/-- The search stops at the name of the object: there is no angle before it, and letters before it would follow a dot. -/
theorem generic?_eq (h : OfGenericType object qualifier arg) :
    Descriptor.generic? object.fullName = some ⟨object.name, arg⟩ := by
  have hend : ∀ c ∈ (qualifier.reverse ++ []).head?, isLetter c = false := by
    rcases h.qualified with rfl | ⟨before, rfl⟩
    · nofun
    · simp
      decide
  rw [h.fullName, Descriptor.generic?, Text.dropLast?_append, Option.bind_some,
    Descriptor.genericFrom_name h.no_angle h.name hend h.arg_ne_nil]
  rfl

/-- The full name is read as the name of the object with its argument. -/
theorem declaredType_eq (h : OfGenericType object qualifier arg) :
    Descriptor.declaredType object.fullName = object.name ++ '<' :: arg ++ ['>'] := by
  have hangle : '<' ∈ object.fullName := by
    rw [h.fullName]
    simp
  have hs := Scalar.ofText?_eq_none_of_mem Scalar.isForeign_opening hangle
  have hc := (Descriptor.mentionsCollection_eq_false_iff _).mpr ⟨h.no_namespace, h.no_array⟩
  have hb : Descriptor.mentionsBrackets object.fullName = false := by
    rw [Bool.eq_false_iff, ne_eq, Descriptor.mentionsBrackets_iff]
    exact h.no_brackets
  rw [Descriptor.declaredType, Descriptor.ofText, Descriptor.dropNullable_eq_self h.not_nullable, Descriptor.ofPlain, hs, hc,
    hb, h.generic?_eq]
  simp only [Bool.false_eq_true, if_false, Argument.ofText, h.arg_no_scalar]
  rfl

/-- The parameter of the interface is the argument. -/
theorem parameter?_eq (h : OfGenericType object qualifier arg) : Declaration.parameter? object.fullName = some arg := by
  have hangle : '<' ∉ qualifier ++ object.name := by
    rw [List.mem_append, not_or]
    exact ⟨h.no_angle, fun hm => absurd (h.name.letters _ hm) (by decide)⟩
  have hsuffix := (Descriptor.genericSuffix?_eq_some_iff _ _).mpr ⟨_, hangle, h.fullName⟩
  rw [Declaration.parameter?, hsuffix, Option.map_some, h.arg_no_scalar]

/-- The interface opens with the name of the object and the argument between angles. -/
theorem opening_eq (h : OfGenericType object qualifier arg) : Declaration.opening object =
    "\tinterface ".toList ++ (object.name ++ '<' :: arg ++ ['>']) ++ " \x7b\n".toList := by
  have hopening : "<".toList = ['<'] := by decide
  have hclosing : "> \x7b\n".toList = ['>'] ++ " \x7b\n".toList := by decide
  rw [Declaration.opening, h.parameter?_eq]
  simp only [hopening, hclosing, List.append_assoc, List.cons_append, List.nil_append]

end OfGenericType

/-- An interface is named as it is referred to. Wherever a type is found to have an argument, an interface has a parameter that
ends in it, and the two are equal exactly if a letter stands right before the first angle. So the interface of an object that
is named after its full name opens with the type by which the full name is declared. -/
theorem interface_opens_as_declared :
    (∀ (t : Text) (form : Descriptor.GenericForm), Descriptor.generic? t = some form →
      ∃ arg, Descriptor.genericSuffix? t = some arg ∧ form.arg <:+ arg ∧
        (form.arg = arg ↔ ∃ before c rest, t = before ++ c :: '<' :: rest ∧ '<' ∉ before ∧ isLetter c = true)) ∧
    ∀ (naming : Naming) (object : Object) (qualifier arg : Text), OfGenericType object qualifier arg →
      "\tinterface ".toList ++ Descriptor.declaredType object.fullName ++ " \x7b\n".toList <+:
        Declaration.ofObject naming object := by
  refine ⟨fun t form h => Descriptor.exists_genericSuffix? h, fun naming object qualifier arg h => ?_⟩
  rw [h.declaredType_eq, ← h.opening_eq, Declaration.ofObject, List.append_assoc]
  exact List.prefix_append _ _

/-- A page of pairs, in the namespace `Shop`. -/
def pageOfPairs : Object where
  name := "Page".toList
  fullName := "Shop.Page<Pair2<Shop.Order>>".toList
  properties := [⟨"Total".toList, "long".toList, none⟩]

/-- That object is of a generic type. -/
theorem pageOfPairs_ofGenericType : OfGenericType pageOfPairs "Shop.".toList "Pair2<Shop.Order>".toList := by
  have hc : Descriptor.mentionsCollection pageOfPairs.fullName = false := by decide
  obtain ⟨hn, ha⟩ := (Descriptor.mentionsCollection_eq_false_iff _).mp hc
  have hb : Descriptor.mentionsBrackets pageOfPairs.fullName = false := by decide
  rw [Bool.eq_false_iff, ne_eq, Descriptor.mentionsBrackets_iff] at hb
  exact ⟨by decide, Or.inr ⟨"Shop".toList, by decide⟩, by decide, by decide, by decide, by decide, by decide, hb, hn, ha⟩

/-- The parameter of the page is what its references have for an argument. That of `Pair2<Page<int>>` is longer than the
argument, which is read behind the second angle: a digit stands before the first. -/
theorem pageOfPairs_interface :
    "\tinterface Page<Pair2<Shop.Order>> \x7b\n".toList <+: Declaration.ofObject Naming.standard pageOfPairs ∧
    ∃ form, Descriptor.generic? "Pair2<Page<int>>".toList = some form ∧
      ∃ arg, Descriptor.genericSuffix? "Pair2<Page<int>>".toList = some arg ∧ form.arg <:+ arg ∧ form.arg ≠ arg := by
  obtain ⟨hsuffix, hinterface⟩ := interface_opens_as_declared
  have hform : Descriptor.generic? "Pair2<Page<int>>".toList = some ⟨"Page".toList, "int>".toList⟩ := by decide
  obtain ⟨arg, harg, hends, -⟩ := hsuffix _ _ hform
  have harg' : Descriptor.genericSuffix? "Pair2<Page<int>>".toList = some "Page<int>".toList := by decide
  refine ⟨?_, _, hform, arg, harg, hends, ?_⟩
  · have hp := hinterface Naming.standard pageOfPairs _ _ pageOfPairs_ofGenericType
    rw [pageOfPairs_ofGenericType.declaredType_eq] at hp
    exact hp
  · rw [Option.some.inj (harg.symm.trans harg')]
    decide

end ModelStubs
