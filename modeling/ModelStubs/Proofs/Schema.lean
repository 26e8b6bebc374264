import ModelStubs.Proofs.Toml.Record
import ModelStubs.Run

/-!
# What a manifest declares

The form of a manifest as a relation between documents and lists of objects (`Declares`), and the values that a document
has under keys which the form does not name (`unnamed`). Properties, objects and documents are read exactly from what stands
for them (`property_eq_ok_iff`, `object_eq_ok_iff`, `document_eq_ok_iff`), and keys that the form does not name change nothing
but for a number without a value (`readManifest_iff_declares`).
-/

namespace ModelStubs.Manifest

open Toml (Value Entries Fault)
open Toml.Decode (Slot ThreeSlots then_ok_eq_ok_iff pass_then_eq_ok_iff string_then_eq_ok_iff)

/-! ## The form -/

/-- Whether a field is an array whose elements stand for the members of a list, in order. A field that is missing stands
for the empty list. -/
def Lists {α : Type} (Is : Value → α → Prop) : Option Value → List α → Prop
  | none, xs => xs = []
  | some v, xs => ∃ elements, v.elements? = some elements ∧ List.Forall₂ Is elements xs

/-- A value that stands for a property. -/
structure IsProperty (v : Value) (p : Property) : Prop where
  name : v.field? 0 "name".toList = some (.string p.name)
  type : v.field? 1 "type".toList = some (.string p.type)
  summary : v.field? 2 "summary".toList = p.summary.map .string

/-- A value that stands for an object. -/
structure IsObject (v : Value) (o : Object) : Prop where
  name : v.field? 0 "name".toList = some (.string o.name)
  fullName : v.field? 1 "full_name".toList = some (.string o.fullName)
  properties : Lists IsProperty (v.field? 2 "property".toList) o.properties

/-- A document that declares objects, in order. -/
def Declares (es : Entries) (objects : List Object) : Prop := Lists IsObject (es.find? "object".toList) objects

/-- The keys of a property. -/
def propertyKeys : List Text := ["name".toList, "type".toList, "summary".toList]

/-- The keys of an object. -/
def objectKeys : List Text := ["name".toList, "full_name".toList, "property".toList]

/-- The elements of a field that is an array. -/
def elements (f : Option Value) : List Value := (f.bind Value.elements?).getD []

/-- The values under keys that the form does not name, in an object and in its properties. -/
def unnamedOfObject (v : Value) : List Value :=
  v.unnamed objectKeys ++ (elements (v.field? 2 "property".toList)).flatMap (Value.unnamed propertyKeys)

/-- The values under keys that the form does not name, in a document, its objects and their properties. -/
def unnamed (es : Entries) : List Value :=
  (Value.table .header es).unnamed ["object".toList] ++ (elements (es.find? "object".toList)).flatMap unnamedOfObject

/-! ## Properties -/

/-- What an entry does to a property. -/
theorem propertyField_eq_ok_iff {draft next : PropertyDraft} {key : Text} {v : Value} :
    propertyField draft key v = .ok next ↔
      (key = "name".toList ∧ ∃ t, v = .string t ∧ next = { draft with name := some t }) ∨
      (key = "type".toList ∧ ∃ t, v = .string t ∧ next = { draft with type := some t }) ∨
      (key = "summary".toList ∧ ∃ t, v = .string t ∧ next = { draft with summary := some t }) ∨
      (key ∉ propertyKeys ∧ v.Sound ∧ next = draft) := by
  delta propertyField
  split
  · rename_i hk
    subst hk
    exact string_then_eq_ok_iff.trans (by simp [propertyKeys])
  split
  · rename_i hk
    subst hk
    exact string_then_eq_ok_iff.trans (by simp [propertyKeys])
  split
  · rename_i hk
    subst hk
    exact string_then_eq_ok_iff.trans (by simp [propertyKeys])
  · rename_i hn ht hs
    refine pass_then_eq_ok_iff.trans ?_
    simp only [hn, ht, hs, propertyKeys, List.mem_cons, List.not_mem_nil, or_self, not_false_eq_true, false_and, true_and,
      false_or]

/-- A property has slots for a name, a type and a summary. -/
theorem threeSlots_propertyField :
    ThreeSlots propertyField (fun v => (Toml.Decode.string v).map some) "name".toList "type".toList "summary".toList
      PropertyDraft.name PropertyDraft.type PropertyDraft.summary where
  first_ne_second := by decide
  first_ne_third := by decide
  second_ne_third := by decide
  step hf := by
    rcases propertyField_eq_ok_iff.mp hf with ⟨hk, t, hv, rfl⟩ | ⟨hk, t, hv, rfl⟩ | ⟨hk, t, rfl, rfl⟩ | h
    · exact Or.inl ⟨hk, t, hv, rfl, rfl, rfl⟩
    · exact Or.inr (Or.inl ⟨hk, t, hv, rfl, rfl, rfl⟩)
    · exact Or.inr (Or.inr (Or.inl ⟨hk, rfl, rfl, rfl⟩))
    · exact Or.inr (Or.inr (Or.inr h))
  takes_first draft t := ⟨_, propertyField_eq_ok_iff.mpr (Or.inl ⟨rfl, t, rfl, rfl⟩)⟩
  takes_second draft t := ⟨_, propertyField_eq_ok_iff.mpr (Or.inr (Or.inl ⟨rfl, t, rfl, rfl⟩))⟩
  takes_third draft v x hx := by
    obtain ⟨t, rfl, -⟩ := Toml.Decode.map_some_string_eq_ok_iff.mp hx
    exact ⟨_, propertyField_eq_ok_iff.mpr (Or.inr (Or.inr (Or.inl ⟨rfl, t, rfl, rfl⟩)))⟩
  takes_other draft key v hk hv := ⟨_, propertyField_eq_ok_iff.mpr (Or.inr (Or.inr (Or.inr ⟨hk, hv, rfl⟩)))⟩

/-- A draft of a property is finished if and only if it has a name and a type. -/
theorem finishProperty_eq_ok_iff (draft : PropertyDraft) (p : Property) :
    finishProperty draft = .ok p ↔ ∃ s t, draft.name = some s ∧ draft.type = some t ∧ ⟨s, t, draft.summary⟩ = p := by
  simp only [finishProperty, Toml.bind_eq_ok_iff, Toml.Decode.required_eq_ok_iff]
  constructor
  · rintro ⟨s, hs, t, ht, hp⟩
    exact ⟨s, t, hs, ht, Except.ok.inj hp⟩
  · rintro ⟨s, t, hs, ht, rfl⟩
    exact ⟨s, hs, t, ht, rfl⟩

/-- A property is read from a value that stands for it, if every number under another key has a value. -/
theorem property_eq_ok_iff {v : Value} (hv : v.Ordered) {p : Property} :
    property v = .ok p ↔ IsProperty v p ∧ ∀ w ∈ v.unnamed propertyKeys, w.Sound := by
  refine (threeSlots_propertyField.record_eq_ok_iff rfl rfl finishProperty_eq_ok_iff (fun _ => rfl) _ hv p).trans
    (and_congr_left fun _ => ?_)
  simp only [Toml.Decode.readOr_string_eq_ok_iff]
  constructor
  · rintro ⟨s, t, x, ⟨hs, ht, hx⟩, rfl⟩
    exact ⟨hs, ht, hx⟩
  · exact fun h => ⟨p.name, p.type, p.summary, ⟨h.name, h.type, h.summary⟩, rfl⟩

/-! ## Lists of records -/

theorem elements?_eq_some {f : Option Value} {v : Value} {vs : List Value} (hf : f = some v)
    (he : v.elements? = some vs) : elements f = vs := by
  rw [elements, hf, Option.bind_some, he, Option.getD_some]

/-- The elements of an ordered field are ordered. -/
theorem ordered_elements {f : Option Value} (hf : ∀ v, f = some v → v.Ordered) : ∀ w ∈ elements f, w.Ordered := by
  cases f with
  | none => nofun
  | some v =>
    have hv := hf v rfl
    cases v with
    | array vs => exact (Toml.ordered_array_iff _).mp hv
    | tables vs => exact (Toml.ordered_tables_iff _).mp hv
    | _ => nofun

/-- A list is read from a field if and only if the elements of the field read as its members, in order. -/
theorem readOr_list_eq_ok_iff {α : Type} {item : Value → Except Fault α} {f : Option Value} {xs : List α} :
    Toml.Decode.readOr [] (Toml.Decode.list item) f = .ok xs ↔ Lists (fun v x => item v = .ok x) f xs := by
  cases f with
  | none => exact ⟨fun h => (Except.ok.inj h).symm, fun h => congrArg Except.ok h.symm⟩
  | some v => exact Toml.Decode.list_eq_ok_iff

/-- What is asked of each element besides is asked of all of them. -/
theorem forall₂_and_iff {α : Type} {Reads Is : Value → α → Prop} {Also : Value → Prop} {vs : List Value} {xs : List α}
    (h : ∀ v ∈ vs, ∀ x, Reads v x ↔ Is v x ∧ Also v) :
    List.Forall₂ Reads vs xs ↔ List.Forall₂ Is vs xs ∧ ∀ v ∈ vs, Also v := by
  induction vs generalizing xs with
  | nil => simp
  | cons v vs ih =>
    rw [List.forall_mem_cons] at h
    simp only [List.forall₂_cons_left_iff, List.forall_mem_cons, h.1, ih h.2]
    constructor
    · rintro ⟨x, ys, ⟨hx, hv⟩, ⟨hys, hvs⟩, rfl⟩
      exact ⟨⟨x, ys, hx, hys, rfl⟩, hv, hvs⟩
    · rintro ⟨⟨x, ys, hx, hys, rfl⟩, hv, hvs⟩
      exact ⟨x, ys, ⟨hx, hv⟩, ⟨hys, hvs⟩, rfl⟩

/-- What is required of each element besides what it stands for is required of all of them. -/
theorem lists_and_iff {α : Type} {Reads Is : Value → α → Prop} {Also : Value → Prop} {f : Option Value} {xs : List α}
    (h : ∀ v ∈ elements f, ∀ x, Reads v x ↔ Is v x ∧ Also v) :
    Lists Reads f xs ↔ Lists Is f xs ∧ ∀ v ∈ elements f, Also v := by
  cases f with
  | none => exact ⟨fun hx => ⟨hx, nofun⟩, fun hx => hx.1⟩
  | some v =>
    constructor
    · rintro ⟨vs, he, hvs⟩
      rw [elements?_eq_some rfl he] at h ⊢
      have hboth := (forall₂_and_iff h).mp hvs
      exact ⟨⟨vs, he, hboth.1⟩, hboth.2⟩
    · rintro ⟨⟨vs, he, hvs⟩, hall⟩
      rw [elements?_eq_some rfl he] at h hall
      exact ⟨vs, he, (forall₂_and_iff h).mpr ⟨hvs, hall⟩⟩

/-! ## Objects -/

/-- What an entry does to an object. -/
theorem objectField_eq_ok_iff {draft next : ObjectDraft} {key : Text} {v : Value} :
    objectField draft key v = .ok next ↔
      (key = "name".toList ∧ ∃ t, v = .string t ∧ next = { draft with name := some t }) ∨
      (key = "full_name".toList ∧ ∃ t, v = .string t ∧ next = { draft with fullName := some t }) ∨
      (key = "property".toList ∧ ∃ ps, Toml.Decode.list property v = .ok ps ∧
        next = { draft with properties := some ps }) ∨
      (key ∉ objectKeys ∧ v.Sound ∧ next = draft) := by
  delta objectField
  split
  · rename_i hk
    subst hk
    exact string_then_eq_ok_iff.trans (by simp [objectKeys])
  split
  · rename_i hk
    subst hk
    exact string_then_eq_ok_iff.trans (by simp [objectKeys])
  split
  · rename_i hk
    subst hk
    exact then_ok_eq_ok_iff.trans (by simp [objectKeys])
  · rename_i hn ht hs
    refine pass_then_eq_ok_iff.trans ?_
    simp only [hn, ht, hs, objectKeys, List.mem_cons, List.not_mem_nil, or_self, not_false_eq_true, false_and, true_and,
      false_or]

/-- An object has slots for a name, a full name and its properties. -/
theorem threeSlots_objectField :
    ThreeSlots objectField (Toml.Decode.list property) "name".toList "full_name".toList "property".toList
      ObjectDraft.name ObjectDraft.fullName (fun draft => draft.properties.getD []) where
  first_ne_second := by decide
  first_ne_third := by decide
  second_ne_third := by decide
  step hf := by
    rcases objectField_eq_ok_iff.mp hf with ⟨hk, t, hv, rfl⟩ | ⟨hk, t, hv, rfl⟩ | ⟨hk, ps, hps, rfl⟩ | h
    · exact Or.inl ⟨hk, t, hv, rfl, rfl, rfl⟩
    · exact Or.inr (Or.inl ⟨hk, t, hv, rfl, rfl, rfl⟩)
    · exact Or.inr (Or.inr (Or.inl ⟨hk, hps, rfl, rfl⟩))
    · exact Or.inr (Or.inr (Or.inr h))
  takes_first draft t := ⟨_, objectField_eq_ok_iff.mpr (Or.inl ⟨rfl, t, rfl, rfl⟩)⟩
  takes_second draft t := ⟨_, objectField_eq_ok_iff.mpr (Or.inr (Or.inl ⟨rfl, t, rfl, rfl⟩))⟩
  takes_third draft v ps hps := ⟨_, objectField_eq_ok_iff.mpr (Or.inr (Or.inr (Or.inl ⟨rfl, ps, hps, rfl⟩)))⟩
  takes_other draft key v hk hv := ⟨_, objectField_eq_ok_iff.mpr (Or.inr (Or.inr (Or.inr ⟨hk, hv, rfl⟩)))⟩

/-- A draft of an object is finished if and only if it has a name and a full name. -/
theorem finishObject_eq_ok_iff (draft : ObjectDraft) (o : Object) :
    finishObject draft = .ok o ↔
      ∃ s t, draft.name = some s ∧ draft.fullName = some t ∧ ⟨s, t, draft.properties.getD []⟩ = o := by
  simp only [finishObject, Toml.bind_eq_ok_iff, Toml.Decode.required_eq_ok_iff]
  constructor
  · rintro ⟨s, hs, t, ht, ho⟩
    exact ⟨s, t, hs, ht, Except.ok.inj ho⟩
  · rintro ⟨s, t, hs, ht, rfl⟩
    exact ⟨s, hs, t, ht, rfl⟩

/-- An object is read from a value that stands for it, if every number under another key, in it and in its properties, has
a value. -/
theorem object_eq_ok_iff {v : Value} (hv : v.Ordered) {o : Object} :
    object v = .ok o ↔ IsObject v o ∧ ∀ w ∈ unnamedOfObject v, w.Sound := by
  have hproperties : ∀ ps, Toml.Decode.readOr [] (Toml.Decode.list property) (v.field? 2 "property".toList) = .ok ps ↔
      Lists IsProperty (v.field? 2 "property".toList) ps ∧
        ∀ p ∈ elements (v.field? 2 "property".toList), ∀ w ∈ p.unnamed propertyKeys, w.Sound := by
    intro ps
    rw [readOr_list_eq_ok_iff]
    exact lists_and_iff fun p hp _ => property_eq_ok_iff (ordered_elements (fun _ => hv.field?) p hp)
  rw [unnamedOfObject, List.forall_mem_append, List.forall_mem_flatMap]
  refine (threeSlots_objectField.record_eq_ok_iff rfl rfl finishObject_eq_ok_iff (fun _ => rfl) _ hv o).trans ?_
  simp only [Option.getD_none, hproperties]
  constructor
  · rintro ⟨⟨s, t, x, ⟨hs, ht, hx, hsound⟩, rfl⟩, hown⟩
    exact ⟨⟨hs, ht, hx⟩, hown, hsound⟩
  · rintro ⟨h, hown, hsound⟩
    exact ⟨⟨o.name, o.fullName, o.properties, ⟨h.name, h.fullName, h.properties, hsound⟩, rfl⟩, hown⟩

/-! ## Documents -/

/-- An entry of a document gives its objects if it is under their key, and else changes nothing if it is sound. -/
theorem documentField_eq_ok_iff {objects next : List Object} {key : Text} {v : Value} :
    documentField objects key v = .ok next ↔
      (key = "object".toList ∧ Toml.Decode.list object v = .ok next) ∨
      (key ∉ ["object".toList] ∧ v.Sound ∧ next = objects) := by
  delta documentField
  split
  · rename_i hk
    subst hk
    simp
  · rename_i hk
    refine pass_then_eq_ok_iff.trans ?_
    simp only [hk, List.mem_singleton, not_false_eq_true, false_and, true_and, false_or]

/-- A document has one slot, for its objects. -/
theorem slot_documentField : Slot documentField "object".toList (Toml.Decode.list object) id where
  fills hf := by
    rcases documentField_eq_ok_iff.mp hf with ⟨-, hl⟩ | ⟨hk, -⟩
    · exact hl
    · exact absurd List.mem_cons_self hk
  keeps hf hne := by
    rcases documentField_eq_ok_iff.mp hf with ⟨hk, -⟩ | ⟨-, -, rfl⟩
    · exact absurd hk hne
    · rfl

/-- An entry of a document is taken if and only if the objects under their key can be read, or, under another key, it is
sound. -/
theorem takes_documentField (objects : List Object) (key : Text) (v : Value) :
    (∃ next, documentField objects key v = .ok next) ↔
      (key = "object".toList → ∃ xs, Toml.Decode.list object v = .ok xs) ∧ (key ∉ ["object".toList] → v.Sound) := by
  simp only [documentField_eq_ok_iff]
  constructor
  · rintro ⟨next, ⟨rfl, hl⟩ | ⟨hk, hv, -⟩⟩
    · exact ⟨fun _ => ⟨next, hl⟩, fun hk => absurd List.mem_cons_self hk⟩
    · exact ⟨fun he => absurd (List.mem_singleton.mpr he) hk, fun _ => hv⟩
  · rintro ⟨hlist, hsound⟩
    by_cases hk : key ∈ ["object".toList]
    · obtain ⟨xs, hxs⟩ := hlist (List.mem_singleton.mp hk)
      exact ⟨xs, Or.inl ⟨List.mem_singleton.mp hk, hxs⟩⟩
    · exact ⟨objects, Or.inr ⟨hk, hsound hk, rfl⟩⟩

/-- The objects of a document are those that it declares, if every number under an unnamed key has a value. -/
theorem document_eq_ok_iff {es : Entries} (ho : Entries.Ordered es) {objects : List Object} :
    document (.table .header es) = .ok objects ↔ Declares es objects ∧ ∀ v ∈ unnamed es, v.Sound := by
  have hobjects : Toml.Decode.readOr [] (Toml.Decode.list object) (es.find? "object".toList) = .ok objects ↔
      Declares es objects ∧ ∀ v ∈ elements (es.find? "object".toList), ∀ w ∈ unnamedOfObject v, w.Sound := by
    rw [readOr_list_eq_ok_iff]
    exact lists_and_iff fun v hv _ => object_eq_ok_iff (ordered_elements (fun _ hf => ho.value hf) v hv)
  have hfold := Toml.Decode.foldlM_eq_ok_iff takes_documentField es []
  rw [unnamed, List.forall_mem_append, List.forall_mem_flatMap, Value.forall_mem_unnamed]
  refine Toml.bind_eq_ok_iff.trans ⟨?_, ?_⟩
  · rintro ⟨_, hd, ⟨⟩⟩
    obtain ⟨hdeclares, hsound⟩ := hobjects.mp (slot_documentField.foldlM ho.keys hd)
    exact ⟨hdeclares, fun e he => (hfold.mp ⟨objects, hd⟩ e he).2, hsound⟩
  · rintro ⟨hdeclares, hown, hsound⟩
    have hread := hobjects.mpr ⟨hdeclares, hsound⟩
    obtain ⟨draft, hd⟩ := hfold.mpr fun e he => by
      refine ⟨?_, hown e he⟩
      intro hk
      rw [(ho.find?_eq_some_iff _ e.2).mpr (hk ▸ he)] at hread
      exact ⟨objects, hread⟩
    exact ⟨draft, hd, (slot_documentField.foldlM ho.keys hd).symm.trans hread⟩

/-- A manifest is read as the objects that it declares, if every number under an unnamed key has a value. -/
theorem read_eq_ok_iff {t : Text} {es : Entries} (h : Toml.document? t = some es) {objects : List Object} :
    read t = .ok objects ↔ Declares es objects ∧ ∀ v ∈ unnamed es, v.Sound := by
  rw [read, Toml.decode, h]
  exact document_eq_ok_iff (Toml.ordered_document? h)

/-! ## Documents with the same fields -/

/-- Two fields with the same text, or both without one. -/
def SameText (f g : Option Value) : Prop := ∀ t, f = some (.string t) ↔ g = some (.string t)

/-- Two fields that are arrays of elements alike, place by place, or neither an array and either both missing or both
there. -/
inductive SameElements (Same : Value → Value → Prop) : Option Value → Option Value → Prop
  | missing : SameElements Same none none
  | arrays {v w : Value} {vs ws : List Value} : v.elements? = some vs → w.elements? = some ws →
      List.Forall₂ Same vs ws → SameElements Same (some v) (some w)
  | others {v w : Value} : v.elements? = none → w.elements? = none → SameElements Same (some v) (some w)

/-- Two values with the same fields of a property, whatever else is in them. -/
structure SameProperty (v w : Value) : Prop where
  name : SameText (v.field? 0 "name".toList) (w.field? 0 "name".toList)
  type : SameText (v.field? 1 "type".toList) (w.field? 1 "type".toList)
  summary : SameText (v.field? 2 "summary".toList) (w.field? 2 "summary".toList)
  summaryMissing : v.field? 2 "summary".toList = none ↔ w.field? 2 "summary".toList = none

/-- Two values with the same fields of an object, whatever else is in them and in their properties. -/
structure SameObject (v w : Value) : Prop where
  name : SameText (v.field? 0 "name".toList) (w.field? 0 "name".toList)
  fullName : SameText (v.field? 1 "full_name".toList) (w.field? 1 "full_name".toList)
  properties : SameElements SameProperty (v.field? 2 "property".toList) (w.field? 2 "property".toList)

/-- Two documents with the same fields of a manifest, whatever else is in them, in their objects and in the properties of
those. -/
def SameDocument (es es' : Entries) : Prop :=
  SameElements SameObject (es.find? "object".toList) (es'.find? "object".toList)

/-- Values with the same fields of a property stand for the same properties. -/
theorem SameProperty.isProperty_iff {v w : Value} (h : SameProperty v w) (p : Property) :
    IsProperty v p ↔ IsProperty w p := by
  have hsummary : v.field? 2 "summary".toList = p.summary.map .string ↔
      w.field? 2 "summary".toList = p.summary.map .string := by
    cases p.summary with
    | none => exact h.summaryMissing
    | some t => exact h.summary t
  exact ⟨fun hp => ⟨(h.name _).mp hp.name, (h.type _).mp hp.type, hsummary.mp hp.summary⟩,
    fun hp => ⟨(h.name _).mpr hp.name, (h.type _).mpr hp.type, hsummary.mpr hp.summary⟩⟩

/-- Fields with elements alike stand for the same lists. -/
theorem SameElements.lists_iff {α : Type} {Same : Value → Value → Prop} {Is : Value → α → Prop} {f g : Option Value}
    (h : SameElements Same f g) (hsame : ∀ {v w}, Same v w → ∀ x, Is v x ↔ Is w x) (xs : List α) :
    Lists Is f xs ↔ Lists Is g xs := by
  cases h with
  | missing => exact Iff.rfl
  | arrays hv hw hvw =>
    rename_i v w vs ws
    have hforall : List.Forall₂ Is vs xs ↔ List.Forall₂ Is ws xs := by
      clear hv hw
      induction hvw generalizing xs with
      | nil => exact Iff.rfl
      | cons hab _ ih => simp only [List.forall₂_cons_left_iff, hsame hab, ih]
    simp only [Lists, hv, hw, Option.some.injEq, exists_eq_left', hforall]
  | others hv hw =>
    constructor
    · rintro ⟨vs, hvs, -⟩
      nomatch hv.symm.trans hvs
    · rintro ⟨ws, hws, -⟩
      nomatch hw.symm.trans hws

/-- Values with the same fields of an object stand for the same objects. -/
theorem SameObject.isObject_iff {v w : Value} (h : SameObject v w) (o : Object) : IsObject v o ↔ IsObject w o := by
  have hproperties := h.properties.lists_iff SameProperty.isProperty_iff o.properties
  exact ⟨fun ho => ⟨(h.name _).mp ho.name, (h.fullName _).mp ho.fullName, hproperties.mp ho.properties⟩,
    fun ho => ⟨(h.name _).mpr ho.name, (h.fullName _).mpr ho.fullName, hproperties.mpr ho.properties⟩⟩

/-- Documents with the same fields of a manifest declare the same objects. -/
theorem SameDocument.declares_iff {es es' : Entries} (h : SameDocument es es') (objects : List Object) :
    Declares es objects ↔ Declares es' objects :=
  SameElements.lists_iff h SameObject.isObject_iff objects

/-- A key that no property has changes no field of one. -/
theorem SameProperty.set {key : Text} (hk : key ∉ propertyKeys) (origin : Toml.TableOrigin) (es : Entries) (v : Value) :
    SameProperty (.table origin es) (.table origin (es.set key v)) := by
  have hfield : ∀ named ∈ propertyKeys, ∀ place,
      (Value.table origin (es.set key v)).field? place named = (Value.table origin es).field? place named :=
    fun named hn => Value.field?_set (fun he : key = named => hk (he ▸ hn)) origin es v
  refine ⟨fun _ => ?_, fun _ => ?_, fun _ => ?_, ?_⟩
  · rw [hfield _ (by decide)]
  · rw [hfield _ (by decide)]
  · rw [hfield _ (by decide)]
  · rw [hfield _ (by decide)]

theorem SameProperty.refl (v : Value) : SameProperty v v :=
  ⟨fun _ => Iff.rfl, fun _ => Iff.rfl, fun _ => Iff.rfl, Iff.rfl⟩

theorem SameElements.refl {Same : Value → Value → Prop} (hsame : ∀ v, Same v v) (f : Option Value) :
    SameElements Same f f := by
  cases f with
  | none => exact .missing
  | some v =>
    cases he : v.elements? with
    | none => exact .others he he
    | some vs => exact .arrays he he (List.forall₂_same.mpr fun v _ => hsame v)

/-- A key that no object has changes no field of one. -/
theorem SameObject.set {key : Text} (hk : key ∉ objectKeys) (origin : Toml.TableOrigin) (es : Entries) (v : Value) :
    SameObject (.table origin es) (.table origin (es.set key v)) := by
  have hfield : ∀ named ∈ objectKeys, ∀ place,
      (Value.table origin (es.set key v)).field? place named = (Value.table origin es).field? place named :=
    fun named hn => Value.field?_set (fun he : key = named => hk (he ▸ hn)) origin es v
  refine ⟨fun _ => ?_, fun _ => ?_, ?_⟩
  · rw [hfield _ (by decide)]
  · rw [hfield _ (by decide)]
  · rw [hfield _ (by decide)]
    exact .refl .refl _

theorem SameObject.refl (v : Value) : SameObject v v := ⟨fun _ => Iff.rfl, fun _ => Iff.rfl, .refl .refl _⟩

/-- A key that the document does not have changes no field of it. -/
theorem SameDocument.set {key : Text} (hk : key ≠ "object".toList) (es : Entries) (v : Value) :
    SameDocument es (es.set key v) := by
  rw [SameDocument, Entries.find?_set, if_neg hk]
  exact .refl .refl _

/-! ## Manifests -/

/-- A manifest at a path is read as what its text is read as. -/
theorem readManifest_eq_ok_iff {p : Path} {t : Text} {objects : List Object} :
    Run.readManifest p t = .ok objects ↔ read t = .ok objects := by
  rw [Run.readManifest]
  cases read t with
  | ok _ => simp only [Except.ok.injEq]
  | error fault => exact ⟨nofun, nofun⟩

/-- A manifest is read as a list of objects if and only if its document declares these, and every number under a key that the
form does not name has a value. So documents with the same fields are read alike, whatever keys the one has and the other has
not, if both or neither have a number without a value there. -/
theorem readManifest_iff_declares (p : Path) {t : Text} {es : Entries} (h : Toml.document? t = some es) :
    (∀ objects, Run.readManifest p t = .ok objects ↔ Declares es objects ∧ ∀ v ∈ unnamed es, v.Sound) ∧
      ∀ u es', Toml.document? u = some es' → SameDocument es es' →
        ((∀ v ∈ unnamed es, v.Sound) ↔ ∀ v ∈ unnamed es', v.Sound) →
        ∀ objects, Run.readManifest p t = .ok objects ↔ Run.readManifest p u = .ok objects := by
  refine ⟨fun objects => readManifest_eq_ok_iff.trans (read_eq_ok_iff h), fun u es' hu hsame hsound objects => ?_⟩
  rw [readManifest_eq_ok_iff, readManifest_eq_ok_iff, read_eq_ok_iff h, read_eq_ok_iff hu, hsame.declares_iff, hsound]

/-- A manifest with one object, and in the document, in the object and in its second property what else is to stand there. -/
def orderText (document object property : String) : Text :=
  document.toList ++ "[[object]]\nname = \"Order\"\nfull_name = \"Shop.Order\"\n".toList ++ object.toList ++
    "property = [[\"Id\", \"int\"], \x7b".toList ++ property.toList ++
    "name = \"Note\", type = \"string\", summary = \"\"\x7d]\n".toList

/-- The second property. -/
def noteTable : Entries :=
  [("name".toList, .string "Note".toList), ("summary".toList, .string []), ("type".toList, .string "string".toList)]

/-- The object, given its second property. -/
def orderTable (note : Entries) : Entries :=
  [("full_name".toList, .string "Shop.Order".toList), ("name".toList, .string "Order".toList),
    ("property".toList, .array [.array [.string "Id".toList, .string "int".toList], .table .inline note])]

/-- The document, given its object. -/
def orderDocument (order : Entries) : Entries := [("object".toList, .tables [.table .header order])]

/-- What the manifest declares. -/
def order : Object :=
  ⟨"Order".toList, "Shop.Order".toList, [⟨"Id".toList, "int".toList, none⟩, ⟨"Note".toList, "string".toList, some []⟩]⟩

/-- The document with the one order declares it. -/
theorem declares_order : Declares (orderDocument (orderTable noteTable)) [order] :=
  ⟨_, rfl, .cons ⟨rfl, rfl, _, rfl, .cons ⟨rfl, rfl, rfl⟩ (.cons ⟨rfl, rfl, rfl⟩ .nil)⟩ .nil⟩

/-- The object with a decimal in it. -/
def rankedTable : Entries := (orderTable noteTable).set "rank".toList (.float (.decimal false 25 (-1)))

/-- The second property with a table in it. -/
def unitTable : Entries := noteTable.set "unit".toList (.table .inline [("is".toList, .integer 7)])

set_option maxRecDepth 4096 in
/-- The manifest is read with and without a date in the document, a decimal in the object, or a table in its property. -/
theorem order_read :
    Run.readManifest "shop.toml".toList (orderText "" "" "") = .ok [order] ∧
      Run.readManifest "shop.toml".toList (orderText "tag = 1979-05-27\n" "" "") = .ok [order] ∧
      Run.readManifest "shop.toml".toList (orderText "" "rank = 2.5\n" "") = .ok [order] ∧
      Run.readManifest "shop.toml".toList (orderText "" "" "unit = \x7bis = 7\x7d, ") = .ok [order] := by
  have hplain : Toml.document? (orderText "" "" "") = some (orderDocument (orderTable noteTable)) := rfl
  have hread := readManifest_iff_declares "shop.toml".toList hplain
  have hsound : ∀ v ∈ unnamed (orderDocument (orderTable noteTable)), v.Sound := nofun
  have hok := (hread.1 [order]).mpr ⟨declares_order, hsound⟩
  have halike : ∀ u es', Toml.document? u = some es' → SameDocument (orderDocument (orderTable noteTable)) es' →
      (∀ v ∈ unnamed es', v.Sound) → Run.readManifest "shop.toml".toList u = .ok [order] :=
    fun u es' hu hsame hs => (hread.2 u es' hu hsame ⟨fun _ => hs, fun _ => hsound⟩ [order]).mp hok
  refine ⟨hok, ?_, ?_, ?_⟩
  · refine halike _ ((orderDocument (orderTable noteTable)).set "tag".toList (.dateTime "1979-05-27".toList)) rfl
      (.set (by decide) _ _) fun v hv => ?_
    rw [List.mem_singleton.mp hv]
    exact .dateTime _
  · have hrank : SameObject (.table .header (orderTable noteTable)) (.table .header rankedTable) := .set (by decide) _ _ _
    refine halike _ (orderDocument rankedTable) rfl (.arrays rfl rfl (.cons hrank .nil)) fun v hv => ?_
    rw [List.mem_singleton.mp hv]
    obtain ⟨x, hx⟩ := Option.isSome_iff_exists.mp (by decide +kernel : (Double.ofDecimal? 25 (-1)).isSome = true)
    exact .decimal false hx
  · have hunit : SameProperty (.table .inline noteTable) (.table .inline unitTable) := .set (by decide) _ _ _
    have horder : SameObject (.table .header (orderTable noteTable)) (.table .header (orderTable unitTable)) :=
      ⟨fun _ => Iff.rfl, fun _ => Iff.rfl, .arrays rfl rfl (.cons (.refl _) (.cons hunit .nil))⟩
    refine halike _ (orderDocument (orderTable unitTable)) rfl (.arrays rfl rfl (.cons horder .nil)) fun v hv => ?_
    rw [List.mem_singleton.mp hv]
    refine .table _ fun e he => ?_
    rw [List.mem_singleton.mp he]
    exact .integer (by decide) (by decide)

/-- A number that is beyond every double makes a manifest fail, though it stands under a key that the form does not name, and
the manifest declares nothing without it. -/
theorem unnamed_number_refused : ∃ es, Toml.document? "a=1e999".toList = some es ∧ Declares es [] ∧
    Run.readManifest "models/shop.toml".toList "a=1e999".toList =
      .error (.manifestInvalid "models/shop.toml".toList .outOfRange) ∧
    Run.readManifest "models/shop.toml".toList [] = .ok [] :=
  ⟨[("a".toList, .float (.decimal false 1 999))], rfl, rfl, by decide +kernel, by decide +kernel⟩

end ModelStubs.Manifest
