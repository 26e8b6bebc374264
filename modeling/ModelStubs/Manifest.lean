import ModelStubs.Model
import ModelStubs.Toml.Decode

/-!
# Model manifests

A manifest is a TOML document that declares objects under `[[object]]` and their properties under `[[object.property]]`.
Keys that the form does not know are passed over.
-/

namespace ModelStubs.Manifest

open Toml (Fault Value)

/-- A property of which some fields were read. -/
structure PropertyDraft where
  name : Option Text
  type : Option Text
  summary : Option Text

/-- Take the value of a key into a property. -/
def propertyField (draft : PropertyDraft) (key : Text) (v : Value) : Except Fault PropertyDraft := do
  if key = "name".toList then return { draft with name := some (← Toml.Decode.string v) }
  else if key = "type".toList then return { draft with type := some (← Toml.Decode.string v) }
  else if key = "summary".toList then return { draft with summary := some (← Toml.Decode.string v) }
  else
    v.pass
    return draft

/-- The property of a finished draft. -/
def finishProperty (draft : PropertyDraft) : Except Fault Property := do
  return ⟨← Toml.Decode.required "name" draft.name, ← Toml.Decode.required "type" draft.type, draft.summary⟩

/-- A property as the array of its fields. -/
def propertyFromArray (elements : List Value) : Except Fault Property := do
  let (name, rest) ← Toml.Decode.element Toml.Decode.string elements
  let (type, rest) ← Toml.Decode.element Toml.Decode.string rest
  let (summary, _) ← Toml.Decode.elementOr none (fun v => (Toml.Decode.string v).map some) rest
  return ⟨name, type, summary⟩

/-- A property. -/
def property : Value → Except Fault Property :=
  Toml.Decode.record "struct ModelProperty" ⟨none, none, none⟩ propertyField finishProperty propertyFromArray

/-- An object of which some fields were read. -/
structure ObjectDraft where
  name : Option Text
  fullName : Option Text
  properties : Option (List Property)

/-- Take the value of a key into an object. -/
def objectField (draft : ObjectDraft) (key : Text) (v : Value) : Except Fault ObjectDraft := do
  if key = "name".toList then return { draft with name := some (← Toml.Decode.string v) }
  else if key = "full_name".toList then return { draft with fullName := some (← Toml.Decode.string v) }
  else if key = "property".toList then return { draft with properties := some (← Toml.Decode.list property v) }
  else
    v.pass
    return draft

/-- The object of a finished draft. -/
def finishObject (draft : ObjectDraft) : Except Fault Object := do
  return ⟨← Toml.Decode.required "name" draft.name, ← Toml.Decode.required "full_name" draft.fullName,
    draft.properties.getD []⟩

/-- An object as the array of its fields. -/
def objectFromArray (elements : List Value) : Except Fault Object := do
  let (name, rest) ← Toml.Decode.element Toml.Decode.string elements
  let (fullName, rest) ← Toml.Decode.element Toml.Decode.string rest
  let (properties, _) ← Toml.Decode.elementOr [] (Toml.Decode.list property) rest
  return ⟨name, fullName, properties⟩

/-- An object. -/
def object : Value → Except Fault Object :=
  Toml.Decode.record "struct ModelObject" ⟨none, none, none⟩ objectField finishObject objectFromArray

/-- Take the value of a key of the document into its objects. -/
def documentField (objects : List Object) (key : Text) (v : Value) : Except Fault (List Object) := do
  if key = "object".toList then Toml.Decode.list object v
  else
    v.pass
    return objects

/-- The objects of the table of a document. -/
def document : Value → Except Fault (List Object) :=
  Toml.Decode.record "struct ModelManifest" [] documentField .ok fun elements =>
    (Toml.Decode.elementOr [] (Toml.Decode.list object) elements).map Prod.fst

/-- The objects that the text of a manifest declares, in order. -/
def read (t : Text) : Except Fault (List Object) := Toml.decode document t

end ModelStubs.Manifest
