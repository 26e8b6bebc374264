import ModelStubs.Proofs.Schema
import ModelStubs.Proofs.Toml.Document

/-!
# Manifests are read back

A list of objects as a manifest in the documented form (`toText`), with its texts quoted on one line in any spelling. Every line
is read as the statement that it was written for (`readsLine_objectLines`), the statements are the sections of the manifest
(`sections_statements`), and each section adds its object, or its property to the object before it (`addSection_object`,
`addSection_property`). So the manifest declares the objects and nothing else, and is read as they were
(`readManifest_toText`).
-/

namespace ModelStubs

open Toml (Value Entries Statement Header Section ReadsLine)

/-! ## Sections -/

/-- The statements of a section. -/
def Toml.statementsOf (part : Section) : List Statement :=
  .header part.1 :: part.2.map fun pair => .pair pair.1 pair.2

/-- Statements that were put together from sections are taken apart into them. -/
theorem Toml.sections_statements (header : Header) (parts : List Section) :
    Toml.sections header (parts.flatMap Toml.statementsOf) = (header, []) :: parts := by
  have pairs : ∀ (next : Header) (pairs : List (List Text × Value)) (rest : List Statement) (more : List Section),
      Toml.sections next rest = (next, []) :: more →
      Toml.sections next ((pairs.map fun pair => .pair pair.1 pair.2) ++ rest) = (next, pairs) :: more := by
    intro next pairs rest more hrest
    induction pairs with
    | nil => exact hrest
    | cons pair pairs ih =>
      rw [List.map_cons, List.cons_append, Toml.sections, ih]
  induction parts generalizing header with
  | nil => rfl
  | cons part parts ih =>
    rw [List.flatMap_cons, Toml.statementsOf, List.cons_append, Toml.sections, pairs _ _ _ _ (ih part.1)]

namespace Manifest

/-! ## The text -/

/-- The header of an object. -/
def objectHeader : Text := "[[object]]\n".toList

/-- The header of a property of the object before it. -/
def propertyHeader : Text := "[[object.property]]\n".toList

section Text

variable (quote : Text → Text)

/-- The lines of texts under their keys. -/
def fieldsText (fields : List (String × Text)) : Text := fields.flatMap fun f => Toml.Write.pair f.1 (quote f.2)

/-- The keys of a property with their texts. -/
def propertyFields (p : Property) : List (String × Text) :=
  ("name", p.name) :: ("type", p.type) :: (p.summary.map fun summary => ("summary", summary)).toList

/-- The keys of an object with their texts. -/
def objectFields (o : Object) : List (String × Text) := [("name", o.name), ("full_name", o.fullName)]

/-- A property in a manifest. -/
def propertyText (p : Property) : Text := propertyHeader ++ fieldsText quote (propertyFields p)

/-- An object in a manifest, followed by its properties. -/
def objectText (o : Object) : Text :=
  objectHeader ++ fieldsText quote (objectFields o) ++ o.properties.flatMap (propertyText quote)

/-- The manifest of objects. -/
def toText (objects : List Object) : Text := objects.flatMap (objectText quote)

end Text

/-! ## Lines -/

/-- The pairs of texts under their keys. -/
def pairs (fields : List (String × Text)) : List (List Text × Value) := fields.map fun f => ([f.1.toList], .string f.2)

/-- The section of a property. -/
def propertySection (p : Property) : Section :=
  (.element ["object".toList, "property".toList], pairs (propertyFields p))

/-- The section of an object. -/
def objectSection (o : Object) : Section := (.element ["object".toList], pairs (objectFields o))

/-- The sections of objects, each followed by those of its properties. -/
def sectionsOf (objects : List Object) : List Section :=
  objects.flatMap fun o => objectSection o :: o.properties.map propertySection

section Lines

variable (quote : Text → Text)

/-- The lines of a section, with what each says. -/
def partLines (line : Text) (header : Header) (fields : List (String × Text)) : List (Text × Statement) :=
  (line, .header header) :: fields.map fun f => (Toml.Write.pair f.1 (quote f.2), .pair [f.1.toList] (.string f.2))

/-- The lines of a property. -/
def propertyLines (p : Property) : List (Text × Statement) :=
  partLines quote propertyHeader (.element ["object".toList, "property".toList]) (propertyFields p)

/-- The lines of an object and its properties. -/
def objectLines (o : Object) : List (Text × Statement) :=
  partLines quote objectHeader (.element ["object".toList]) (objectFields o) ++
    o.properties.flatMap (propertyLines quote)

/-- The lines of a section, one after the other, are its header and its texts under their keys. -/
theorem flatMap_partLines (line : Text) (header : Header) (fields : List (String × Text)) :
    (partLines quote line header fields).flatMap Prod.fst = line ++ fieldsText quote fields := by
  rw [partLines, List.flatMap_cons, List.flatMap_map, fieldsText]

/-- The lines of a section say the statements of that section. -/
theorem map_partLines (line : Text) (header : Header) (fields : List (String × Text)) :
    (partLines quote line header fields).map Prod.snd = Toml.statementsOf (header, pairs fields) := by
  simp [partLines, Toml.statementsOf, pairs]

/-- The lines of objects, one after the other, are their manifest. -/
theorem flatMap_objectLines (objects : List Object) :
    (objects.flatMap (objectLines quote)).flatMap Prod.fst = toText quote objects := by
  have hproperty : ∀ p, (propertyLines quote p).flatMap Prod.fst = propertyText quote p :=
    fun p => by rw [propertyLines, flatMap_partLines, propertyText]
  have hobject : ∀ o, (objectLines quote o).flatMap Prod.fst = objectText quote o := by
    intro o
    rw [objectLines, List.flatMap_append, flatMap_partLines, List.flatMap_assoc, objectText]
    simp only [hproperty]
  rw [List.flatMap_assoc, toText]
  simp only [hobject]

/-- The lines of objects say the statements of their sections. -/
theorem map_objectLines (objects : List Object) :
    (objects.flatMap (objectLines quote)).map Prod.snd = (sectionsOf objects).flatMap Toml.statementsOf := by
  have hproperty : ∀ p, (propertyLines quote p).map Prod.snd = Toml.statementsOf (propertySection p) :=
    fun p => by rw [propertyLines, map_partLines, propertySection]
  have hobject : ∀ o, (objectLines quote o).map Prod.snd =
      (objectSection o :: o.properties.map propertySection).flatMap Toml.statementsOf := by
    intro o
    rw [objectLines, List.map_append, map_partLines, List.map_flatMap, List.flatMap_cons, List.flatMap_map, objectSection]
    simp only [hproperty]
  rw [List.map_flatMap, sectionsOf, List.flatMap_assoc]
  simp only [hobject]

/-! ### Reading the lines -/

theorem readsLine_objectHeader :
    ReadsLine objectHeader (.header (.element ["object".toList])) :=
  fun rest => ⟨_, '\n' :: rest, rfl, by simp, rfl, rfl⟩

theorem readsLine_propertyHeader :
    ReadsLine propertyHeader (.header (.element ["object".toList, "property".toList])) :=
  fun rest => ⟨_, '\n' :: rest, rfl, by simp, rfl, rfl⟩

/-- Every line of a section reads as what it says if its header does and its keys are bare. -/
theorem readsLine_partLines (hq : ∀ t, Toml.Quoted.IsBasic t (quote t)) {line : Text} {header : Header}
    {fields : List (String × Text)} (hline : ReadsLine line (.header header))
    (hkeys : ∀ f ∈ fields, Toml.IsBareKey f.1.toList) : ∀ l ∈ partLines quote line header fields, ReadsLine l.1 l.2 := by
  rw [partLines, List.forall_mem_cons]
  refine ⟨hline, fun l hl => ?_⟩
  obtain ⟨f, hf, rfl⟩ := List.mem_map.mp hl
  exact Toml.readsLine_spelled (hkeys f hf) (hq f.2)

/-- Every line of objects reads as what it says. -/
theorem readsLine_objectLines (hq : ∀ t, Toml.Quoted.IsBasic t (quote t)) (objects : List Object) :
    ∀ l ∈ objects.flatMap (objectLines quote), ReadsLine l.1 l.2 := by
  have hobject : ∀ o, ∀ f ∈ objectFields o, Toml.IsBareKey f.1.toList := by
    intro o
    simp only [objectFields, List.forall_mem_cons]
    exact ⟨by decide, by decide, nofun⟩
  have hproperty : ∀ p, ∀ f ∈ propertyFields p, Toml.IsBareKey f.1.toList := by
    intro p
    simp only [propertyFields, List.forall_mem_cons]
    refine ⟨by decide, by decide, ?_⟩
    cases p.summary with
    | none => nofun
    | some summary =>
      intro f hf
      rw [List.mem_singleton.mp hf]
      show Toml.IsBareKey "summary".toList
      decide
  rw [List.forall_mem_flatMap]
  intro o _
  rw [objectLines, List.forall_mem_append, List.forall_mem_flatMap]
  exact ⟨readsLine_partLines quote hq readsLine_objectHeader (hobject o),
    fun p _ => readsLine_partLines quote hq readsLine_propertyHeader (hproperty p)⟩

end Lines

/-! ## Tables -/

/-- An array of tables under a key, if there are any. -/
def arrayEntry (key : Text) : List Value → Entries
  | [] => []
  | v :: vs => [(key, .tables (v :: vs))]

/-- An array of tables with one more at its end is there under its key. -/
theorem arrayEntry_concat (key : Text) (vs : List Value) (v : Value) :
    arrayEntry key (vs ++ [v]) = [(key, .tables (vs ++ [v]))] := by
  cases vs <;> rfl

/-- The entries of a property. -/
def propertyEntries (p : Property) : Entries :=
  ("name".toList, .string p.name) ::
    ((p.summary.map fun summary => ("summary".toList, Value.string summary)).toList ++ [("type".toList, .string p.type)])

/-- The table of a property. -/
def propertyTable (p : Property) : Value := .table .header (propertyEntries p)

/-- The entries of an object with some properties. -/
def objectEntries (o : Object) (properties : List Property) : Entries :=
  [("full_name".toList, .string o.fullName), ("name".toList, .string o.name)] ++
    arrayEntry "property".toList (properties.map propertyTable)

/-- The table of an object with its properties. -/
def objectTable (o : Object) : Value := .table .header (objectEntries o o.properties)

/-- The document of objects. -/
def entries (objects : List Object) : Entries := arrayEntry "object".toList (objects.map objectTable)

/-- The texts of an object make the entries of its table. -/
theorem addPairs_objectFields (o : Object) :
    Entries.addPairs [] (pairs (objectFields o)) =
      some [("full_name".toList, .string o.fullName), ("name".toList, .string o.name)] := by
  have hpairs : pairs (objectFields o) =
      [(["name".toList], .string o.name), (["full_name".toList], .string o.fullName)] := rfl
  rw [hpairs]
  rfl

/-- The texts of a property make the entries of its table. -/
theorem addPairs_propertyFields (p : Property) :
    Entries.addPairs [] (pairs (propertyFields p)) = some (propertyEntries p) := by
  obtain ⟨name, type, summary⟩ := p
  cases summary with
  | none =>
    have hpairs : pairs (propertyFields ⟨name, type, none⟩) =
        [(["name".toList], .string name), (["type".toList], .string type)] := rfl
    rw [hpairs]
    rfl
  | some summary =>
    have hpairs : pairs (propertyFields ⟨name, type, some summary⟩) =
        [(["name".toList], .string name), (["type".toList], .string type), (["summary".toList], .string summary)] := rfl
    rw [hpairs]
    rfl

/-- The section of an object adds a table without properties to the objects. -/
theorem addSection_object (vs : List Value) (o : Object) :
    Toml.addSection (arrayEntry "object".toList vs) (objectSection o) =
      some (arrayEntry "object".toList (vs ++ [.table .header (objectEntries o [])])) := by
  show Entries.openElement "object".toList (pairs (objectFields o)) (arrayEntry "object".toList vs) = _
  rw [Entries.openElement, addPairs_objectFields]
  cases vs <;> rfl

/-- The pairs of a property open a table at the end of the properties of an object. -/
theorem openElement_property (o : Object) (ps : List Property) (p : Property) :
    Entries.openElement "property".toList (pairs (propertyFields p)) (objectEntries o ps) =
      some (objectEntries o (ps ++ [p])) := by
  rw [Entries.openElement, addPairs_propertyFields, objectEntries, objectEntries, List.map_append]
  cases ps <;> rfl

/-- The section of a property adds it to the last of the objects. -/
theorem addSection_property (vs : List Value) (o : Object) (ps : List Property) (p : Property) :
    Toml.addSection (arrayEntry "object".toList (vs ++ [.table .header (objectEntries o ps)])) (propertySection p) =
      some (arrayEntry "object".toList (vs ++ [.table .header (objectEntries o (ps ++ [p]))])) := by
  show Entries.within (Entries.openElement "property".toList (pairs (propertyFields p))) ["object".toList]
    (arrayEntry "object".toList (vs ++ [.table .header (objectEntries o ps)])) = _
  have hlast : Entries.updateLast (Entries.within (Entries.openElement "property".toList (pairs (propertyFields p))) [])
      (vs ++ [.table .header (objectEntries o ps)]) = some (vs ++ [.table .header (objectEntries o (ps ++ [p]))]) := by
    rw [Entries.updateLast, List.getLast?_concat]
    simp only [Entries.within, openElement_property, Option.map_some, List.dropLast_concat]
  rw [arrayEntry_concat, arrayEntry_concat, Entries.within]
  simp only [Entries.find?, if_true, hlast, Option.map_some]
  rfl

/-- The sections of properties are added to the last object. -/
theorem foldlM_properties (vs : List Value) (o : Object) (ps more : List Property) :
    (more.map propertySection).foldlM Toml.addSection
        (arrayEntry "object".toList (vs ++ [.table .header (objectEntries o ps)])) =
      some (arrayEntry "object".toList (vs ++ [.table .header (objectEntries o (ps ++ more))])) := by
  induction more generalizing ps with
  | nil => rw [List.append_nil]; rfl
  | cons p more ih =>
    rw [List.map_cons, List.foldlM_cons, addSection_property, Option.bind_eq_bind, Option.bind_some, ih, List.append_assoc]
    rfl

/-- The sections of objects are added one after the other. -/
theorem foldlM_objects (vs : List Value) (objects : List Object) :
    (sectionsOf objects).foldlM Toml.addSection (arrayEntry "object".toList vs) =
      some (arrayEntry "object".toList (vs ++ objects.map objectTable)) := by
  induction objects generalizing vs with
  | nil => rw [List.map_nil, List.append_nil]; rfl
  | cons o objects ih =>
    have hobject : (objectSection o :: o.properties.map propertySection).foldlM Toml.addSection
        (arrayEntry "object".toList vs) = some (arrayEntry "object".toList (vs ++ [objectTable o])) := by
      rw [List.foldlM_cons, addSection_object, Option.bind_eq_bind, Option.bind_some, foldlM_properties]
      rfl
    rw [sectionsOf, List.flatMap_cons, List.foldlM_append, hobject, Option.bind_eq_bind, Option.bind_some, ← sectionsOf, ih,
      List.append_assoc]
    rfl

/-- What the lines of objects say is assembled into the document of these objects. -/
theorem assemble?_objectLines (quote : Text → Text) (objects : List Object) :
    Toml.assemble? ((objects.flatMap (objectLines quote)).map Prod.snd) = some (entries objects) := by
  rw [map_objectLines, Toml.assemble?, Toml.sections_statements, List.foldlM_cons]
  exact foldlM_objects [] objects

/-- The manifest of objects is read as the document of these objects. -/
theorem document?_toText {quote : Text → Text} (hq : ∀ t, Toml.Quoted.IsBasic t (quote t)) (objects : List Object) :
    Toml.document? (toText quote objects) = some (entries objects) := by
  have hopen : Toml.Quoted.OpensWithout '\uFEFF' (toText quote objects) := by
    cases objects with
    | nil => nofun
    | cons o objects => exact Toml.Quoted.opensWithout_cons (by decide) _
  rw [← flatMap_objectLines] at hopen ⊢
  rw [Toml.document?, Toml.statements?_lines (readsLine_objectLines quote hq objects) hopen]
  exact assemble?_objectLines quote objects

/-! ## What the document declares -/

/-- An array of tables, if there are any, lists what they stand for. -/
theorem lists_arrayEntry {α : Type} {Is : Value → α → Prop} {table : α → Value} (h : ∀ x, Is (table x) x) (key : Text)
    (xs : List α) : Lists Is ((arrayEntry key (xs.map table)).find? key) xs := by
  cases xs with
  | nil => rfl
  | cons x xs =>
    have hfind : (arrayEntry key ((x :: xs).map table)).find? key = some (.tables ((x :: xs).map table)) := if_pos rfl
    rw [hfind]
    exact ⟨_, rfl, List.forall₂_map_left_iff.mpr (List.forall₂_same.mpr fun y _ => h y)⟩

/-- The elements of an array under its key. -/
theorem elements_arrayEntry (key : Text) (vs : List Value) : elements ((arrayEntry key vs).find? key) = vs := by
  cases vs with
  | nil => rfl
  | cons v vs =>
    have hfind : (arrayEntry key (v :: vs)).find? key = some (.tables (v :: vs)) := if_pos rfl
    rw [hfind]
    rfl

theorem isProperty_propertyTable (p : Property) : IsProperty (propertyTable p) p := by
  obtain ⟨name, type, _ | summary⟩ := p <;> exact ⟨rfl, rfl, rfl⟩

theorem isObject_objectTable (o : Object) : IsObject (objectTable o) o :=
  ⟨rfl, rfl, lists_arrayEntry isProperty_propertyTable _ _⟩

/-- The document of objects declares them. -/
theorem declares_entries (objects : List Object) : Declares (entries objects) objects :=
  lists_arrayEntry isObject_objectTable _ _

/-- The table of a property has nothing under keys that the form does not name. -/
theorem unnamed_propertyTable (p : Property) : (propertyTable p).unnamed propertyKeys = [] := by
  obtain ⟨name, type, _ | summary⟩ := p <;> rfl

/-- The table of an object has nothing under keys that the form does not name, and neither have its properties. -/
theorem unnamedOfObject_objectTable (o : Object) : unnamedOfObject (objectTable o) = [] := by
  have hown : (objectTable o).unnamed objectKeys = [] := by
    obtain ⟨name, fullName, _ | ⟨p, ps⟩⟩ := o <;> rfl
  have hproperties : elements ((objectTable o).field? 2 "property".toList) = o.properties.map propertyTable :=
    elements_arrayEntry _ _
  rw [unnamedOfObject, hown, hproperties, List.nil_append, List.flatMap_eq_nil_iff, List.forall_mem_map]
  exact fun p _ => unnamed_propertyTable p

/-- The document of objects has nothing under keys that the form does not name. -/
theorem unnamed_entries (objects : List Object) : unnamed (entries objects) = [] := by
  have hown : (Value.table .header (entries objects)).unnamed ["object".toList] = [] := by
    cases objects <;> rfl
  rw [unnamed, hown, entries, elements_arrayEntry, List.nil_append, List.flatMap_eq_nil_iff, List.forall_mem_map]
  exact fun o _ => unnamedOfObject_objectTable o

/-- A manifest in the documented form, with its texts quoted on one line in any spelling, is read as the objects that it was
written for. -/
theorem readManifest_toText {quote : Text → Text} (hq : ∀ t, Toml.Quoted.IsBasic t (quote t)) (objects : List Object)
    (p : Path) : Run.readManifest p (toText quote objects) = .ok objects := by
  rw [readManifest_eq_ok_iff, read_eq_ok_iff (document?_toText hq objects), unnamed_entries]
  exact ⟨declares_entries objects, nofun⟩

/-- Objects with texts that need escapes, with an empty summary beside none, and without properties. -/
def hardObjects : List Object :=
  [⟨"a\"b\\\n]]".toList, "ü\t#".toList,
      [⟨"[[object]]".toList, [], some []⟩, ⟨"p = 1".toList, "\x7f".toList, none⟩, ⟨"q".toList, "int".toList, some "\r\x00".toList⟩]⟩,
    ⟨[], "\uFEFF".toList, []⟩]

/-- Those objects in the writer's own spelling, and read back. -/
theorem hardObjects_read :
    toText (Toml.Quoting.write .basic) hardObjects =
        "[[object]]\nname = \"a\\\"b\\\\\\n]]\"\nfull_name = \"ü\\t#\"\n".toList ++
          "[[object.property]]\nname = \"[[object]]\"\ntype = \"\"\nsummary = \"\"\n".toList ++
          "[[object.property]]\nname = \"p = 1\"\ntype = \"\\u007F\"\n".toList ++
          "[[object.property]]\nname = \"q\"\ntype = \"int\"\nsummary = \"\\r\\u0000\"\n".toList ++
          "[[object]]\nname = \"\"\nfull_name = \"\uFEFF\"\n".toList ∧
      Run.readManifest "models/hard.toml".toList (toText (Toml.Quoting.write .basic) hardObjects) = .ok hardObjects :=
  ⟨by decide +kernel, readManifest_toText Toml.Quoted.isBasic_write hardObjects _⟩

end Manifest

end ModelStubs
