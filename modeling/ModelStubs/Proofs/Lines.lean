import ModelStubs.Output
import ModelStubs.Proofs.DeclaredType
import ModelStubs.Proofs.Path
import ModelStubs.Proofs.Stub

/-!
# The lines of an output

Every line of an output is written for the output as a whole, for one object, or for one property of an object. Where names
and descriptors have no line break in them, these lines are all there are (`Output.hasLines_render`): a summary is flattened, and a
type is put together from pieces of its descriptor, so neither ends the line that it stands on. As the lines of a property
are known from the property, the full name of its object and the naming, reordering properties or objects moves their lines
and changes no other (`lines_reordered`).
-/

namespace ModelStubs

/-! ## Texts as lines -/

namespace Text

/-- Whether a text has no line break in it. -/
def OneLine (t : Text) : Prop := ∀ c ∈ t, Comment.isLineBreak c = false

/-- The test goes along the text: for `∀ c ∈ t` the search for an instance may find a test of every character there is. -/
instance decOneLine (t : Text) : Decidable (OneLine t) :=
  decidable_of_iff ((t.all fun c => !Comment.isLineBreak c) = true) (by simp [OneLine])

variable {a b t : Text} {ls ms : List Text}

@[simp] theorem oneLine_append_iff : OneLine (a ++ b) ↔ OneLine a ∧ OneLine b := List.forall_mem_append

@[simp] theorem oneLine_cons_iff {c : Char} : OneLine (c :: t) ↔ Comment.isLineBreak c = false ∧ OneLine t :=
  List.forall_mem_cons

/-- A text consists of lines: each of them ends with a line feed, and has no line break in it before that. -/
structure HasLines (t : Text) (ls : List Text) : Prop where
  text : t = ls.flatMap (· ++ ['\n'])
  oneLine : ∀ l ∈ ls, OneLine l

theorem HasLines.nil : HasLines [] [] := ⟨rfl, nofun⟩

theorem HasLines.append (h : HasLines a ls) (h' : HasLines b ms) : HasLines (a ++ b) (ls ++ ms) := by
  refine ⟨by rw [h.text, h'.text, List.flatMap_append], fun l hl => ?_⟩
  rcases List.mem_append.mp hl with hl | hl
  · exact h.oneLine l hl
  · exact h'.oneLine l hl

/-- A line before lines. -/
theorem HasLines.cons {l : Text} (hl : OneLine l) (h : HasLines t ls) : HasLines (l ++ '\n' :: t) (l :: ls) := by
  refine ⟨by rw [h.text, List.flatMap_cons, List.append_assoc, List.singleton_append], fun m hm => ?_⟩
  rcases List.mem_cons.mp hm with rfl | hm
  · exact hl
  · exact h.oneLine m hm

/-- Texts that consist of lines do so one after the other. -/
theorem HasLines.flatMap {α : Type} {text : α → Text} {lines : α → List Text} {l : List α}
    (h : ∀ x ∈ l, HasLines (text x) (lines x)) : HasLines (l.flatMap text) (l.flatMap lines) := by
  induction l with
  | nil => exact HasLines.nil
  | cons x l ih =>
    rw [List.flatMap_cons, List.flatMap_cons]
    exact (h x List.mem_cons_self).append (ih fun y hy => h y (List.mem_cons_of_mem _ hy))

/-- A text is split at its line feeds into its lines and nothing behind the last of them. -/
theorem HasLines.splitAt_eq (h : HasLines t ls) : splitAt '\n' t = ls ++ [[]] := by
  obtain ⟨rfl, hl⟩ := h
  induction ls with
  | nil => rfl
  | cons l ls ih =>
    have hn : '\n' ∉ l := fun hm => nomatch hl l List.mem_cons_self '\n' hm
    rw [List.flatMap_cons, List.append_assoc, List.singleton_append, splitAt_append_cons, splitAt_of_not_mem hn,
      ih fun m hm => hl m (List.mem_cons_of_mem _ hm)]
    rfl

/-- A text consists of lines in one way. -/
theorem HasLines.unique (h : HasLines t ls) (h' : HasLines t ms) : ls = ms :=
  List.append_cancel_right (h.splitAt_eq.symm.trans h'.splitAt_eq)

end Text

/-! ## Pieces that are on one line -/

open Text (OneLine HasLines)

theorem Comment.isLineBreak_of_isLetter {c : Char} (h : Text.isLetter c = true) : isLineBreak c = false := by
  rw [Bool.eq_false_iff, ne_eq, isLineBreak_iff]
  rintro (rfl | rfl) <;> nomatch h

/-- The comment on a property is on one line, whatever its summary is. -/
theorem Comment.oneLine_ofProperty (owner : Object) (property : Property) : OneLine (ofProperty owner property) := by
  intro c hc
  rw [Bool.eq_false_iff]
  exact fun hl => not_mem_ofProperty_of_isLineBreak hl owner property hc

/-- An identifier is on one line. -/
theorem Identifier.oneLine_of_isAscii {t : Text} (h : isAscii t = true) : OneLine t := by
  intro c hc
  exact Comment.isLineBreak_of_not_blank (not_isBlank_of_isAscii h c hc)

theorem Tag.oneLine_name (tag : Tag) : OneLine tag.name := Identifier.oneLine_of_isAscii tag.isAscii_name

/-- A type has no line break but those of its descriptor. -/
theorem Descriptor.oneLine_declaredType {t : Text} (h : OneLine t) : OneLine (declaredType t) := by
  intro c hc
  rcases written_of_mem_declaredType hc with hm | hl | rfl | rfl
  · exact h c (List.mem_filter.mp hm).1
  · exact Comment.isLineBreak_of_isLetter hl
  · decide
  · decide

theorem Descriptor.mem_of_genericSuffix? {t raw : Text} (h : genericSuffix? t = some raw) : raw ⊆ t := by
  obtain ⟨before, -, rfl⟩ := (genericSuffix?_eq_some_iff t raw).mp h
  intro c hc
  simp [hc]

/-- The parameter of a generic interface is a piece of the full name, or the name of a scalar. -/
theorem Declaration.oneLine_parameter? {fullName parameter : Text} (h : OneLine fullName)
    (hp : parameter? fullName = some parameter) : OneLine parameter := by
  obtain ⟨raw, hraw, he⟩ := Option.map_eq_some_iff.mp hp
  split at he
  · rename_i s _
    rw [← he]
    exact Tag.oneLine_name (.scalar s)
  · rw [← he]
    exact fun c hc => h c (Descriptor.mem_of_genericSuffix? hraw hc)

/-! ## What outputs say of a model -/

namespace Stub

/-- What a stub says of a property: its name, the constructor of its initial value, and its comment. -/
structure Field where
  name : Text
  tag : Tag
  comment : Text
  deriving DecidableEq

/-- Of the object that a property belongs to, only the full name matters to what is said of it. -/
def Field.ofProperty (naming : Naming) (fullName : Text) (property : Property) : Field where
  name := naming.propertyName property.name
  tag := Tag.ofText property.type
  comment := Comment.ofProperty ⟨[], fullName, []⟩ property

/-- What a stub says of an object: its name, and its fields. -/
structure Constructor where
  name : Text
  fields : List Field
  deriving DecidableEq

def Constructor.ofObject (naming : Naming) (object : Object) : Constructor where
  name := object.name
  fields := object.properties.map (Field.ofProperty naming object.fullName)

/-- The line that opens a stub file. -/
def headerLine (naming : Naming) : Text :=
  "var ".toList ++ naming.spaceName ++ " = ".toList ++ naming.spaceName ++ " || \x7b\x7d;".toList

/-- The line that opens a constructor function. -/
def openingLine (naming : Naming) (name : Text) : Text :=
  naming.spaceName ++ ".".toList ++ name ++ " = function()  \x7b".toList

/-- The line of the comment on a field. -/
def Field.commentLine (field : Field) : Text :=
  "\t/// <field name=\"".toList ++ field.name ++ "\" type=\"".toList ++ field.tag.name ++ "\">".toList ++ field.comment ++
    "</field>".toList

/-- The line that gives a field its initial value. -/
def Field.valueLine (field : Field) : Text :=
  "\tthis.".toList ++ field.name ++ " = new ".toList ++ field.tag.name ++ "();".toList

/-- The line that closes a constructor function; a blank line follows it. -/
def closingLine : Text := "\x7d;".toList

def Field.lines (field : Field) : List Text := [field.commentLine, field.valueLine]

end Stub

namespace Declaration

/-- What a declaration says of a property: its name and its type. -/
structure Member where
  name : Text
  type : Text
  deriving DecidableEq

def Member.ofProperty (naming : Naming) (property : Property) : Member where
  name := naming.propertyName property.name
  type := Descriptor.declaredType property.type

/-- What a declaration says of an object: its name, its parameter if it has one, and its members. -/
structure Interface where
  name : Text
  parameter : Option Text
  members : List Member
  deriving DecidableEq

def Interface.ofObject (naming : Naming) (object : Object) : Interface where
  name := object.name
  parameter := parameter? object.fullName
  members := object.properties.map (Member.ofProperty naming)

/-- The line that opens a declaration file; a blank line follows it. -/
def headerLine (naming : Naming) : Text := "declare module ".toList ++ naming.spaceName ++ " \x7b".toList

/-- The line that opens an interface. -/
def openingLine (name : Text) : Option Text → Text
  | some parameter => "\tinterface ".toList ++ name ++ "<".toList ++ parameter ++ "> \x7b".toList
  | none => "\tinterface ".toList ++ name ++ "\x7b".toList

/-- The line of a member. -/
def Member.line (member : Member) : Text :=
  "\t\t".toList ++ member.name ++ ": ".toList ++ member.type ++ ";".toList

/-- The line that closes an interface, and the one that closes the file. -/
def closingLine : Text := "\x7d".toList

end Declaration

/-! ## The lines of an output -/

namespace Output

/-- The lines that open an output. -/
def opening (naming : Naming) : Output → List Text
  | .stubs => [Stub.headerLine naming]
  | .declarations => [Declaration.headerLine naming, []]

/-- The line that opens an object. -/
def objectOpening (naming : Naming) (name fullName : Text) : Output → List Text
  | .stubs => [Stub.openingLine naming name]
  | .declarations => [Declaration.openingLine name (Declaration.parameter? fullName)]

/-- The lines of a property, in an object of that full name. -/
def propertyLines (naming : Naming) (fullName : Text) (property : Property) : Output → List Text
  | .stubs => (Stub.Field.ofProperty naming fullName property).lines
  | .declarations => [(Declaration.Member.ofProperty naming property).line]

/-- The lines that close an object. -/
def objectClosing : Output → List Text
  | .stubs => [Stub.closingLine, []]
  | .declarations => [Declaration.closingLine]

/-- The lines of an object. -/
def objectLines (naming : Naming) (object : Object) (output : Output) : List Text :=
  output.objectOpening naming object.name object.fullName ++
    object.properties.flatMap (fun property => output.propertyLines naming object.fullName property) ++
    output.objectClosing

/-- The lines that close an output. -/
def closing : Output → List Text
  | .stubs => []
  | .declarations => [Declaration.closingLine]

/-- The lines of an output. -/
def lines (naming : Naming) (objects : List Object) (output : Output) : List Text :=
  output.opening naming ++ objects.flatMap (fun object => output.objectLines naming object) ++ output.closing

/-- The lines of a stub file: its header, then for each object the opening, two lines for each property, the closing and
a blank line. -/
theorem lines_stubs (naming : Naming) (objects : List Object) : stubs.lines naming objects =
    Stub.headerLine naming :: objects.flatMap fun object =>
      Stub.openingLine naming object.name ::
        object.properties.flatMap (fun property =>
          [(Stub.Field.ofProperty naming object.fullName property).commentLine,
            (Stub.Field.ofProperty naming object.fullName property).valueLine]) ++ [Stub.closingLine, []] := by
  rw [lines, closing, List.append_nil]
  rfl

/-- The lines of a declaration file: its header and a blank line, then for each object the opening, one line for each
property and the closing, and the line that closes the file. -/
theorem lines_declarations (naming : Naming) (objects : List Object) : declarations.lines naming objects =
    Declaration.headerLine naming :: [] :: objects.flatMap (fun object =>
      Declaration.openingLine object.name (Declaration.parameter? object.fullName) ::
        object.properties.map (fun property => (Declaration.Member.ofProperty naming property).line) ++
          [Declaration.closingLine]) ++ [Declaration.closingLine] := by
  simp only [List.map_eq_flatMap]
  rfl

end Output

/-- Whether the names and descriptors that an output is made of are each on one line: the namespace, names and full names of
objects, names of properties as they are written out, and their types. Summaries may be any texts. -/
structure OnLines (naming : Naming) (objects : List Object) : Prop where
  spaceName : OneLine naming.spaceName
  object : ∀ object ∈ objects, OneLine object.name ∧ OneLine object.fullName
  property : ∀ object ∈ objects, ∀ property ∈ object.properties,
    OneLine (naming.propertyName property.name) ∧ OneLine property.type

instance decOnLines (naming : Naming) (objects : List Object) : Decidable (OnLines naming objects) :=
  decidable_of_iff (_ ∧ _ ∧ _) ⟨fun h => ⟨h.1, h.2.1, h.2.2⟩, fun h => ⟨h.1, h.2, h.3⟩⟩

section

variable {naming : Naming} {objects : List Object} {object : Object} {property : Property}

namespace Stub

/-- The line of the comment on a field is one line if the name and the comment are each on one. -/
theorem Field.oneLine_commentLine {field : Field} (hn : OneLine field.name) (hc : OneLine field.comment) :
    OneLine field.commentLine := by
  have h1 : OneLine "\t/// <field name=\"".toList := by decide
  have h2 : OneLine "\" type=\"".toList := by decide
  have h3 : OneLine "\">".toList := by decide
  have h4 : OneLine "</field>".toList := by decide
  delta commentLine
  simp only [Text.oneLine_append_iff, hn, hc, field.tag.oneLine_name, h1, h2, h3, h4, and_self]

/-- The line of the value of a field is one line if the name is on one. -/
theorem Field.oneLine_valueLine {field : Field} (hn : OneLine field.name) : OneLine field.valueLine := by
  have h1 : OneLine "\tthis.".toList := by decide
  have h2 : OneLine " = new ".toList := by decide
  have h3 : OneLine "();".toList := by decide
  delta valueLine
  simp only [Text.oneLine_append_iff, hn, field.tag.oneLine_name, h1, h2, h3, and_self]

/-- A property of a stub is written as the line of its comment and the line of its value. -/
theorem ofProperty_eq (naming : Naming) (object : Object) (property : Property) : ofProperty naming object property =
    (Field.ofProperty naming object.fullName property).commentLine ++
      '\n' :: ((Field.ofProperty naming object.fullName property).valueLine ++ '\n' :: []) := by
  have h1 : "</field>\n\tthis.".toList = "</field>".toList ++ '\n' :: "\tthis.".toList := by decide
  have h2 : "();\n".toList = "();".toList ++ ['\n'] := by decide
  delta ofProperty Field.commentLine Field.valueLine
  simp only [Field.ofProperty, h1, h2, List.append_assoc, List.cons_append]
  rfl

theorem hasLines_ofProperty (hp : OneLine (naming.propertyName property.name)) (object : Object) :
    HasLines (ofProperty naming object property) (Field.ofProperty naming object.fullName property).lines := by
  rw [ofProperty_eq]
  exact .cons (Field.oneLine_commentLine hp (Comment.oneLine_ofProperty _ _)) (.cons (Field.oneLine_valueLine hp) .nil)

/-- A constructor is written as its opening line, its properties, its closing line and a blank line. -/
theorem ofObject_eq (naming : Naming) (object : Object) : ofObject naming object =
    openingLine naming object.name ++ '\n' :: [] ++ object.properties.flatMap (ofProperty naming object) ++
      (closingLine ++ '\n' :: ([] ++ '\n' :: [])) := by
  have h1 : " = function()  \x7b\n".toList = " = function()  \x7b".toList ++ ['\n'] := by decide
  delta ofObject openingLine
  simp only [h1, List.append_assoc]
  rfl

/-- What is written for an object in a stub file has the lines of that object. -/
theorem hasLines_ofObject (hs : OneLine naming.spaceName) (ho : OneLine object.name)
    (hp : ∀ property ∈ object.properties, OneLine (naming.propertyName property.name)) :
    HasLines (ofObject naming object) (Output.stubs.objectLines naming object) := by
  have hopening : OneLine (openingLine naming object.name) := by
    have h1 : OneLine ".".toList := by decide
    have h2 : OneLine " = function()  \x7b".toList := by decide
    delta openingLine
    simp only [Text.oneLine_append_iff, hs, ho, h1, h2, and_self]
  rw [ofObject_eq]
  refine ((HasLines.cons hopening .nil).append (.flatMap fun property hm => ?_)).append
    (.cons (by decide) (.cons (by decide) .nil))
  exact hasLines_ofProperty (hp property hm) object

/-- A stub file is written as its header line and its objects. -/
theorem ofModel_eq (naming : Naming) (objects : List Object) :
    ofModel naming objects = headerLine naming ++ '\n' :: [] ++ objects.flatMap (ofObject naming) := by
  have h1 : " || \x7b\x7d;\n".toList = " || \x7b\x7d;".toList ++ ['\n'] := by decide
  delta ofModel headerLine
  simp only [h1, List.append_assoc]

/-- A stub file has its lines. -/
theorem hasLines_ofModel (h : OnLines naming objects) : HasLines (ofModel naming objects) (Output.stubs.lines naming objects) := by
  have hheader : OneLine (headerLine naming) := by
    have h1 : OneLine "var ".toList := by decide
    have h2 : OneLine " = ".toList := by decide
    have h3 : OneLine " || \x7b\x7d;".toList := by decide
    delta headerLine
    simp only [Text.oneLine_append_iff, h.spaceName, h1, h2, h3, and_self]
  rw [ofModel_eq, ← List.append_nil (headerLine naming ++ '\n' :: [] ++ objects.flatMap (ofObject naming))]
  refine ((HasLines.cons hheader .nil).append (.flatMap fun object hm => ?_)).append .nil
  exact hasLines_ofObject h.spaceName (h.object object hm).1 fun property hp => (h.property object hm property hp).1

end Stub

namespace Declaration

/-- The line that opens an interface is one line if the name and the full name of the object are each on one. -/
theorem oneLine_openingLine {name fullName : Text} (hn : OneLine name) (hf : OneLine fullName) :
    OneLine (openingLine name (parameter? fullName)) := by
  have h1 : OneLine "\tinterface ".toList := by decide
  have h2 : OneLine "<".toList := by decide
  have h3 : OneLine "> \x7b".toList := by decide
  have h4 : OneLine "\x7b".toList := by decide
  cases hp : parameter? fullName with
  | none =>
    delta openingLine
    simp only [Text.oneLine_append_iff, hn, h1, h4, and_self]
  | some parameter =>
    delta openingLine
    simp only [Text.oneLine_append_iff, hn, oneLine_parameter? hf hp, h1, h2, h3, and_self]

/-- The opening of an interface is its first line. -/
theorem opening_eq (object : Object) :
    opening object = openingLine object.name (parameter? object.fullName) ++ '\n' :: [] := by
  have h1 : "> \x7b\n".toList = "> \x7b".toList ++ ['\n'] := by decide
  have h2 : "\x7b\n".toList = "\x7b".toList ++ ['\n'] := by decide
  delta opening openingLine
  cases parameter? object.fullName <;> simp only [h1, h2, List.append_assoc]

/-- A property of a declaration is written as the line of its member. -/
theorem ofProperty_eq (naming : Naming) (property : Property) :
    ofProperty naming property = (Member.ofProperty naming property).line ++ '\n' :: [] := by
  have h1 : ";\n".toList = ";".toList ++ ['\n'] := by decide
  delta ofProperty Member.line
  simp only [Member.ofProperty, h1, List.append_assoc]

theorem hasLines_ofProperty (hp : OneLine (naming.propertyName property.name)) (ht : OneLine property.type) :
    HasLines (ofProperty naming property) [(Member.ofProperty naming property).line] := by
  have hline : OneLine (Member.ofProperty naming property).line := by
    have h1 : OneLine "\t\t".toList := by decide
    have h2 : OneLine ": ".toList := by decide
    have h3 : OneLine ";".toList := by decide
    delta Member.line
    simp only [Member.ofProperty, Text.oneLine_append_iff, hp, Descriptor.oneLine_declaredType ht, h1, h2, h3, and_self]
  rw [ofProperty_eq]
  exact .cons hline .nil

/-- An interface is written as its opening line, its properties and its closing line. -/
theorem ofObject_eq (naming : Naming) (object : Object) : ofObject naming object =
    openingLine object.name (parameter? object.fullName) ++ '\n' :: [] ++ object.properties.flatMap (ofProperty naming) ++
      (closingLine ++ '\n' :: []) := by
  rw [ofObject, opening_eq]
  rfl

/-- What is written for an object in a declaration file has the lines of that object. -/
theorem hasLines_ofObject (ho : OneLine object.name ∧ OneLine object.fullName)
    (hp : ∀ property ∈ object.properties, OneLine (naming.propertyName property.name) ∧ OneLine property.type) :
    HasLines (ofObject naming object) (Output.declarations.objectLines naming object) := by
  rw [ofObject_eq]
  refine ((HasLines.cons (oneLine_openingLine ho.1 ho.2) .nil).append (.flatMap fun property hm => ?_)).append
    (.cons (by decide) .nil)
  exact hasLines_ofProperty (hp property hm).1 (hp property hm).2

/-- A declaration file is written as its header line, a blank line, its objects and its closing line. -/
theorem ofModel_eq (naming : Naming) (objects : List Object) : ofModel naming objects =
    headerLine naming ++ '\n' :: ([] ++ '\n' :: []) ++ objects.flatMap (ofObject naming) ++ (closingLine ++ '\n' :: []) := by
  have h1 : " \x7b\n\n".toList = " \x7b".toList ++ ['\n', '\n'] := by decide
  delta ofModel headerLine
  simp only [h1, List.append_assoc]
  rfl

/-- A declaration file has its lines. -/
theorem hasLines_ofModel (h : OnLines naming objects) :
    HasLines (ofModel naming objects) (Output.declarations.lines naming objects) := by
  have hheader : OneLine (headerLine naming) := by
    have h1 : OneLine "declare module ".toList := by decide
    have h2 : OneLine " \x7b".toList := by decide
    delta headerLine
    simp only [Text.oneLine_append_iff, h.spaceName, h1, h2, and_self]
  rw [ofModel_eq]
  refine ((HasLines.cons hheader (.cons (by decide) .nil)).append (.flatMap fun object hm => ?_)).append
    (.cons (by decide) .nil)
  exact hasLines_ofObject (h.object object hm) (h.property object hm)

end Declaration

/-- Where names and descriptors are on one line each, an output has the lines of its rules and no others. -/
theorem Output.hasLines_render (output : Output) (h : OnLines naming objects) :
    HasLines (output.render naming objects) (output.lines naming objects) := by
  cases output with
  | stubs => exact Stub.hasLines_ofModel h
  | declarations => exact Declaration.hasLines_ofModel h

end

/-! ## Other orders -/

/-- Names stay on their lines when the objects are reordered. -/
theorem OnLines.of_perm {naming : Naming} {objects others : List Object} (h : OnLines naming objects)
    (hp : others.Perm objects) : OnLines naming others :=
  ⟨h.spaceName, fun o ho => h.object o (hp.mem_iff.mp ho), fun o ho => h.property o (hp.mem_iff.mp ho)⟩

/-- Properties in another order are on one line each as well. -/
theorem OnLines.of_properties {naming : Naming} {before after : List Object} {object : Object} {properties : List Property}
    (h : OnLines naming (before ++ object :: after)) (hp : properties.Perm object.properties) :
    OnLines naming (before ++ { object with properties } :: after) := by
  refine ⟨h.spaceName, fun o ho => ?_, fun o ho property hm => ?_⟩
  · rcases List.mem_append.mp ho with ho | ho
    · exact h.object o (List.mem_append_left _ ho)
    · rcases List.mem_cons.mp ho with rfl | ho
      · exact h.object object (by simp)
      · exact h.object o (by simp [ho])
  · rcases List.mem_append.mp ho with ho | ho
    · exact h.property o (List.mem_append_left _ ho) property hm
    · rcases List.mem_cons.mp ho with rfl | ho
      · exact h.property object (by simp) property (hp.mem_iff.mp hm)
      · exact h.property o (by simp [ho]) property hm

/-- Where names and descriptors are on one line each, a stub file has a line that opens it, and for each object an opening
line, two lines for each property, a closing line and a blank one; a declaration file has a line that opens it and a blank
one, for each object an opening line, one line for each property and a closing line, and a line that closes it. The lines of
a property are known from the naming, the full name of its object, and the property. So in both, objects in another order
have their lines in that order, and properties of an object in another order have their lines in that order, between the
same lines as before. -/
theorem lines_reordered (naming : Naming) (objects : List Object) (h : OnLines naming objects) :
    HasLines (Stub.ofModel naming objects)
      (Stub.headerLine naming :: objects.flatMap fun object =>
        Stub.openingLine naming object.name ::
          object.properties.flatMap (fun property =>
            [(Stub.Field.ofProperty naming object.fullName property).commentLine,
              (Stub.Field.ofProperty naming object.fullName property).valueLine]) ++ ["\x7d;".toList, []]) ∧
    HasLines (Declaration.ofModel naming objects)
      (Declaration.headerLine naming :: [] :: objects.flatMap (fun object =>
        Declaration.openingLine object.name (Declaration.parameter? object.fullName) ::
          object.properties.map (fun property => (Declaration.Member.ofProperty naming property).line) ++
            ["\x7d".toList]) ++ ["\x7d".toList]) ∧
    ∀ output : Output,
      (∀ others : List Object, others.Perm objects → HasLines (output.render naming others)
        (output.opening naming ++ others.flatMap (fun object => output.objectLines naming object) ++ output.closing)) ∧
      ∀ before object after, objects = before ++ object :: after → ∃ top bottom,
        ∀ properties : List Property, properties.Perm object.properties →
          HasLines (output.render naming (before ++ { object with properties } :: after))
            (top ++ properties.flatMap (fun property => output.propertyLines naming object.fullName property) ++ bottom) := by
  have hstubs := Stub.hasLines_ofModel h
  have hdeclarations := Declaration.hasLines_ofModel h
  rw [Output.lines_stubs] at hstubs
  rw [Output.lines_declarations] at hdeclarations
  refine ⟨hstubs, hdeclarations, fun output => ⟨fun others hp => output.hasLines_render (h.of_perm hp), ?_⟩⟩
  rintro before object after rfl
  refine ⟨output.opening naming ++ before.flatMap (fun o => output.objectLines naming o) ++
      output.objectOpening naming object.name object.fullName,
    output.objectClosing ++ after.flatMap (fun o => output.objectLines naming o) ++ output.closing, fun properties hp => ?_⟩
  have hlines := output.hasLines_render (h.of_properties hp)
  simp only [Output.lines, List.flatMap_append, List.flatMap_cons, Output.objectLines, List.append_assoc] at hlines ⊢
  exact hlines

/-- A model with a summary on two lines, and the same with its objects, and the properties of one of them, in other orders. -/
def orders : List Object :=
  [⟨"Order".toList, "Shop.Order".toList,
      [⟨"Id".toList, "int".toList, some "First\r\n  second".toList⟩, ⟨"Lines".toList, "Line[]".toList, none⟩]⟩,
    ⟨"Page".toList, "Shop.Page<int>".toList, []⟩]

/-- In the stubs of that model, the lines of the two properties change places with them; in its declarations, the lines of
the two objects do. -/
theorem orders_reordered : OnLines Naming.standard orders ∧
    (∃ top first second bottom : List Text,
      HasLines (Stub.ofModel Naming.standard orders) (top ++ (first ++ second) ++ bottom) ∧
      HasLines (Stub.ofModel Naming.standard (orders.map fun o => { o with properties := o.properties.reverse }))
        (top ++ (second ++ first) ++ bottom) ∧
      first = ["\t/// <field name=\"Id\" type=\"Number\">First second</field>".toList, "\tthis.Id = new Number();".toList]) ∧
    HasLines (Declaration.ofModel Naming.standard orders.reverse)
      ["declare module server \x7b".toList, [], "\tinterface Page<Number> \x7b".toList, "\x7d".toList,
        "\tinterface Order\x7b".toList, "\t\tId: Number;".toList, "\t\tLines: Array<Line>;".toList, "\x7d".toList,
        "\x7d".toList] := by
  have h : OnLines Naming.standard orders := by decide +kernel
  obtain ⟨-, -, hrest⟩ := lines_reordered Naming.standard orders h
  obtain ⟨top, bottom, hboth⟩ := (hrest .stubs).2 [] _ _ rfl
  refine ⟨h, ⟨top, _, _, bottom, hboth _ (.refl _), hboth _ (List.reverse_perm _), by decide +kernel⟩, ?_⟩
  have hlines := (hrest .declarations).1 orders.reverse (List.reverse_perm _)
  refine Eq.mp (congrArg (HasLines _) ?_) hlines
  decide +kernel

end ModelStubs
