import ModelStubs.Proofs.Lines

/-!
# What an output says can be read off it

Where all names are identifiers, two models are written alike exactly if an output says the same of them: stubs tell apart
names, constructors and comments, declarations tell apart names, parameters and types (`render_eq_iff`). Each line can be
read, because a name ends at the first character that no identifier has, and each group of lines ends where a line opens
otherwise than the group's own lines do (`flatMap_append_inj`).
-/

namespace ModelStubs

open Text (OneLine HasLines)

/-! ## Reading items one after another -/

/-- Items written one after another are known from the whole, if each is known from any text that it opens, and what comes
after them opens like none of them. -/
theorem flatMap_append_inj {α β : Type} {write : α → List β} {as bs : List α} {r s : List β}
    (hitem : ∀ a ∈ as, ∀ b ∈ bs, ∀ r s, write a ++ r = write b ++ s → a = b ∧ r = s)
    (hr : ∀ b ∈ bs, ∀ t, write b ++ t ≠ r) (hs : ∀ a ∈ as, ∀ t, write a ++ t ≠ s)
    (h : as.flatMap write ++ r = bs.flatMap write ++ s) : as = bs ∧ r = s := by
  induction as generalizing bs with
  | nil =>
    cases bs with
    | nil => exact ⟨rfl, h⟩
    | cons b bs =>
      rw [List.flatMap_cons, List.append_assoc] at h
      exact absurd h.symm (hr b List.mem_cons_self _)
  | cons a as ih =>
    cases bs with
    | nil =>
      rw [List.flatMap_cons, List.append_assoc] at h
      exact absurd h (hs a List.mem_cons_self _)
    | cons b bs =>
      rw [List.flatMap_cons, List.flatMap_cons, List.append_assoc, List.append_assoc] at h
      obtain ⟨rfl, hrest⟩ := hitem a List.mem_cons_self b List.mem_cons_self _ _ h
      obtain ⟨rfl, he⟩ := ih (fun x hx y hy => hitem x (List.mem_cons_of_mem _ hx) y (List.mem_cons_of_mem _ hy))
        (fun y hy => hr y (List.mem_cons_of_mem _ hy)) (fun x hx => hs x (List.mem_cons_of_mem _ hx)) hrest
      exact ⟨rfl, he⟩

/-! ## Reading names -/

namespace Identifier

/-- An identifier is known from a text that goes on with a character that no identifier has. -/
theorem append_cons_inj {a b s t : Text} {x y : Char} (ha : isAscii a = true) (hb : isAscii b = true)
    (hx : isPart x = false) (hy : isPart y = false) (h : a ++ x :: s = b ++ y :: t) : a = b ∧ x = y ∧ s = t :=
  Text.cut_unique (isPart_of_isAscii ha) hx (isPart_of_isAscii hb) hy h

end Identifier

/-- Tags with the same name are equal. -/
theorem Tag.name_inj {a b : Tag} (h : a.name = b.name) : a = b := by
  rcases a with s | - | - <;> rcases b with s' | - | -
  · cases s <;> cases s' <;> first | rfl | exact absurd h (by decide)
  · cases s <;> exact absurd h (by decide)
  · cases s <;> exact absurd h (by decide)
  · cases s' <;> exact absurd h (by decide)
  · rfl
  · exact absurd h (by decide)
  · cases s' <;> exact absurd h (by decide)
  · exact absurd h (by decide)
  · rfl

/-! ## Stubs -/

namespace Stub

/-- The two lines of a field say all that is said of it. -/
theorem Field.commentLine_inj {a b : Field} (ha : Identifier.isAscii a.name = true) (hb : Identifier.isAscii b.name = true)
    (h : a.commentLine = b.commentLine) : a = b := by
  obtain ⟨name, tag, comment⟩ := a
  obtain ⟨name', tag', comment'⟩ := b
  have hquote : "\" type=\"".toList = '"' :: " type=\"".toList := by decide
  have hangle : "\">".toList = '"' :: ">".toList := by decide
  delta commentLine at h
  simp only [List.append_assoc, hquote, hangle, List.cons_append] at h
  obtain ⟨rfl, -, h⟩ := Identifier.append_cons_inj ha hb (by decide) (by decide) (List.append_cancel_left h)
  obtain ⟨htag, -, h⟩ := Identifier.append_cons_inj tag.isAscii_name tag'.isAscii_name (by decide) (by decide)
    (List.append_cancel_left h)
  rw [Tag.name_inj htag, List.append_cancel_right (List.append_cancel_left h)]

/-- The lines of a constructor. -/
def Constructor.lines (naming : Naming) (constructor : Constructor) : List Text :=
  openingLine naming constructor.name :: constructor.fields.flatMap Field.lines ++ [closingLine, []]

/-- Whether the names of all fields of a constructor are identifiers. -/
def Constructor.Named (constructor : Constructor) : Prop :=
  ∀ field ∈ constructor.fields, Identifier.isAscii field.name = true

/-- No field opens with the line that closes a constructor. -/
theorem Field.lines_append_ne (field : Field) (ls ms : List Text) : field.lines ++ ls ≠ closingLine :: ms := by
  intro h
  have hhead : field.commentLine = closingLine := (List.cons.inj h).1
  delta commentLine closingLine at hhead
  simp only [List.append_assoc] at hhead
  nomatch hhead

/-- A constructor is known from lines that it opens. -/
theorem Constructor.lines_append_inj {naming : Naming} {a b : Constructor} (ha : a.Named) (hb : b.Named)
    {ls ms : List Text} (h : a.lines naming ++ ls = b.lines naming ++ ms) : a = b ∧ ls = ms := by
  obtain ⟨name, fields⟩ := a
  obtain ⟨name', fields'⟩ := b
  rw [lines, lines, List.cons_append, List.cons_append, List.cons_append, List.cons_append, List.cons.injEq,
    List.append_assoc, List.append_assoc] at h
  obtain ⟨hopening, hrest⟩ := h
  have hname : name = name' := by
    delta openingLine at hopening
    simp only [List.append_assoc] at hopening
    exact List.append_cancel_right (List.append_cancel_left (List.append_cancel_left hopening))
  have hfield : ∀ f ∈ fields, ∀ g ∈ fields', ∀ r s, f.lines ++ r = g.lines ++ s → f = g ∧ r = s := by
    intro f hf g hg r s he
    obtain ⟨hcomment, he⟩ := List.cons.inj he
    exact ⟨Field.commentLine_inj (ha f hf) (hb g hg) hcomment, (List.cons.inj he).2⟩
  obtain ⟨rfl, hclosing⟩ := flatMap_append_inj hfield (fun f _ ls => f.lines_append_ne ls _)
    (fun f _ ls => f.lines_append_ne ls _) hrest
  rw [hname]
  exact ⟨rfl, (List.cons.inj (List.cons.inj hclosing).2).2⟩

/-- The lines of a stub file are its header and the lines of its constructors. -/
theorem lines_eq (naming : Naming) (objects : List Object) : Output.stubs.lines naming objects =
    headerLine naming :: (objects.map (Constructor.ofObject naming)).flatMap (Constructor.lines naming) := by
  rw [Output.lines_stubs, List.flatMap_map]
  simp only [Constructor.lines, Constructor.ofObject, List.flatMap_map]
  rfl

end Stub

/-! ## Declarations -/

namespace Declaration

/-- Members on the same line are equal if their names are identifiers. -/
theorem Member.line_inj {a b : Member} (ha : Identifier.isAscii a.name = true) (hb : Identifier.isAscii b.name = true)
    (h : a.line = b.line) : a = b := by
  obtain ⟨name, type⟩ := a
  obtain ⟨name', type'⟩ := b
  have hcolon : ": ".toList = ':' :: " ".toList := by decide
  delta line at h
  simp only [List.append_assoc, hcolon, List.cons_append] at h
  obtain ⟨rfl, -, h⟩ := Identifier.append_cons_inj ha hb (by decide) (by decide) (List.append_cancel_left h)
  rw [List.append_cancel_right (List.append_cancel_left h)]

/-- How an opening line goes on after the name of the interface: with a character that is in no name, and the rest. -/
def openingEnd : Option Text → Char × Text
  | some parameter => ('<', parameter ++ "> \x7b".toList)
  | none => ('\x7b', [])

/-- The line that opens an interface is its name and, behind a character that is in no identifier, the rest. -/
theorem openingLine_eq (name : Text) (parameter : Option Text) : openingLine name parameter =
    "\tinterface ".toList ++ (name ++ (openingEnd parameter).1 :: (openingEnd parameter).2) := by
  have hangle : "<".toList = ['<'] := by decide
  have hbrace : "\x7b".toList = ['\x7b'] := by decide
  delta openingLine openingEnd
  cases parameter <;> simp only [hangle, hbrace, List.append_assoc, List.cons_append, List.nil_append]

/-- The character behind the name of an interface is in no identifier. -/
theorem isPart_openingEnd (parameter : Option Text) : Identifier.isPart (openingEnd parameter).1 = false := by
  have hangle : Identifier.isPart '<' = false := by decide
  have hbrace : Identifier.isPart '\x7b' = false := by decide
  cases parameter with
  | none => exact hbrace
  | some parameter => exact hangle

/-- An opening line tells the name of an interface, whether it has a parameter, and which. -/
theorem openingLine_inj {name name' : Text} {parameter parameter' : Option Text} (hn : Identifier.isAscii name = true)
    (hn' : Identifier.isAscii name' = true) (h : openingLine name parameter = openingLine name' parameter') :
    name = name' ∧ parameter = parameter' := by
  rw [openingLine_eq, openingLine_eq] at h
  obtain ⟨rfl, hc, hend⟩ := Identifier.append_cons_inj hn hn' (isPart_openingEnd parameter)
    (isPart_openingEnd parameter') (List.append_cancel_left h)
  refine ⟨rfl, ?_⟩
  have hne : '<' ≠ '\x7b' := by decide
  cases parameter with
  | none =>
    cases parameter' with
    | none => rfl
    | some parameter' => exact absurd hc.symm hne
  | some parameter =>
    cases parameter' with
    | none => exact absurd hc hne
    | some parameter' => rw [List.append_cancel_right hend]

/-- The lines of an interface. -/
def Interface.lines (interface : Interface) : List Text :=
  openingLine interface.name interface.parameter :: interface.members.map Member.line ++ [closingLine]

/-- Whether the names of an interface and of all its members are identifiers. -/
structure Interface.Named (interface : Interface) : Prop where
  name : Identifier.isAscii interface.name = true
  members : ∀ member ∈ interface.members, Identifier.isAscii member.name = true

/-- No member is the line that closes an interface. -/
theorem Member.line_ne (member : Member) : member.line ≠ closingLine := by
  intro h
  delta line closingLine at h
  simp only [List.append_assoc] at h
  nomatch h

/-- An interface does not open with the line that closes the file. -/
theorem Interface.lines_append_ne (interface : Interface) (ls ms : List Text) :
    interface.lines ++ ls ≠ closingLine :: ms := by
  intro h
  have hhead : openingLine interface.name interface.parameter = closingLine := (List.cons.inj h).1
  rw [openingLine_eq] at hhead
  nomatch hhead

/-- An interface is known from lines that it opens. -/
theorem Interface.lines_append_inj {a b : Interface} (ha : a.Named) (hb : b.Named) {ls ms : List Text}
    (h : a.lines ++ ls = b.lines ++ ms) : a = b ∧ ls = ms := by
  obtain ⟨name, parameter, members⟩ := a
  obtain ⟨name', parameter', members'⟩ := b
  rw [lines, lines, List.cons_append, List.cons_append, List.cons_append, List.cons_append, List.cons.injEq,
    List.append_assoc, List.append_assoc, List.map_eq_flatMap, List.map_eq_flatMap] at h
  obtain ⟨hopening, hrest⟩ := h
  obtain ⟨rfl, rfl⟩ := openingLine_inj ha.name hb.name hopening
  have hmember : ∀ m ∈ members, ∀ n ∈ members', ∀ r s, [m.line] ++ r = [n.line] ++ s → m = n ∧ r = s := by
    intro m hm n hn r s he
    obtain ⟨hline, he⟩ := List.cons.inj he
    exact ⟨Member.line_inj (ha.members m hm) (hb.members n hn) hline, he⟩
  obtain ⟨rfl, hclosing⟩ := flatMap_append_inj hmember (fun m _ ls he => m.line_ne (List.cons.inj he).1)
    (fun m _ ls he => m.line_ne (List.cons.inj he).1) hrest
  exact ⟨rfl, (List.cons.inj hclosing).2⟩

/-- The lines of a declaration file are its header, a blank line, the lines of its interfaces and the closing line. -/
theorem lines_eq (naming : Naming) (objects : List Object) : Output.declarations.lines naming objects =
    headerLine naming :: [] :: (objects.map (Interface.ofObject naming)).flatMap Interface.lines ++ [closingLine] := by
  rw [Output.lines_declarations, List.flatMap_map]
  simp only [Interface.lines, Interface.ofObject, List.map_map]
  rfl

end Declaration

/-! ## Equal outputs -/

/-- Whether all names in an output are identifiers: the namespace, the objects, and the properties as they are written out;
and full names and types are on one line each. Summaries may be any texts. -/
structure Nameable (naming : Naming) (objects : List Object) : Prop where
  named : Stub.Named naming objects
  fullName : ∀ object ∈ objects, OneLine object.fullName
  type : ∀ object ∈ objects, ∀ property ∈ object.properties, OneLine property.type

instance decNameable (naming : Naming) (objects : List Object) : Decidable (Nameable naming objects) :=
  decidable_of_iff (_ ∧ _ ∧ _) ⟨fun h => ⟨h.1, h.2.1, h.2.2⟩, fun h => ⟨h.1, h.2, h.3⟩⟩

variable {naming : Naming} {objects others : List Object}

theorem Nameable.onLines (h : Nameable naming objects) : OnLines naming objects where
  spaceName := Identifier.oneLine_of_isAscii h.named.spaceName
  object := fun object ho => ⟨Identifier.oneLine_of_isAscii (h.named.object object ho), h.fullName object ho⟩
  property := fun object ho property hp =>
    ⟨Identifier.oneLine_of_isAscii (h.named.property object ho property hp), h.type object ho property hp⟩

/-- The constructors of a model whose names are identifiers have identifiers for names. -/
theorem Nameable.constructors (h : Nameable naming objects) :
    ∀ c ∈ objects.map (Stub.Constructor.ofObject naming), c.Named := by
  intro c hc
  obtain ⟨object, ho, rfl⟩ := List.mem_map.mp hc
  intro field hf
  obtain ⟨property, hp, rfl⟩ := List.mem_map.mp hf
  exact h.named.property object ho property hp

/-- The interfaces of a model whose names are identifiers have identifiers for names. -/
theorem Nameable.interfaces (h : Nameable naming objects) :
    ∀ i ∈ objects.map (Declaration.Interface.ofObject naming), i.Named := by
  intro i hi
  obtain ⟨object, ho, rfl⟩ := List.mem_map.mp hi
  refine ⟨h.named.object object ho, fun member hm => ?_⟩
  obtain ⟨property, hp, rfl⟩ := List.mem_map.mp hm
  exact h.named.property object ho property hp

/-- Outputs are equal if their lines are. -/
theorem render_eq_iff_lines_eq (output : Output) (h : OnLines naming objects) (h' : OnLines naming others) :
    output.render naming objects = output.render naming others ↔
      output.lines naming objects = output.lines naming others := by
  have hlines := output.hasLines_render h
  have hlines' := output.hasLines_render h'
  constructor
  · intro he
    rw [he] at hlines
    exact hlines.unique hlines'
  · intro he
    rw [hlines.text, hlines'.text, he]

/-- Let all names in two models be identifiers, and full names and types on one line each. Their stubs are equal exactly if
the objects have the same names, and their properties the same names, constructors and comments, in the same order. Their
declarations are equal exactly if the objects have the same names and the same parameters, or none, and their properties the
same names and types, in the same order. -/
theorem render_eq_iff (naming : Naming) (objects others : List Object) (h : Nameable naming objects)
    (h' : Nameable naming others) :
    (Stub.ofModel naming objects = Stub.ofModel naming others ↔
      objects.map (Stub.Constructor.ofObject naming) = others.map (Stub.Constructor.ofObject naming)) ∧
    (Declaration.ofModel naming objects = Declaration.ofModel naming others ↔
      objects.map (Declaration.Interface.ofObject naming) = others.map (Declaration.Interface.ofObject naming)) := by
  refine ⟨(render_eq_iff_lines_eq .stubs h.onLines h'.onLines).trans ?_,
    (render_eq_iff_lines_eq .declarations h.onLines h'.onLines).trans ?_⟩
  · rw [Stub.lines_eq, Stub.lines_eq]
    refine ⟨fun he => ?_, fun he => by rw [he]⟩
    refine (flatMap_append_inj (fun a ha b hb r s hab => ?_) (fun b _ ls => List.cons_ne_nil _ _)
      (fun a _ ls => List.cons_ne_nil _ _) (congrArg (· ++ []) (List.cons.inj he).2)).1
    exact Stub.Constructor.lines_append_inj (h.constructors a ha) (h'.constructors b hb) hab
  · rw [Declaration.lines_eq, Declaration.lines_eq]
    refine ⟨fun he => ?_, fun he => by rw [he]⟩
    refine (flatMap_append_inj (fun a ha b hb r s hab => ?_) (fun b _ ls => b.lines_append_ne ls [])
      (fun a _ ls => a.lines_append_ne ls []) (List.cons.inj (List.cons.inj he).2).2).1
    exact Declaration.Interface.lines_append_inj (h.interfaces a ha) (h'.interfaces b hb) hab

/-- A model of one object with one property. -/
def note (type : String) (summary : Option Text) : List Object :=
  [⟨"Note".toList, "Shop.Note".toList, [⟨"Owner".toList, type.toList, summary⟩]⟩]

/-- Another type of the same constructor changes the declarations alone, and a summary that reads like the end of a
constructor changes the stubs alone. -/
theorem note_changes :
    (Nameable Naming.standard (note "User" none) ∧ Nameable Naming.standard (note "Client" none) ∧
      Nameable Naming.standard (note "User" (some "\n\x7d;".toList))) ∧
    (Stub.ofModel Naming.standard (note "User" none) = Stub.ofModel Naming.standard (note "Client" none) ∧
      Declaration.ofModel Naming.standard (note "User" none) ≠ Declaration.ofModel Naming.standard (note "Client" none)) ∧
    (Stub.ofModel Naming.standard (note "User" none) ≠
        Stub.ofModel Naming.standard (note "User" (some "\n\x7d;".toList)) ∧
      Declaration.ofModel Naming.standard (note "User" none) =
        Declaration.ofModel Naming.standard (note "User" (some "\n\x7d;".toList))) := by
  have huser : Nameable Naming.standard (note "User" none) := by decide +kernel
  have hclient : Nameable Naming.standard (note "Client" none) := by decide +kernel
  have hsummary : Nameable Naming.standard (note "User" (some "\n\x7d;".toList)) := by decide +kernel
  obtain ⟨htype, htype'⟩ := render_eq_iff _ _ _ huser hclient
  obtain ⟨hcomment, hcomment'⟩ := render_eq_iff _ _ _ huser hsummary
  refine ⟨⟨huser, hclient, hsummary⟩, ⟨htype.mpr ?_, mt htype'.mp ?_⟩, mt hcomment.mp ?_, hcomment'.mpr ?_⟩ <;>
    decide +kernel

end ModelStubs
