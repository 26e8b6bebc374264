import ModelStubs.Proofs.Bytes
import ModelStubs.Proofs.GenericForm

/-!
# Reading a descriptor by offsets in bytes

A descriptor can be read by counting the bytes of its letters and cutting the text at the offsets that come out, where an
offset that is no cut of the text is a fault. This reading never meets a fault and says what the reading by characters
says, for every text (`ofText_eq`, `genericSuffix?_eq`).

A match is searched in the text without its closing angle, while its offset is used on the whole text. What the search
finds ends the whole text, so its offset is the length of a first part of that text, too (`search_eq`, `cut_ofForm`).
-/

namespace ModelStubs.Descriptor.ByOffset

open Text (IsCut OffsetFault sliceFrom sliceTo offsetBefore byteLength letterBytesAtEnd letterBytesAtStart occurrences
  occurrencesFrom)

/-- The letters that end a text, cut off at the offset that is left when their bytes are counted. -/
def lettersAtEnd (t : Text) : Except OffsetFault Text := do
  sliceFrom t (← offsetBefore (byteLength t) (letterBytesAtEnd t))

/-- The letters that open a text, cut off at the number of their bytes. -/
def lettersAtStart (t : Text) : Except OffsetFault Text := sliceTo t (letterBytesAtStart t)

/-- `Name<Arg>` at the end of a text, with the offset of its name. -/
structure Match where
  start : Nat
  name : Text
  arg : Text
  deriving DecidableEq, Repr

/-- The first opening angle that counts, out of those at the given offsets. -/
def search (accept : Text → Bool) (body : Text) : List Nat → Except OffsetFault (Option Match)
  | [] => .ok none
  | opening :: later => do
    let name ← lettersAtEnd (← sliceTo body opening)
    let arg ← sliceFrom body (opening + 1)
    if name = [] ∨ arg = [] then search accept body later
    else
      let start ← offsetBefore opening (byteLength name)
      if accept (← sliceTo body start) then .ok (some ⟨start, name, arg⟩) else search accept body later

/-- The leftmost `Name<Arg>` that ends a text, after a text that is accepted. -/
def genericMatch (accept : Text → Bool) (t : Text) : Except OffsetFault (Option Match) :=
  match Text.dropLast? '>' t with
  | none => .ok none
  | some body => search accept body (occurrences '<' body)

/-- What stands behind the first opening angle, out of those at the given offsets. -/
def afterOpening? (body : Text) : List Nat → Except OffsetFault (Option Text)
  | [] => .ok none
  | opening :: _ => (sliceFrom body (opening + 1)).map some

/-- The text between the first opening angle and a closing angle that ends the text. -/
def genericSuffix? (t : Text) : Except OffsetFault (Option Text) :=
  match Text.dropLast? '>' t with
  | none => .ok none
  | some body => afterOpening? body (occurrences '<' body)

/-- The letters before a pair of brackets that ends the text. -/
def bracketElement? (t : Text) : Except OffsetFault (Option Text) :=
  match (Text.dropLast? ']' t).bind (Text.dropLast? '[') with
  | none => .ok none
  | some body => do
    let element ← lettersAtEnd body
    .ok (if element = [] then none else some element)

/-- The identifier of a text that no other shape claims. -/
def bareName (t : Text) : Except OffsetFault Text := do
  let trailing ← lettersAtEnd t
  if trailing ≠ [] then .ok trailing
  else
    let leading ← lettersAtStart (Text.afterLast '.' t)
    .ok (if leading ≠ [] then leading else anyName)

/-- Whether a text ends in a dot. -/
def endsInDot (t : Text) : Bool := t.getLast? = some '.'

/-- The `Name<Arg>` that ends a text that speaks of a collection, after a dot. -/
def collectionMatch (t : Text) : Except OffsetFault (Option Match) :=
  if mentionsCollection t then genericMatch endsInDot t else .ok none

/-- The shape of a text without marks of nullability. -/
def ofPlain (t : Text) : Except OffsetFault Descriptor :=
  match Scalar.ofText? t with
  | some s => .ok (.scalar s)
  | none => do
    match ← collectionMatch t with
    | some m => .ok (.collection m.name (.ofText m.arg))
    | none =>
      if mentionsBrackets t then .ok (.array ((← bracketElement? t).getD anyName))
      else
        match ← genericMatch (fun _ => true) t with
        | some m => .ok (.generic m.name (.ofText m.arg) (← sliceFrom t m.start))
        | none => .ok (.unknown (← bareName t))

/-- What a descriptor says. -/
def ofText (t : Text) : Except OffsetFault Descriptor := ofPlain (dropNullable t)

/-! ## Letters -/

@[simp] theorem ok_bind {α β : Type} (a : α) (f : α → Except OffsetFault β) : (Except.ok a >>= f) = f a := rfl

/-- What is left of a text without the letters that end it. -/
def beforeLetters (t : Text) : Text := (t.reverse.dropWhile Text.isLetter).reverse

theorem beforeLetters_append (t : Text) : beforeLetters t ++ Text.lettersAtEnd t = t := dropLetters_append t

/-- The letters that end a text have no more bytes than the text, and the difference is what stands before them. -/
theorem byteLength_sub_letters (t : Text) : byteLength (Text.lettersAtEnd t) ≤ byteLength t ∧
    byteLength t - byteLength (Text.lettersAtEnd t) = byteLength (beforeLetters t) := by
  have h := Text.byteLength_append (beforeLetters t) (Text.lettersAtEnd t)
  rw [beforeLetters_append] at h
  omega

/-- The offset of the letters that end a text is not below zero. -/
theorem offsetBefore_letters (t : Text) :
    offsetBefore (byteLength t) (byteLength (Text.lettersAtEnd t)) = .ok (byteLength (beforeLetters t)) := by
  obtain ⟨hle, hsub⟩ := byteLength_sub_letters t
  rw [offsetBefore, if_pos hle, hsub]

/-- The letters that end the first part of a text come off at a cut of the whole text. -/
theorem isCut_beforeLetters (t rest : Text) : IsCut (t ++ rest) (byteLength (beforeLetters t)) := by
  have h := Text.isCut_append (beforeLetters t) (Text.lettersAtEnd t ++ rest)
  rwa [← List.append_assoc, beforeLetters_append] at h

/-- Up to the offset of the letters there is what stands before them, whatever comes behind. -/
theorem sliceTo_beforeLetters (t rest : Text) :
    sliceTo (t ++ rest) (byteLength (beforeLetters t)) = .ok (beforeLetters t) := by
  have h := Text.sliceTo_append (beforeLetters t) (Text.lettersAtEnd t ++ rest)
  rwa [← List.append_assoc, beforeLetters_append] at h

/-- The letter bytes that end a text are no more than its bytes, and they start at a cut. -/
theorem isCut_letterBytesAtEnd (t : Text) :
    letterBytesAtEnd t ≤ byteLength t ∧ IsCut t (byteLength t - letterBytesAtEnd t) := by
  obtain ⟨hle, hsub⟩ := byteLength_sub_letters t
  have hcut := isCut_beforeLetters t []
  rw [List.append_nil] at hcut
  rw [Text.letterBytesAtEnd_eq, hsub]
  exact ⟨hle, hcut⟩

/-- By bytes, the letters that end a text are cut off without a fault. -/
theorem lettersAtEnd_eq (t : Text) : lettersAtEnd t = .ok (Text.lettersAtEnd t) := by
  have hslice := Text.sliceFrom_append (beforeLetters t) (Text.lettersAtEnd t)
  rw [beforeLetters_append] at hslice
  rw [lettersAtEnd, Text.letterBytesAtEnd_eq, offsetBefore_letters, ok_bind, hslice]

/-- The letter bytes that open a text end at a cut. -/
theorem isCut_letterBytesAtStart (t : Text) : IsCut t (letterBytesAtStart t) := by
  have hcut := Text.isCut_append (Text.lettersAtStart t) (t.dropWhile Text.isLetter)
  rw [Text.lettersAtStart, List.takeWhile_append_dropWhile] at hcut
  rwa [Text.letterBytesAtStart_eq, Text.lettersAtStart]

/-- By bytes, the letters that open a text are cut off without a fault. -/
theorem lettersAtStart_eq (t : Text) : lettersAtStart t = .ok (Text.lettersAtStart t) := by
  have hslice := Text.sliceTo_append (Text.lettersAtStart t) (t.dropWhile Text.isLetter)
  rw [Text.lettersAtStart, List.takeWhile_append_dropWhile] at hslice
  rw [lettersAtStart, Text.letterBytesAtStart_eq, Text.lettersAtStart, hslice]

/-! ## One opening angle -/

/-- The offsets that are taken at an opening angle: that of the angle, that behind it, and that of the name before it. -/
structure SafeAt (body : Text) (opening : Nat) : Prop where
  here : IsCut body opening
  behind : IsCut body (opening + 1)
  name : ∃ before name, sliceTo body opening = .ok before ∧ lettersAtEnd before = .ok name ∧
    byteLength name ≤ opening ∧ IsCut body (opening - byteLength name)

/-- The offsets that are taken at an opening angle are cuts. -/
theorem safeAt_of_mem {body : Text} {opening : Nat} (h : opening ∈ occurrences '<' body) : SafeAt body opening := by
  obtain ⟨pre, rest, rfl, rfl⟩ := Text.mem_occurrences h
  obtain ⟨hle, hsub⟩ := byteLength_sub_letters pre
  refine ⟨Text.isCut_append _ _, Text.isCut_behind pre rest '<', pre, Text.lettersAtEnd pre, Text.sliceTo_append _ _,
    lettersAtEnd_eq pre, hle, ?_⟩
  rw [hsub]
  exact isCut_beforeLetters pre _

variable {accept : Text → Bool}

/-- The search stops at an opening angle with a name and an argument whose first part it accepts, and goes on otherwise. -/
theorem search_cons (pre rest : Text) (later : List Nat) :
    search accept (pre ++ '<' :: rest) (byteLength pre :: later) =
      if Text.lettersAtEnd pre ≠ [] ∧ rest ≠ [] ∧ accept (beforeLetters pre) = true then
        .ok (some ⟨byteLength (beforeLetters pre), Text.lettersAtEnd pre, rest⟩)
      else search accept (pre ++ '<' :: rest) later := by
  have hbefore : sliceTo (pre ++ '<' :: rest) (byteLength pre) = .ok pre := Text.sliceTo_append pre _
  have hbehind : sliceFrom (pre ++ '<' :: rest) (byteLength pre + 1) = .ok rest := Text.sliceFrom_behind pre rest '<'
  simp only [search, hbefore, hbehind, lettersAtEnd_eq, offsetBefore_letters, sliceTo_beforeLetters, ok_bind]
  by_cases hn : Text.lettersAtEnd pre = []
  · simp [hn]
  · by_cases hr : rest = []
    · simp [hr]
    · simp [hn, hr]

/-! ## The search -/

/-- The match of a form that ends a text. -/
def Match.ofForm (t : Text) (form : GenericForm) : Match :=
  ⟨byteLength t - byteLength form.written, form.name, form.arg⟩

/-- The match starts where the text before the form ends. -/
theorem Match.ofForm_append (before : Text) (form : GenericForm) :
    Match.ofForm (before ++ form.written) form = ⟨byteLength before, form.name, form.arg⟩ := by
  rw [Match.ofForm, Text.byteLength_append, Nat.add_sub_cancel]

/-- The form of an angle has the letters before the angle for its name, and starts where they start. -/
theorem Match.ofForm_angle (pre rest : Text) :
    Match.ofForm (pre ++ '<' :: rest ++ ['>']) ⟨Text.lettersAtEnd pre, rest⟩ =
      ⟨byteLength (beforeLetters pre), Text.lettersAtEnd pre, rest⟩ := by
  have htext : pre ++ '<' :: rest ++ ['>'] =
      beforeLetters pre ++ (⟨Text.lettersAtEnd pre, rest⟩ : GenericForm).written := by
    rw [GenericForm.written, ← List.append_assoc, ← List.append_assoc, beforeLetters_append]
  rw [htext, Match.ofForm_append]

/-- The search by offsets finds what the search by characters finds. The induction is on the text that is left, behind
any text that was passed. -/
theorem search_eq (pre rest : Text) :
    search accept (pre ++ rest) (occurrencesFrom '<' (byteLength pre) rest) =
      .ok ((genericFrom (fun before => accept before.reverse) pre.reverse rest).map
        (Match.ofForm (pre ++ rest ++ ['>']))) := by
  induction rest generalizing pre with
  | nil => rfl
  | cons c rest ih =>
    have hlater := ih (pre ++ [c])
    rw [Text.byteLength_concat, List.append_assoc, List.singleton_append, List.reverse_concat] at hlater
    rw [occurrencesFrom, genericFrom]
    split
    · rename_i hc
      subst hc
      have hname : Text.lettersAtEnd pre = [] ↔ pre.reverse.takeWhile Text.isLetter = [] := List.reverse_eq_nil_iff
      rw [search_cons, hlater]
      by_cases hcounts : Text.lettersAtEnd pre ≠ [] ∧ rest ≠ [] ∧ accept (beforeLetters pre) = true
      · rw [if_pos hcounts, if_pos ⟨rfl, hname.not.mp hcounts.1, hcounts.2⟩, Option.map_some, ← Match.ofForm_angle]
        rfl
      · rw [if_neg hcounts, if_neg fun h => hcounts ⟨hname.not.mpr h.2.1, h.2.2⟩]
    · rename_i hc
      rw [hlater, if_neg fun h => hc h.1]

/-- By bytes, the search for a form finds what the search by characters finds, without a fault. -/
theorem genericMatch_eq (t : Text) :
    genericMatch accept t =
      .ok (((Text.dropLast? '>' t).bind (genericFrom (fun before => accept before.reverse) [])).map
        (Match.ofForm t)) := by
  rw [genericMatch]
  cases hbody : Text.dropLast? '>' t with
  | none => rfl
  | some body =>
    obtain rfl := (Text.dropLast?_eq_some_iff '>' t body).mp hbody
    exact search_eq [] body

/-- What the search finds ends the text. -/
theorem exists_text_of_search {t : Text} {form : GenericForm}
    (h : (Text.dropLast? '>' t).bind (genericFrom accept []) = some form) : ∃ before, t = before ++ form.written := by
  obtain ⟨body, hbody, hfrom⟩ := Option.bind_eq_some_iff.mp h
  obtain ⟨mid, hopens, -⟩ := opens_of_genericFrom_eq_some hfrom
  exact ⟨_, ((Text.dropLast?_eq_some_iff '>' t body).mp hbody).trans hopens.reads.text⟩

/-- The text is cut where a form that ends it starts, and the form is what the cut leaves. -/
theorem cut_ofForm {t : Text} {form : GenericForm}
    (h : (Text.dropLast? '>' t).bind (genericFrom accept []) = some form) :
    IsCut t (Match.ofForm t form).start ∧ sliceFrom t (Match.ofForm t form).start = .ok form.written := by
  obtain ⟨before, rfl⟩ := exists_text_of_search h
  rw [Match.ofForm_append]
  exact ⟨Text.isCut_append _ _, Text.sliceFrom_append _ _⟩

/-- The search gives a result for every text, and what it finds starts at a cut of the whole text. -/
theorem genericMatch_total (accept : Text → Bool) (t : Text) :
    ∃ found, genericMatch accept t = .ok found ∧ ∀ m ∈ found, IsCut t m.start := by
  refine ⟨_, genericMatch_eq t, ?_⟩
  intro m hm
  obtain ⟨form, hform, rfl⟩ := Option.map_eq_some_iff.mp hm
  exact (cut_ofForm hform).1

/-! ## Whole descriptors -/

/-- By bytes, the form of a collection is found without a fault. -/
theorem collectionMatch_eq (t : Text) :
    collectionMatch t = .ok ((if mentionsCollection t then qualifiedGeneric? t else none).map (Match.ofForm t)) := by
  have hdot : (fun before : Text => endsInDot before.reverse) = fun before : Text => before.head? = some '.' := by
    funext before
    rw [endsInDot, List.getLast?_reverse]
  rw [collectionMatch, genericMatch_eq, hdot, ← qualifiedGeneric?]
  split <;> rfl

/-- By bytes, what stands behind the first opening angle is found without a fault. -/
theorem afterOpening?_eq (pre rest : Text) :
    afterOpening? (pre ++ rest) (occurrencesFrom '<' (byteLength pre) rest) = .ok (Text.afterFirst? '<' rest) := by
  induction rest generalizing pre with
  | nil => rfl
  | cons c rest ih =>
    rw [occurrencesFrom, Text.afterFirst?]
    split
    · rename_i hc
      subst hc
      have hbehind : sliceFrom (pre ++ '<' :: rest) (byteLength pre + 1) = .ok rest := Text.sliceFrom_behind pre rest '<'
      rw [afterOpening?, hbehind]
      rfl
    · have hlater := ih (pre ++ [c])
      rwa [Text.byteLength_concat, List.append_assoc, List.singleton_append] at hlater

/-- By bytes, the argument that ends a text is found without a fault. -/
theorem genericSuffix?_eq (t : Text) : genericSuffix? t = .ok (Descriptor.genericSuffix? t) := by
  rw [genericSuffix?, Descriptor.genericSuffix?]
  cases Text.dropLast? '>' t with
  | none => rfl
  | some body => exact afterOpening?_eq [] body

/-- By bytes, the element in front of brackets is found without a fault. -/
theorem bracketElement?_eq (t : Text) : bracketElement? t = .ok (Descriptor.bracketElement? t) := by
  have hbody : Descriptor.bracketElement? t = ((Text.dropLast? ']' t).bind (Text.dropLast? '[')).bind fun body =>
      if Text.lettersAtEnd body = [] then none else some (Text.lettersAtEnd body) := by
    cases h : Text.dropLast? ']' t <;> simp [Descriptor.bracketElement?, h]
  rw [bracketElement?, hbody]
  cases (Text.dropLast? ']' t).bind (Text.dropLast? '[') with
  | none => rfl
  | some body =>
    simp only [Option.bind_some]
    rw [lettersAtEnd_eq, ok_bind]

/-- By bytes, the bare name of a text is found without a fault. -/
theorem bareName_eq (t : Text) : bareName t = .ok (Descriptor.bareName t) := by
  rw [bareName, lettersAtEnd_eq, ok_bind, Descriptor.bareName]
  split
  · rfl
  · rw [lettersAtStart_eq, ok_bind]

/-- By bytes, a text without marks of nullability has the shape that it has by characters. -/
theorem ofPlain_eq (t : Text) : ofPlain t = .ok (Descriptor.ofPlain t) := by
  rw [ofPlain, Descriptor.ofPlain]
  cases Scalar.ofText? t with
  | some s => rfl
  | none =>
    simp only [collectionMatch_eq, bracketElement?_eq, genericMatch_eq, bareName_eq, ok_bind]
    cases if mentionsCollection t then qualifiedGeneric? t else none with
    | some form => rfl
    | none =>
      rw [Option.map_none]
      cases mentionsBrackets t with
      | true => rfl
      | false =>
        rw [← generic?]
        cases hform : generic? t with
        | none => rfl
        | some form =>
          obtain ⟨-, hwritten⟩ := cut_ofForm hform
          simp only [Option.map_some, hwritten]
          rfl

/-- By bytes, a descriptor says what it says by characters. -/
theorem ofText_eq (t : Text) : ofText t = .ok (Descriptor.ofText t) := ofPlain_eq (dropNullable t)

/-- Every offset at which a descriptor is taken apart is a cut of the text that it is used on: those of the letters that
end or open a text, those of each opening angle before the closing one, and that of a match in the whole text. So no
reading meets a fault. -/
theorem offsets_are_cuts (t : Text) :
    (letterBytesAtEnd t ≤ byteLength t ∧ IsCut t (byteLength t - letterBytesAtEnd t)) ∧
      IsCut t (letterBytesAtStart t) ∧
      (∀ body ∈ Text.dropLast? '>' t, ∀ opening ∈ occurrences '<' body, SafeAt body opening) ∧
      (∀ accept, ∃ found, genericMatch accept t = .ok found ∧ ∀ m ∈ found, IsCut t m.start) ∧
      genericSuffix? t = .ok (Descriptor.genericSuffix? t) ∧
      ofText t = .ok (Descriptor.ofText t) := by
  refine ⟨isCut_letterBytesAtEnd t, isCut_letterBytesAtStart t, ?_, ?_, genericSuffix?_eq t, ofText_eq t⟩
  · intro body _ opening hopening
    exact safeAt_of_mem hopening
  · intro accept
    exact genericMatch_total accept t

/-- A page of two names that are not all letters: the angle stands behind eleven bytes, and the name before it opens behind
nine of them. -/
theorem offsets_are_cuts_page :
    (11 ∈ occurrences '<' "Ünit.Páge<é".toList ∧ SafeAt "Ünit.Páge<é".toList 11) ∧
      genericMatch (fun _ => true) "Ünit.Páge<é>".toList = .ok (some ⟨9, "ge".toList, "é".toList⟩) ∧
      IsCut "Ünit.Páge<é>".toList 9 := by
  obtain ⟨-, -, hangles, hmatch, -, -⟩ := offsets_are_cuts "Ünit.Páge<é>".toList
  have hopening : 11 ∈ occurrences '<' "Ünit.Páge<é".toList := by decide +kernel
  have hfound : genericMatch (fun _ => true) "Ünit.Páge<é>".toList = .ok (some ⟨9, "ge".toList, "é".toList⟩) := by
    decide +kernel
  obtain ⟨found, hsearch, hcut⟩ := hmatch fun _ => true
  rw [hfound, Except.ok.injEq] at hsearch
  subst hsearch
  exact ⟨⟨hopening, hangles _ rfl 11 hopening⟩, hfound, hcut _ rfl⟩

end ModelStubs.Descriptor.ByOffset
