import ModelStubs.Descriptor
import ModelStubs.Proofs.Text

/-!
# Reading a generic form

A text reads as `Name<Arg>` after some first part if it can be put together that way (`Reads`), with a word for a name
and something for an argument. Among all such readings the search of a descriptor for its opening angle finds the one
with the shortest first part (`search_eq_some_iff`), be it over all readings (`generic?_eq_some_iff`) or over those that
come after a dot (`qualifiedGeneric?_eq_some_iff`).
-/

namespace ModelStubs.Descriptor

open Text (isLetter lettersAtEnd IsWord)

/-- A text is `before`, then `Name<Arg>` with a word for a name and something for an argument. -/
structure Reads (t before : Text) (form : GenericForm) : Prop where
  text : t = before ++ form.written
  name : IsWord form.name
  arg : form.arg ≠ []

/-- The form is read after the shortest of the first parts that satisfy `Accepts`. -/
def FirstReading (Accepts : Text → Prop) (t : Text) (form : GenericForm) : Prop :=
  ∃ before, Accepts before ∧ Reads t before form ∧
    ∀ before' form', Accepts before' → Reads t before' form' → before.length ≤ before'.length

/-! ## One reading for each first part -/

theorem isLetter_opening : isLetter '<' = false := by decide

/-- The letters that open a form as written are its name. -/
theorem takeWhile_written {form : GenericForm} (h : IsWord form.name) : form.written.takeWhile isLetter = form.name := by
  rw [GenericForm.written, List.append_assoc, List.takeWhile_append_of_pos h.letters]
  simp [isLetter_opening]

/-- Behind one first part a text reads as one form only. -/
theorem Reads.unique {t before : Text} {form form' : GenericForm} (h : Reads t before form) (h' : Reads t before form') :
    form = form' := by
  have hw : form.written = form'.written := List.append_cancel_left (h.text.symm.trans h'.text)
  have hn : form.name = form'.name := by rw [← takeWhile_written h.name, hw, takeWhile_written h'.name]
  have ha : form.arg = form'.arg := by
    rw [GenericForm.written, GenericForm.written, hn] at hw
    simpa using hw
  cases form
  cases form'
  simp only at hn ha
  rw [hn, ha]

/-- A text has one first reading. -/
theorem FirstReading.unique {Accepts : Text → Prop} {t : Text} {form form' : GenericForm}
    (h : FirstReading Accepts t form) (h' : FirstReading Accepts t form') : form = form' := by
  obtain ⟨before, ha, hr, hmin⟩ := h
  obtain ⟨before', ha', hr', hmin'⟩ := h'
  have hl : before.length = before'.length := Nat.le_antisymm (hmin _ _ ha' hr') (hmin' _ _ ha hr)
  have he : before = before' := List.append_inj_left (hr.text.symm.trans hr'.text) hl
  subst he
  exact hr.unique hr'

/-! ## The search for the opening angle -/

/-- The opening angle after `pre` counts for the search, and gives the form. -/
structure Opens (accept : Text → Bool) (body pre : Text) (form : GenericForm) : Prop where
  text : body = pre ++ '<' :: form.arg
  name : form.name = lettersAtEnd pre
  name_ne_nil : form.name ≠ []
  arg_ne_nil : form.arg ≠ []
  accepted : accept (pre.reverse.dropWhile isLetter) = true

variable {accept : Text → Bool} {seen rest : Text} {c : Char} {form : GenericForm}

/-- The character that is looked at is an opening angle that counts exactly under the test of the search. -/
theorem opens_here_iff : Opens accept (seen.reverse ++ c :: rest) (seen.reverse ++ []) form ↔
    (c = '<' ∧ seen.takeWhile isLetter ≠ [] ∧ rest ≠ [] ∧ accept (seen.dropWhile isLetter) = true) ∧
      (⟨(seen.takeWhile isLetter).reverse, rest⟩ : GenericForm) = form := by
  constructor
  · rintro ⟨ht, hn, hnn, han, hacc⟩
    rw [List.append_nil] at ht hn hacc
    rw [lettersAtEnd, List.reverse_reverse] at hn
    rw [List.reverse_reverse] at hacc
    have hc := List.cons.inj (List.append_cancel_left ht)
    refine ⟨⟨hc.1, ?_, by rw [hc.2]; exact han, hacc⟩, ?_⟩
    · rw [hn] at hnn
      simpa using hnn
    · rw [← hn, hc.2]
  · rintro ⟨⟨rfl, hn, hr, hacc⟩, rfl⟩
    refine ⟨by simp, by simp [lettersAtEnd], by simpa using hn, hr, ?_⟩
    simpa using hacc

/-- An opening angle further on counts for the search exactly if it does after one more character was passed. -/
theorem opens_later_iff {d : Char} {mid : Text} :
    Opens accept (seen.reverse ++ c :: rest) (seen.reverse ++ d :: mid) form ↔
      d = c ∧ Opens accept ((c :: seen).reverse ++ rest) ((c :: seen).reverse ++ mid) form := by
  have hb : seen.reverse ++ c :: rest = (c :: seen).reverse ++ rest := by simp
  constructor
  · intro h
    have hd : c = d := by
      have := h.text
      rw [List.append_assoc] at this
      exact (List.cons.inj (List.append_cancel_left this)).1
    subst hd
    rw [hb, show seen.reverse ++ c :: mid = (c :: seen).reverse ++ mid by simp] at h
    exact ⟨rfl, h⟩
  · rintro ⟨rfl, h⟩
    rw [hb, show seen.reverse ++ d :: mid = (d :: seen).reverse ++ mid by simp]
    exact h

/-- Where the search finds nothing, no opening angle that is left counts. -/
theorem not_opens_of_genericFrom_eq_none (h : genericFrom accept seen rest = none) (mid : Text) :
    ¬Opens accept (seen.reverse ++ rest) (seen.reverse ++ mid) form := by
  induction rest generalizing seen mid with
  | nil =>
    intro ho
    have := congrArg List.length ho.text
    simp at this
  | cons c rest ih =>
    rw [genericFrom] at h
    split at h
    · nomatch h
    · rename_i hc
      cases mid with
      | nil => exact fun ho => hc (opens_here_iff.mp ho).1
      | cons d mid => exact fun ho => ih h mid (opens_later_iff.mp ho).2

/-- What the search finds is the form of the first opening angle that counts. -/
theorem opens_of_genericFrom_eq_some (h : genericFrom accept seen rest = some form) :
    ∃ mid, Opens accept (seen.reverse ++ rest) (seen.reverse ++ mid) form ∧
      ∀ mid' form', Opens accept (seen.reverse ++ rest) (seen.reverse ++ mid') form' → mid.length ≤ mid'.length := by
  induction rest generalizing seen with
  | nil => nomatch h
  | cons c rest ih =>
    rw [genericFrom] at h
    split at h
    · rename_i hc
      exact ⟨[], opens_here_iff.mpr ⟨hc, Option.some.inj h⟩, fun _ _ _ => Nat.zero_le _⟩
    · rename_i hc
      obtain ⟨mid, ho, hmin⟩ := ih h
      refine ⟨c :: mid, opens_later_iff.mpr ⟨rfl, ho⟩, ?_⟩
      intro mid' form' ho'
      cases mid' with
      | nil => exact absurd (opens_here_iff.mp ho').1 hc
      | cons d mid' => exact Nat.succ_le_succ (hmin _ _ (opens_later_iff.mp ho').2)

/-! ## What the search passes over -/

/-- The search passes over what has no opening angle. -/
theorem genericFrom_append (rest : Text) {piece : Text} (h : '<' ∉ piece) :
    genericFrom accept seen (piece ++ rest) = genericFrom accept (piece.reverse ++ seen) rest := by
  induction piece generalizing seen with
  | nil => rfl
  | cons c piece ih =>
    rw [List.mem_cons, not_or] at h
    rw [List.cons_append, genericFrom, if_neg fun hc => h.1 hc.1.symm, ih h.2]
    simp

/-- Nothing is found in what has no opening angle. -/
theorem genericFrom_eq_none {piece : Text} (h : '<' ∉ piece) : genericFrom accept seen piece = none := by
  rw [← List.append_nil piece, genericFrom_append [] h, genericFrom]

/-- What the search makes of a name with something behind its angle: it stops there if it accepts what stands before the name,
and goes on behind the angle otherwise. -/
theorem genericFrom_name {before name : Text} (hb : '<' ∉ before) (hn : IsWord name)
    (hs : ∀ c ∈ (before.reverse ++ seen).head?, isLetter c = false) (hr : rest ≠ []) :
    genericFrom accept seen (before ++ name ++ '<' :: rest) =
      if accept (before.reverse ++ seen) then some ⟨name, rest⟩
      else genericFrom accept ('<' :: ((before ++ name).reverse ++ seen)) rest := by
  have hletters : ∀ c ∈ name.reverse, isLetter c = true := fun c hc => hn.letters c (List.mem_reverse.mp hc)
  have hangle : '<' ∉ before ++ name := by
    rw [List.mem_append, not_or]
    exact ⟨hb, fun hm => absurd (hn.letters _ hm) (by decide)⟩
  have hrev : (before ++ name).reverse ++ seen = name.reverse ++ (before.reverse ++ seen) := by
    rw [List.reverse_append, List.append_assoc]
  have hne : name.reverse ≠ [] := by simpa using hn.ne_nil
  rw [genericFrom_append _ hangle, genericFrom, hrev, Text.takeWhile_append_of_head hletters hs,
    Text.dropWhile_append_of_head hletters hs]
  simp only [List.reverse_reverse, hne, hr, ne_eq, not_false_eq_true, true_and]

/-- A search that accepts everything does not look past a character that is no letter. -/
theorem genericFrom_of_not_letter (hc : isLetter c = false) (before : Text) :
    genericFrom (fun _ => true) (seen ++ c :: before) rest = genericFrom (fun _ => true) seen rest := by
  induction rest generalizing seen with
  | nil => rfl
  | cons d rest ih =>
    have hname : (seen ++ c :: before).takeWhile isLetter = seen.takeWhile isLetter := by
      have h := Text.takeWhile_reverse_append_cons hc before.reverse seen.reverse
      simpa using h
    rw [genericFrom, genericFrom, hname, ← List.cons_append, ih]

/-! ## The search and the readings -/

/-- The text before a run of letters that ends a text, and the run. -/
theorem dropLetters_append (pre : Text) :
    (pre.reverse.dropWhile isLetter).reverse ++ lettersAtEnd pre = pre := by
  rw [lettersAtEnd, ← List.reverse_append, List.takeWhile_append_dropWhile, List.reverse_reverse]

/-- An angle that counts gives a reading, whose first part the search has accepted. -/
theorem Opens.reads {body pre : Text} (h : Opens accept body pre form) :
    Reads (body ++ ['>']) (pre.reverse.dropWhile isLetter).reverse form where
  text := by
    have hp := dropLetters_append pre
    rw [← h.name] at hp
    rw [h.text, GenericForm.written, ← List.append_assoc, ← List.append_assoc, hp]
  name := ⟨h.name_ne_nil, by rw [h.name]; exact (Text.endRun_lettersAtEnd pre).letters⟩
  arg := h.arg_ne_nil

variable {Accepts : Text → Prop}

/-- A reading has its opening angle after the name; it counts if the text before the longest name is accepted. -/
theorem Reads.opens {body before : Text} (h : Reads (body ++ ['>']) before form)
    (hacc : accept ((before ++ form.name).reverse.dropWhile isLetter) = true) :
    Opens accept body (before ++ form.name) ⟨lettersAtEnd (before ++ form.name), form.arg⟩ where
  text := by
    have ht := h.text
    rw [GenericForm.written, ← List.append_assoc, ← List.append_assoc] at ht
    exact List.append_cancel_right ht
  name := rfl
  name_ne_nil := by
    intro hn
    have hl := (Text.endRun_lettersAtEnd (before ++ form.name)).longest _ (List.suffix_append _ _) h.name.letters
    rw [show lettersAtEnd (before ++ form.name) = [] from hn, List.suffix_nil] at hl
    exact h.name.ne_nil hl
  arg_ne_nil := h.arg
  accepted := hacc

/-- The first angle that counts leaves the shortest first part: a shorter one would make its name longer, as the letters
between the two first parts belong to the run that ends `pre`, which is the longest one. -/
theorem Opens.length_le {body pre before : Text} {form' : GenericForm} (h : Opens accept body pre form)
    (h' : Reads (body ++ ['>']) before form') (hle : pre.length ≤ (before ++ form'.name).length) :
    (pre.reverse.dropWhile isLetter).reverse.length ≤ before.length := by
  obtain ⟨hname, harg⟩ := h'.name, h'.text
  rw [GenericForm.written, ← List.append_assoc, ← List.append_assoc] at harg
  have hbody := List.append_cancel_right harg
  have hpre : pre <+: before ++ form'.name :=
    List.prefix_of_prefix_length_le ⟨_, h.text.symm⟩ ⟨_, hbody.symm⟩ hle
  rw [← dropLetters_append pre] at hpre
  generalize hb : (pre.reverse.dropWhile isLetter).reverse = first at hpre ⊢
  refine Nat.le_of_not_lt fun hlt => ?_
  obtain ⟨more, hmore⟩ := List.prefix_of_prefix_length_le (List.prefix_append before form'.name)
    ((List.prefix_append first _).trans hpre) (Nat.le_of_lt hlt)
  rw [← hmore, List.append_assoc, List.prefix_append_right_inj] at hpre
  have hletters : ∀ c ∈ more ++ lettersAtEnd pre, isLetter c = true := fun c hc => hname.letters c (hpre.subset hc)
  have hends : more ++ lettersAtEnd pre <:+ pre := by
    refine ⟨before, ?_⟩
    rw [← List.append_assoc, hmore, ← hb, dropLetters_append]
  have hlen := ((Text.endRun_lettersAtEnd pre).longest _ hends hletters).length_le
  have := congrArg List.length hmore
  simp only [List.length_append] at hlen this
  omega

/-- The search finds the reading with the shortest accepted first part, if what it accepts is not undone by letters. -/
theorem search_eq_some_iff (hacc : ∀ before, Accepts before ↔ accept before.reverse = true)
    (hletters : ∀ before name, Accepts before → (∀ c ∈ name, isLetter c = true) →
      accept ((before ++ name).reverse.dropWhile isLetter) = true) (t : Text) :
    (Text.dropLast? '>' t).bind (genericFrom accept []) = some form ↔ FirstReading Accepts t form := by
  have sound : ∀ form, (Text.dropLast? '>' t).bind (genericFrom accept []) = some form →
      FirstReading Accepts t form := by
    intro form h
    obtain ⟨body, hbody, hfrom⟩ := Option.bind_eq_some_iff.mp h
    rw [Text.dropLast?_eq_some_iff] at hbody
    subst hbody
    obtain ⟨pre, ho, hmin⟩ := opens_of_genericFrom_eq_some hfrom
    simp only [List.reverse_nil, List.nil_append] at ho hmin
    refine ⟨_, (hacc _).mpr (by rw [List.reverse_reverse]; exact ho.accepted), ho.reads, ?_⟩
    intro before' form' ha' hr'
    exact ho.length_le hr' (hmin _ _ (hr'.opens (hletters _ _ ha' hr'.name.letters)))
  refine ⟨sound form, ?_⟩
  intro h
  obtain ⟨before, ha, hr, -⟩ := id h
  have hbody : t = before ++ form.name ++ '<' :: form.arg ++ ['>'] := by
    rw [hr.text, GenericForm.written]
    simp
  cases hs : (Text.dropLast? '>' t).bind (genericFrom accept []) with
  | some found => rw [(sound found hs).unique h]
  | none =>
    rw [hbody, Text.dropLast?_append, Option.bind_some] at hs
    rw [hbody] at hr
    exact absurd (hr.opens (hletters _ _ ha hr.name.letters)) (not_opens_of_genericFrom_eq_none hs _)

/-- The form that ends a text is its first reading. -/
theorem generic?_eq_some_iff (t : Text) (form : GenericForm) :
    generic? t = some form ↔ FirstReading (fun _ => True) t form :=
  search_eq_some_iff (by simp) (by simp) t

/-- A suffix is what stands between the first opening angle and a closing one that ends the text. -/
theorem genericSuffix?_eq_some_iff (t arg : Text) :
    genericSuffix? t = some arg ↔ ∃ before, '<' ∉ before ∧ t = before ++ '<' :: arg ++ ['>'] := by
  simp only [genericSuffix?, Option.bind_eq_some_iff, Text.dropLast?_eq_some_iff, Text.afterFirst?_eq_some_iff]
  constructor
  · rintro ⟨body, rfl, before, hb, rfl⟩
    exact ⟨before, hb, rfl⟩
  · rintro ⟨before, hb, rfl⟩
    exact ⟨_, rfl, before, hb, rfl⟩

/-- The search for the last part of a qualified name accepts what ends in a dot; no letter undoes that. -/
theorem qualifiedGeneric?_eq_some_iff (t : Text) (form : GenericForm) :
    qualifiedGeneric? t = some form ↔ FirstReading (fun before => ['.'] <:+ before) t form := by
  refine search_eq_some_iff ?_ ?_ t
  · intro before
    rw [← List.reverse_prefix]
    cases before.reverse <;> simp [eq_comm]
  · rintro before name ⟨p, rfl⟩ hn
    have hdot : isLetter '.' = false := by decide
    rw [List.reverse_append, List.dropWhile_append_of_pos fun c hc => hn c (List.mem_reverse.mp hc)]
    simp [hdot]

end ModelStubs.Descriptor
