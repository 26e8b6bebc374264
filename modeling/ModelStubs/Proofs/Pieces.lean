import ModelStubs.Proofs.DeclaredType

/-!
# What descriptors are made of

Whatever a text is read as, the names in it are words, and whatever is taken over as written is a piece of the text without
brackets (`drawnFrom_ofPlain`). So a declared type says something, has no marks of nullability, and has brackets only where a
collection keeps the last part of an argument as written (`declaredType_drawn`).
-/

namespace ModelStubs.Descriptor

open Text (isLetter IsWord)

variable {t name : Text} {form : GenericForm} {d : Descriptor}

/-! ## What is read from a text -/

/-- A bare name for a type: a word, which is a piece of the text or stands in for one. -/
structure IsBareName (t name : Text) : Prop where
  word : IsWord name
  piece : name = anyName ∨ name <:+: t

/-- Whether the parts of a descriptor can come from a text: names are words, and what is written over from the text is a piece
of it without brackets. The argument of a collection is under no such rule. -/
def DrawnFrom (t : Text) : Descriptor → Prop
  | .scalar _ => True
  | .array element => IsBareName t element
  | .collection name _ => IsWord name
  | .generic name _ written => IsWord name ∧ name <+: written ∧ written <:+: t ∧ ¬"[]".toList <:+: written
  | .unknown name => IsBareName t name

theorem isBareName_anyName (t : Text) : IsBareName t anyName := ⟨isWord_anyName, Or.inl rfl⟩

/-- The element of an array is a bare name of the text. -/
theorem isBareName_bracketElement (t : Text) : IsBareName t ((bracketElement? t).getD anyName) := by
  cases h : bracketElement? t with
  | none => exact isBareName_anyName t
  | some element =>
    obtain ⟨body, ht, hrun, hne⟩ := (bracketElement?_eq_some_iff t element).mp h
    have hbody : body <:+: t := by
      rw [ht]
      exact (List.prefix_append body _).isInfix
    exact ⟨⟨hne, hrun.letters⟩, Or.inr (hrun.ends.isInfix.trans hbody)⟩

/-- The name of what no other shape claims is a bare name of the text. -/
theorem isBareName_bareName (t : Text) : IsBareName t (bareName t) := by
  rcases (bareName_eq_iff t _).mp rfl with ⟨hrun, hne⟩ | ⟨-, part, hpart, ⟨hrun, hne⟩ | ⟨-, hany⟩⟩
  · exact ⟨⟨hne, hrun.letters⟩, Or.inr hrun.ends.isInfix⟩
  · exact ⟨⟨hne, hrun.letters⟩, Or.inr (hrun.opens.isInfix.trans hpart.isInfix)⟩
  · rw [hany]
    exact isBareName_anyName t

/-- What a text is read as is drawn from it. The brackets of a generic form have made an array of the text before. -/
theorem drawnFrom_ofPlain (t : Text) : (ofPlain t).DrawnFrom t := by
  rw [ofPlain]
  cases Scalar.ofText? t with
  | some s => trivial
  | none =>
    cases hq : if mentionsCollection t then qualifiedGeneric? t else none with
    | some form =>
      split at hq
      · obtain ⟨before, -, hr, -⟩ := (qualifiedGeneric?_eq_some_iff t form).mp hq
        exact hr.name
      · cases hq
    | none =>
      by_cases hb : mentionsBrackets t = true
      · simp only [hb, if_true]
        exact isBareName_bracketElement t
      · simp only [hb]
        cases hg : generic? t with
        | none => exact isBareName_bareName t
        | some form =>
          obtain ⟨before, -, hr, -⟩ := (generic?_eq_some_iff t form).mp hg
          have hopens : form.name <+: form.written := by
            rw [GenericForm.written, List.append_assoc]
            exact List.prefix_append _ _
          rw [mentionsBrackets_iff] at hb
          exact ⟨hr.name, hopens, hr.written_infix, fun hw => hb (hw.trans hr.written_infix)⟩

/-! ## What is declared -/

/-- Letters and angles make no brackets. -/
theorem not_brackets_of_written (h : ∀ c ∈ t, Written [] c) : ¬"[]".toList <:+: t := by
  intro hb
  rcases h '[' (hb.subset (by decide)) with hm | hl | he | he
  · exact List.not_mem_nil hm
  · exact absurd hl (by decide)
  · exact absurd he (by decide)
  · exact absurd he (by decide)

/-- The letters of a word can stand in every declared type. -/
theorem written_of_isWord (h : IsWord t) : ∀ c ∈ t, Written [] c := fun c hc => Or.inr (Or.inl (h.letters c hc))

/-- What is drawn from a text is declared in some characters. -/
theorem DrawnFrom.declared_ne_nil (h : d.DrawnFrom t) : d.declared ≠ [] := by
  cases d with
  | scalar s => exact (isWord_name s).ne_nil
  | array element => exact List.cons_ne_nil _ _
  | collection name arg => cases arg <;> exact List.cons_ne_nil _ _
  | generic name arg written =>
    obtain ⟨hname, hopens, -⟩ := h
    cases arg with
    | scalar s => exact List.append_ne_nil_of_left_ne_nil hname.ne_nil _
    | raw arg => exact fun he => hname.ne_nil (List.prefix_nil.mp (he ▸ hopens))
  | unknown name => exact h.word.ne_nil

/-- Brackets are declared only where a collection keeps a part of its argument as written. -/
theorem DrawnFrom.exists_raw_of_brackets (h : d.DrawnFrom t) (hb : "[]".toList <:+: d.declared) :
    ∃ name arg, d = .collection name (.raw arg) := by
  cases d with
  | scalar s => exact absurd hb (not_brackets_of_written (written_of_isWord (isWord_name s)))
  | array element =>
    exact absurd hb (not_brackets_of_written (written_of_mem_arrayOf (written_of_isWord h.word)))
  | collection name arg =>
    cases arg with
    | scalar s =>
      exact absurd hb (not_brackets_of_written (written_of_mem_arrayOf (written_of_isWord (isWord_name s))))
    | raw arg => exact ⟨name, arg, rfl⟩
  | generic name arg written =>
    obtain ⟨hname, -, -, hwritten⟩ := h
    cases arg with
    | scalar s =>
      refine absurd hb (not_brackets_of_written fun c hc => ?_)
      rcases List.mem_append.mp hc with hc | hc
      · exact written_of_isWord hname c hc
      · exact written_of_isWord (isWord_name s) c hc
    | raw arg => exact absurd hb hwritten
  | unknown name => exact absurd hb (not_brackets_of_written (written_of_isWord h.word))

/-- A declared type has no mark of nullability. -/
theorem not_mem_declaredType (t : Text) : '?' ∉ declaredType t := by
  intro hm
  rcases written_of_mem_declaredType hm with hplain | hl | he | he
  · simp [dropNullable] at hplain
  · exact absurd hl (by decide)
  · exact absurd he (by decide)
  · exact absurd he (by decide)

/-- The type that is declared for a text is not empty and has no mark of nullability; its characters are letters, angles, and
characters of the text. The name of an unknown type or of an element is a word, which is a piece of the text or `any`; that
of a collection or a generic type is a word. A type with brackets is that of a collection with an argument as written. -/
theorem declaredType_drawn (t : Text) :
    declaredType t ≠ [] ∧ '?' ∉ declaredType t ∧
    (∀ c ∈ declaredType t, c ∈ dropNullable t ∨ isLetter c = true ∨ c = '<' ∨ c = '>') ∧
    (∀ name, ofText t = .unknown name ∨ ofText t = .array name →
      IsWord name ∧ (name = anyName ∨ name <:+: dropNullable t)) ∧
    (∀ name arg, ofText t = .collection name arg → IsWord name) ∧
    (∀ name arg written, ofText t = .generic name arg written → IsWord name) ∧
    ("[]".toList <:+: declaredType t → ∃ name arg, ofText t = .collection name (.raw arg)) := by
  have h : (ofText t).DrawnFrom (dropNullable t) := drawnFrom_ofPlain _
  refine ⟨h.declared_ne_nil, not_mem_declaredType t, fun c hc => written_of_mem_declaredType hc, ?_, ?_, ?_,
    h.exists_raw_of_brackets⟩
  · rintro name (he | he)
    · rw [he] at h
      exact ⟨h.word, h.piece⟩
    · rw [he] at h
      exact ⟨h.word, h.piece⟩
  · intro name arg he
    rw [he] at h
    exact h
  · intro name arg written he
    rw [he] at h
    exact h.1

/-- A collection can be declared with brackets, and the type inside them is then the last part of the argument. -/
example : declaredType "System.Collections.Generic.List<Shop.Order[]?>".toList = "Array<Order[]>".toList := by decide

end ModelStubs.Descriptor
