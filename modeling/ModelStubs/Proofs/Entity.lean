import ModelStubs.Proofs.Comment

/-!
# Comments are read back

A comment is written with entities for the five characters that mean something in XML. None of these five stands in it but
the ampersand, and that only at the start of an entity. So one pass over a comment that puts its character for every entity
gives the text that the comment was made from, on one line (`unescape_escape`), whatever entities or ampersands that text had
in it already, and comments are alike only if these texts are (`comment_unescapes`).
-/

namespace ModelStubs.Comment

variable {t written : Text} {c : Char}

/-- A text read from left to right in one pass, in which each entity is the character that it stands for. -/
def unescape : Text → Text
  | '&' :: 'l' :: 't' :: ';' :: rest => '<' :: unescape rest
  | '&' :: 'g' :: 't' :: ';' :: rest => '>' :: unescape rest
  | '&' :: 'a' :: 'm' :: 'p' :: ';' :: rest => '&' :: unescape rest
  | '&' :: 'a' :: 'p' :: 'o' :: 's' :: ';' :: rest => '\'' :: unescape rest
  | '&' :: 'q' :: 'u' :: 'o' :: 't' :: ';' :: rest => '"' :: unescape rest
  | c :: rest => c :: unescape rest
  | [] => []

/-! ## Reading -/

/-- An entity is read as its character. -/
theorem unescape_entity (h : (written, c) ∈ entities) (t : Text) : unescape (written ++ t) = c :: unescape t := by
  simp only [entities, List.mem_cons, List.not_mem_nil, or_false, Prod.mk.injEq] at h
  rcases h with ⟨rfl, rfl⟩ | ⟨rfl, rfl⟩ | ⟨rfl, rfl⟩ | ⟨rfl, rfl⟩ | ⟨rfl, rfl⟩ <;> rfl

/-- A character that opens no entity is read as it is. -/
theorem unescape_cons (h : c ≠ '&') (t : Text) : unescape (c :: t) = c :: unescape t := by
  rw [unescape] <;> simp [h]

/-- A character as it is written is read as the character, whatever follows. -/
theorem unescape_escapeChar_append (c : Char) (t : Text) : unescape (escapeChar c ++ t) = c :: unescape t := by
  rcases escapeChar_cases c with he | ⟨hkept, hne⟩
  · exact unescape_entity he t
  · rw [hkept]
    exact unescape_cons (hne _ '&' ampersand_mem) t

/-- What is escaped is read back, whatever it has in it. -/
theorem unescape_escape (t : Text) : unescape (escape t) = t := by
  induction t with
  | nil => rfl
  | cons c t ih => rw [escape, List.flatMap_cons, unescape_escapeChar_append, ← escape, ih]

example : unescape "a &lt; b &amp;lt; c".toList = "a < b &lt; c".toList := by decide

/-- Different texts are written differently. -/
theorem escape_inj {a b : Text} : escape a = escape b ↔ a = b :=
  ⟨fun h => by rw [← unescape_escape a, h, unescape_escape], congrArg escape⟩

/-! ## What stands in an escaped text -/

/-- An entity opens with an ampersand, and has none of the five characters after it. -/
theorem exists_entity_tail (h : (written, c) ∈ entities) :
    ∃ tail, written = '&' :: tail ∧ ∀ other d, (other, d) ∈ entities → d ∉ tail := by
  have hall : ∀ e ∈ entities, e.1 = '&' :: e.1.tail ∧ ∀ f ∈ entities, f.2 ∉ e.1.tail := by decide
  obtain ⟨hcut, htail⟩ := hall _ h
  exact ⟨written.tail, hcut, fun other d hd => htail _ hd⟩

/-- Of the five characters, only the ampersand stands in an escaped text. -/
theorem not_mem_escape (h : (written, c) ∈ entities) (hc : c ≠ '&') (t : Text) : c ∉ escape t := by
  intro hm
  obtain ⟨d, -, hd⟩ := List.mem_flatMap.mp hm
  rcases escapeChar_cases d with he | ⟨hkept, hne⟩
  · obtain ⟨tail, hcut, htail⟩ := exists_entity_tail he
    rw [hcut, List.mem_cons] at hd
    exact hd.elim hc (htail written c h)
  · rw [hkept, List.mem_singleton] at hd
    exact hne written c h hd.symm

/-- What opens with a character and ends a text is found behind a first part without that character. -/
theorem cons_suffix_append_iff {before : Text} (h : c ∉ before) (rest t : Text) :
    c :: rest <:+ before ++ t ↔ c :: rest <:+ t := by
  induction before with
  | nil => rfl
  | cons d before ih =>
    rw [List.mem_cons, not_or] at h
    rw [List.cons_append, List.suffix_cons_iff, ih h.2]
    exact or_iff_right fun he => h.1 (List.cons.inj he).1

/-- Every ampersand in an escaped text opens an entity. -/
theorem entity_of_suffix_escape {rest : Text} (h : '&' :: rest <:+ escape t) : ∃ e ∈ entities, e.1 <+: '&' :: rest := by
  induction t with
  | nil => simp [escape] at h
  | cons c t ih =>
    rw [escape, List.flatMap_cons, ← escape] at h
    rcases escapeChar_cases c with he | ⟨hkept, hne⟩
    · obtain ⟨tail, hcut, htail⟩ := exists_entity_tail he
      rw [hcut, List.cons_append, List.suffix_cons_iff] at h
      rcases h with h | h
      · exact ⟨_, he, escape t, by rw [h, hcut]; rfl⟩
      · exact ih ((cons_suffix_append_iff (htail _ '&' ampersand_mem) _ _).mp h)
    · have hc : '&' ∉ [c] := fun hm => hne _ '&' ampersand_mem (List.mem_singleton.mp hm).symm
      rw [hkept] at h
      exact ih ((cons_suffix_append_iff hc _ _).mp h)

/-! ## Comments -/

/-- No comment has an angle, a quote or a line break in it. -/
theorem not_mem_ofProperty (owner : Object) (property : Property) :
    ∀ c ∈ ['<', '>', '"', '\'', '\r', '\n'], c ∉ ofProperty owner property := by
  intro c hc
  simp only [List.mem_cons, List.not_mem_nil, or_false] at hc
  rcases hc with rfl | rfl | rfl | rfl | rfl | rfl
  · exact not_mem_escape (by decide : ("&lt;".toList, '<') ∈ entities) (by decide) _
  · exact not_mem_escape (by decide : ("&gt;".toList, '>') ∈ entities) (by decide) _
  · exact not_mem_escape (by decide : ("&quot;".toList, '"') ∈ entities) (by decide) _
  · exact not_mem_escape (by decide : ("&apos;".toList, '\'') ∈ entities) (by decide) _
  · exact not_mem_ofProperty_of_isLineBreak rfl owner property
  · exact not_mem_ofProperty_of_isLineBreak rfl owner property

/-- A comment has none of the characters of XML in it but the ampersand, and no line break. Every ampersand opens an entity.
With its character for every entity it is the summary on one line, or for a property without one the default sentence, with
the name as declared. So two comments are the same exactly if the texts that they were made from are, on one line. -/
theorem comment_unescapes (owner : Object) (property : Property) :
    (∀ c ∈ ['<', '>', '"', '\'', '\r', '\n'], c ∉ ofProperty owner property) ∧
      (∀ rest, '&' :: rest <:+ ofProperty owner property → ∃ e ∈ entities, e.1 <+: '&' :: rest) ∧
      unescape (ofProperty owner property) =
        flatten (match property.summary with
          | some summary => summary
          | none => "The ".toList ++ property.name ++ " property as defined in ".toList ++ owner.fullName) ∧
      ∀ owner' property', ofProperty owner property = ofProperty owner' property' ↔
        flatten (property.summary.getD (defaultSentence owner property)) =
          flatten (property'.summary.getD (defaultSentence owner' property')) := by
  refine ⟨not_mem_ofProperty owner property, fun rest h => entity_of_suffix_escape h, ?_, fun _ _ => escape_inj⟩
  rw [ofProperty, unescape_escape]
  cases property.summary <;> rfl

end ModelStubs.Comment
