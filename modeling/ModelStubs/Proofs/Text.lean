import ModelStubs.Text

/-!
# Pieces of texts

What the operations on texts say about how a text is put together: a word occurs in it (`occursIn_iff`), a character ends
it (`dropLast?_eq_some_iff`), a run of letters ends or opens it (`endRun_iff`, `startRun_iff`), a part follows its last
separator (`lastPart_iff`).
-/

namespace ModelStubs.Text

/-- A word occurs in a text if it is a piece of it. -/
theorem occursIn_iff (word t : Text) : occursIn word t = true ↔ word <:+: t := by
  induction t with
  | nil => simp [occursIn]
  | cons c t ih => simp [occursIn, List.infix_cons_iff, ih]

/-- The last character is taken off exactly where the text ends in it. -/
theorem dropLast?_eq_some_iff (c : Char) (t body : Text) : dropLast? c t = some body ↔ t = body ++ [c] := by
  induction t generalizing body with
  | nil => simp [dropLast?]
  | cons d t ih =>
    cases t with
    | nil =>
      cases body with
      | nil => simp [dropLast?]
      | cons b rest => simp [dropLast?]
    | cons e t =>
      rw [dropLast?, Option.map_eq_some_iff]
      constructor
      · rintro ⟨rest, hr, rfl⟩
        rw [(ih rest).mp hr]
        rfl
      · intro h
        cases body with
        | nil => simp at h
        | cons b rest =>
          rw [List.cons_append, List.cons.injEq] at h
          exact ⟨rest, (ih rest).mpr h.2, by rw [h.1]⟩

/-- The last character of a text comes off. -/
@[simp] theorem dropLast?_append (c : Char) (body : Text) : dropLast? c (body ++ [c]) = some body :=
  (dropLast?_eq_some_iff c _ body).mpr rfl

/-- No other character comes off the end of a text. -/
theorem dropLast?_concat_of_ne {c d : Char} (h : d ≠ c) (body : Text) : dropLast? c (body ++ [d]) = none := by
  rw [Option.eq_none_iff_forall_ne_some]
  intro rest hr
  have he := (dropLast?_eq_some_iff c _ rest).mp hr
  exact h (List.singleton_inj.mp (List.append_inj_right' he rfl))

/-- Taking off the last character is done behind any other character. -/
theorem dropLast?_append_cons {c d : Char} (h : d ≠ c) (before t : Text) :
    dropLast? c (before ++ d :: t) = (dropLast? c t).map (before ++ d :: ·) := by
  rcases List.eq_nil_or_concat t with rfl | ⟨body, e, rfl⟩
  · exact dropLast?_concat_of_ne h before
  · rw [List.concat_eq_append, ← List.cons_append, ← List.append_assoc]
    by_cases he : e = c
    · rw [he, dropLast?_append, dropLast?_append, Option.map_some]
    · rw [dropLast?_concat_of_ne he, dropLast?_concat_of_ne he, Option.map_none]

/-- The part after the first `c` has before it a `c`, and before that none. -/
theorem afterFirst?_eq_some_iff (c : Char) (t rest : Text) :
    afterFirst? c t = some rest ↔ ∃ before, c ∉ before ∧ t = before ++ c :: rest := by
  induction t with
  | nil => simp [afterFirst?]
  | cons d t ih =>
    rw [afterFirst?]
    split
    · rename_i hd
      subst hd
      constructor
      · rintro ⟨⟩
        exact ⟨[], List.not_mem_nil, rfl⟩
      · rintro ⟨before, hb, he⟩
        cases before with
        | nil => rw [(List.cons.inj he).2]
        | cons e before => exact absurd (by rw [(List.cons.inj he).1]; exact List.mem_cons_self) hb
    · rename_i hd
      rw [ih]
      constructor
      · rintro ⟨before, hb, rfl⟩
        exact ⟨d :: before, by simp [hb, Ne.symm hd], rfl⟩
      · rintro ⟨before, hb, he⟩
        cases before with
        | nil => exact absurd (List.cons.inj he).1 hd
        | cons e before => exact ⟨before, (List.not_mem_of_not_mem_cons hb), (List.cons.inj he).2⟩

/-- A piece is found behind a first part that does not have its first character. -/
theorem cons_infix_append_iff {c : Char} {before : Text} (h : c ∉ before) (piece t : Text) :
    c :: piece <:+: before ++ t ↔ c :: piece <:+: t := by
  induction before with
  | nil => rfl
  | cons d before ih =>
    rw [List.mem_cons, not_or] at h
    rw [List.cons_append, List.infix_cons_iff, ih h.2, List.cons_prefix_cons]
    exact or_iff_right fun hd => h.1 hd.1

/-! ## Runs of letters -/

/-- The codes of letters. -/
theorem isLetter_iff (c : Char) :
    isLetter c = true ↔ 65 ≤ c.toNat ∧ c.toNat ≤ 90 ∨ 97 ≤ c.toNat ∧ c.toNat ≤ 122 := by
  unfold isLetter
  delta Char.isAlpha Char.isUpper Char.isLower
  simp only [Bool.or_eq_true, Bool.and_eq_true, decide_eq_true_eq, UInt32.le_iff_toNat_le, ge_iff_le]
  rfl

/-- A text that consists of letters and has at least one. -/
structure IsWord (t : Text) : Prop where
  ne_nil : t ≠ []
  letters : ∀ c ∈ t, isLetter c = true

/-- The test goes along the text: for `∀ c ∈ t` the search for an instance may find a test of every character there is. -/
instance decIsWord (t : Text) : Decidable (IsWord t) :=
  decidable_of_iff (t ≠ [] ∧ t.all isLetter = true)
    ⟨fun h => ⟨h.1, List.all_eq_true.mp h.2⟩, fun h => ⟨h.ne_nil, List.all_eq_true.mpr h.letters⟩⟩

/-- `run` is the longest run of letters that ends `t`. -/
structure EndRun (t run : Text) : Prop where
  ends : run <:+ t
  letters : ∀ c ∈ run, isLetter c = true
  longest : ∀ r, r <:+ t → (∀ c ∈ r, isLetter c = true) → r <:+ run

/-- `run` is the longest run of letters that opens `t`. -/
structure StartRun (t run : Text) : Prop where
  opens : run <+: t
  letters : ∀ c ∈ run, isLetter c = true
  longest : ∀ r, r <+: t → (∀ c ∈ r, isLetter c = true) → r <+: run

/-- What opens a text and has a property in each of its characters opens the longest such piece. -/
theorem prefix_takeWhile {p : Char → Bool} {r t : Text} (h : r <+: t) (hp : ∀ c ∈ r, p c = true) :
    r <+: t.takeWhile p := by
  obtain ⟨rest, rfl⟩ := h
  rw [List.takeWhile_append_of_pos hp]
  exact List.prefix_append _ _

/-- Each character of the longest piece with a property has it. -/
theorem mem_takeWhile {p : Char → Bool} {c : Char} {t : Text} (h : c ∈ t.takeWhile p) : p c = true :=
  List.all_eq_true.mp List.all_takeWhile c h

/-- A piece that has a property in each character, before a text that does not open with it, is the longest such piece. -/
theorem takeWhile_append_of_head {p : Char → Bool} {a b : Text} (ha : ∀ c ∈ a, p c = true)
    (hb : ∀ c ∈ b.head?, p c = false) : (a ++ b).takeWhile p = a := by
  rw [List.takeWhile_append_of_pos ha]
  cases b with
  | nil => simp
  | cons c b => simp [hb c rfl]

/-- What is left behind the longest piece with a property is the text behind it. -/
theorem dropWhile_append_of_head {p : Char → Bool} {a b : Text} (ha : ∀ c ∈ a, p c = true)
    (hb : ∀ c ∈ b.head?, p c = false) : (a ++ b).dropWhile p = b := by
  rw [List.dropWhile_append_of_pos ha]
  cases b with
  | nil => simp
  | cons c b => simp [hb c rfl]

/-- What ends a text and has a property in each of its characters is looked for behind the last one that has not. -/
theorem takeWhile_reverse_append_cons {p : Char → Bool} {c : Char} (hc : p c = false) (before t : Text) :
    (before ++ c :: t).reverse.takeWhile p = t.reverse.takeWhile p := by
  rw [List.reverse_append, List.reverse_cons, List.append_assoc, List.takeWhile_append]
  split
  · rename_i hlen
    rw [(List.takeWhile_prefix p).eq_of_length hlen]
    simp [hc]
  · rfl

/-- A text is cut in one way at its first character that does not have a property. -/
theorem cut_unique {p : Char → Bool} {a b s t : Text} {x y : Char} (ha : ∀ c ∈ a, p c = true) (hx : p x = false)
    (hb : ∀ c ∈ b, p c = true) (hy : p y = false) (h : a ++ x :: s = b ++ y :: t) : a = b ∧ x = y ∧ s = t := by
  have hab : a = b := by
    rw [← takeWhile_append_of_head (b := x :: s) ha (by simpa using hx), h]
    exact takeWhile_append_of_head hb (by simpa using hy)
  subst hab
  rw [List.append_cancel_left_eq, List.cons.injEq] at h
  exact ⟨rfl, h⟩

/-- A text is cut in one way at the first occurrence of a character. -/
theorem first_cut_unique {c : Char} {a b s t : Text} (ha : c ∉ a) (hb : c ∉ b) (h : a ++ c :: s = b ++ c :: t) :
    a = b ∧ s = t := by
  have hne : ∀ {l : Text}, c ∉ l → ∀ d ∈ l, (d != c) = true := by
    intro l hl d hd
    rw [bne_iff_ne]
    rintro rfl
    exact hl hd
  obtain ⟨hab, -, hst⟩ := cut_unique (hne ha) (bne_self_eq_false c) (hne hb) (bne_self_eq_false c) h
  exact ⟨hab, hst⟩

/-- The letters that end a text are looked for behind the last character that is none. -/
theorem lettersAtEnd_append_cons {c : Char} (hc : isLetter c = false) (before t : Text) :
    lettersAtEnd (before ++ c :: t) = lettersAtEnd t := by
  rw [lettersAtEnd, takeWhile_reverse_append_cons hc, lettersAtEnd]

/-- The letters taken from the start of a text are the longest run of letters there. -/
theorem startRun_lettersAtStart (t : Text) : StartRun t (lettersAtStart t) where
  opens := List.takeWhile_prefix _
  letters := fun _ => mem_takeWhile
  longest := fun _ => prefix_takeWhile

/-- The longest run of letters that opens a text is the one that is taken. -/
theorem startRun_iff (t run : Text) : StartRun t run ↔ lettersAtStart t = run := by
  have hs := startRun_lettersAtStart t
  constructor
  · intro h
    exact (h.longest _ hs.opens hs.letters).eq_of_length_le (hs.longest _ h.opens h.letters).length_le
  · rintro rfl
    exact hs

/-- The letters taken from the end of a text are the longest run of letters there. -/
theorem endRun_lettersAtEnd (t : Text) : EndRun t (lettersAtEnd t) where
  ends := by
    rw [lettersAtEnd, ← List.reverse_prefix, List.reverse_reverse]
    exact List.takeWhile_prefix _
  letters := fun c hc => mem_takeWhile (List.mem_reverse.mp hc)
  longest := by
    intro r hr hl
    rw [lettersAtEnd, ← List.reverse_prefix, List.reverse_reverse]
    exact prefix_takeWhile (List.reverse_prefix.mpr hr) fun c hc => hl c (List.mem_reverse.mp hc)

/-- Letters end a text exactly if its last character is one. -/
theorem lettersAtEnd_ne_nil_iff (t : Text) :
    lettersAtEnd t ≠ [] ↔ ∃ before c, t = before ++ [c] ∧ isLetter c = true := by
  rcases List.eq_nil_or_concat t with rfl | ⟨before, d, rfl⟩
  · simp [lettersAtEnd]
  · rw [List.concat_eq_append, lettersAtEnd, List.reverse_concat, List.takeWhile_cons]
    cases hd : isLetter d with
    | true => exact iff_of_true (by simp) ⟨before, d, rfl, hd⟩
    | false =>
      refine iff_of_false (by simp) ?_
      rintro ⟨before', c, he, hc⟩
      rw [← List.singleton_inj.mp (List.append_inj_right' he rfl), hd] at hc
      nomatch hc

/-- The longest run of letters that ends a text is the one that is taken. -/
theorem endRun_iff (t run : Text) : EndRun t run ↔ lettersAtEnd t = run := by
  have he := endRun_lettersAtEnd t
  constructor
  · intro h
    exact (h.longest _ he.ends he.letters).eq_of_length_le (he.longest _ h.ends h.letters).length_le
  · rintro rfl
    exact he

/-! ## The part after the last separator -/

/-- `part` is what follows the last `c` of `t`, or all of `t` if it has none. -/
def LastPart (c : Char) (t part : Text) : Prop := c ∉ part ∧ (part = t ∨ ∃ before, t = before ++ c :: part)

/-- The last part is a piece of the text. -/
theorem LastPart.isInfix {c : Char} {t part : Text} (h : LastPart c t part) : part <:+: t := by
  rcases h.2 with rfl | ⟨before, rfl⟩
  · exact List.infix_rfl
  · exact ((List.suffix_cons c part).trans (List.suffix_append before _)).isInfix

/-- A text that holds `c` can be cut at its last one. -/
theorem exists_last_cut {c : Char} {t : Text} (h : c ∈ t) : ∃ before part, t = before ++ c :: part ∧ c ∉ part := by
  induction t with
  | nil => exact absurd h List.not_mem_nil
  | cons d t ih =>
    by_cases ht : c ∈ t
    · obtain ⟨before, part, rfl, hp⟩ := ih ht
      exact ⟨d :: before, part, rfl, hp⟩
    · rcases List.mem_cons.mp h with rfl | hc
      · exact ⟨[], t, rfl, ht⟩
      · exact absurd hc ht

/-- A character that is not in a text differs from each character there, read from the end. -/
theorem bne_of_not_mem {c : Char} {t : Text} (h : c ∉ t) : ∀ d ∈ t.reverse, (d != c) = true := by
  intro d hd
  rw [bne_iff_ne]
  rintro rfl
  exact h (List.mem_reverse.mp hd)

/-- A text without the separator is its own last part. -/
theorem afterLast_of_not_mem {c : Char} {t : Text} (h : c ∉ t) : afterLast c t = t := by
  have ht : (t.reverse ++ []).takeWhile (· != c) = t.reverse ++ [] := List.takeWhile_append_of_pos (bne_of_not_mem h)
  rw [List.append_nil] at ht
  rw [afterLast, ht, List.reverse_reverse]

/-- What comes before a separator does not matter. -/
theorem afterLast_append_cons (c : Char) (before t : Text) : afterLast c (before ++ c :: t) = afterLast c t := by
  rw [afterLast, takeWhile_reverse_append_cons (p := (· != c)) (bne_self_eq_false c), afterLast]

/-- What has no separator in it is the last part behind one. -/
theorem afterLast_append {c : Char} (before : Text) {part : Text} (h : c ∉ part) :
    afterLast c (before ++ c :: part) = part := by
  rw [afterLast_append_cons, afterLast_of_not_mem h]

/-- The part that is taken is the last one. -/
theorem lastPart_afterLast (c : Char) (t : Text) : LastPart c t (afterLast c t) := by
  refine ⟨fun h => ?_, ?_⟩
  · have := mem_takeWhile (List.mem_reverse.mp h)
    simp at this
  · by_cases h : c ∈ t
    · obtain ⟨before, part, rfl, hp⟩ := exists_last_cut h
      exact Or.inr ⟨before, by rw [afterLast_append before hp]⟩
    · exact Or.inl (afterLast_of_not_mem h)

/-- What has no separator stays behind the last one. -/
theorem afterLast_append_of_not_mem {c : Char} (t : Text) {more : Text} (h : c ∉ more) :
    afterLast c (t ++ more) = afterLast c t ++ more := by
  rw [afterLast, List.reverse_append, List.takeWhile_append_of_pos (bne_of_not_mem h), List.reverse_append,
    List.reverse_reverse, afterLast]

/-- What comes before a text with a separator in it does not matter. -/
theorem afterLast_append_of_mem {c : Char} (before : Text) {t : Text} (h : c ∈ t) :
    afterLast c (before ++ t) = afterLast c t := by
  obtain ⟨first, part, rfl, -⟩ := exists_last_cut h
  rw [← List.append_assoc, afterLast_append_cons, afterLast_append_cons]

/-- The last part has characters of the text, in order. -/
theorem afterLast_sublist (c : Char) (t : Text) : (afterLast c t).Sublist t := by
  rw [afterLast, ← List.reverse_sublist, List.reverse_reverse]
  exact (List.takeWhile_prefix _).sublist

/-- A text has one last part, the one that is taken. -/
theorem lastPart_iff (c : Char) (t part : Text) : LastPart c t part ↔ afterLast c t = part := by
  constructor
  · rintro ⟨hc, rfl | ⟨before, rfl⟩⟩
    · exact afterLast_of_not_mem hc
    · exact afterLast_append before hc
  · rintro rfl
    exact lastPart_afterLast c t

/-! ## The order of texts -/

/-- No text stands before itself. -/
theorem before_irrefl (t : Text) : before t t = false := by
  induction t with
  | nil => rfl
  | cons c t ih => simp [before, ih]

/-- A text stands before what a later one stands before. -/
theorem before_trans {a b c : Text} (hab : before a b = true) (hbc : before b c = true) : before a c = true := by
  induction a generalizing b c with
  | nil =>
    cases c with
    | nil => cases b <;> nomatch hbc
    | cons z c => rfl
  | cons x a ih =>
    cases b with
    | nil => nomatch hab
    | cons y b =>
      cases c with
      | nil => nomatch hbc
      | cons z c =>
        simp only [before, Bool.if_true_left, Bool.if_false_left, Bool.or_eq_true, decide_eq_true_eq, Bool.and_eq_true,
          Bool.not_eq_true', decide_eq_false_iff_not] at hab hbc ⊢
        rcases hab with hxy | ⟨hyx, hab⟩
        · rcases hbc with hyz | ⟨hzy, -⟩
          · exact Or.inl (by omega)
          · exact Or.inl (by omega)
        · rcases hbc with hyz | ⟨hzy, hbc⟩
          · exact Or.inl (by omega)
          · exact Or.inr ⟨by omega, ih hab hbc⟩

/-- Of two texts of which neither stands before the other, each is the other. -/
theorem eq_of_not_before {a b : Text} (hab : before a b = false) (hba : before b a = false) : a = b := by
  induction a generalizing b with
  | nil =>
    cases b with
    | nil => rfl
    | cons y b => nomatch hab
  | cons x a ih =>
    cases b with
    | nil => nomatch hba
    | cons y b =>
      simp only [before, Bool.if_true_left, Bool.if_false_left, Bool.or_eq_false_iff, decide_eq_false_iff_not,
        Bool.and_eq_false_iff, Bool.not_eq_false', decide_eq_true_eq] at hab hba
      have hxy : x = y := Char.toNat_inj.mp (by omega)
      rw [hxy, ih (hab.2.resolve_left hba.1) (hba.2.resolve_left hab.1)]

/-- Of two texts at most one stands before the other. -/
theorem before_asymm {a b : Text} (h : before a b = true) : before b a = false := by
  rw [Bool.eq_false_iff]
  intro h'
  have := before_trans h h'
  rw [before_irrefl] at this
  nomatch this

/-- Not standing after is transitive: the order in which entries are sorted. -/
theorem not_before_trans {a b c : Text} (hab : before b a = false) (hbc : before c b = false) : before c a = false := by
  rw [Bool.eq_false_iff]
  intro hca
  cases h : before a b with
  | true =>
    rw [before_trans hca h] at hbc
    nomatch hbc
  | false =>
    rw [eq_of_not_before h hab] at hca
    rw [hca] at hbc
    nomatch hbc

end ModelStubs.Text
