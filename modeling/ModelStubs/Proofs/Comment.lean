import Mathlib.Data.List.TakeWhile
import ModelStubs.Comment
import ModelStubs.Proofs.Text

/-!
# What a comment keeps of a text

A text is white space, or white space up to its first other character and the rest. Along this cut flattening is a
recursion (`flatten_append_cons`, `flattenAfter_append_cons`), and it says which white space a comment keeps: what stands
between two other characters, with no line break beside it (`mem_flatten_iff`). Escaping goes by a table of five characters
(`escapeChar_cases`) and keeps all white space (`count_escape`). So a comment has no line break in it.
-/

namespace ModelStubs

namespace Text

/-- Of white space nothing is left. -/
theorem trimEnd_of_blank {t : Text} (h : ∀ c ∈ t, isBlank c = true) : trimEnd t = [] := by
  rw [trimEnd, List.reverse_eq_nil_iff, List.dropWhile_eq_nil_iff]
  exact fun c hc => h c (List.mem_reverse.mp hc)

/-- What comes before a character that is not white space is not trimmed at the end. -/
theorem trimEnd_append_cons (a b : Text) {x : Char} (hx : isBlank x = false) :
    trimEnd (a ++ x :: b) = a ++ x :: trimEnd b := by
  have hr : (a ++ x :: b).reverse = b.reverse ++ x :: a.reverse := by simp
  rw [trimEnd, hr, List.dropWhile_append, trimEnd]
  split
  · rename_i h
    rw [List.isEmpty_iff] at h
    simp [h, List.dropWhile_cons_of_neg, hx]
  · simp

/-- A text is white space, or white space up to its first other character and the rest. -/
theorem blank_or_exists_cut (t : Text) : (∀ c ∈ t, isBlank c = true) ∨
    ∃ blanks x rest, t = blanks ++ x :: rest ∧ (∀ c ∈ blanks, isBlank c = true) ∧ isBlank x = false := by
  cases hd : t.dropWhile isBlank with
  | nil => exact Or.inl (List.dropWhile_eq_nil_iff.mp hd)
  | cons x rest =>
    refine Or.inr ⟨t.takeWhile isBlank, x, rest, ?_, fun c hc => mem_takeWhile hc, ?_⟩
    · rw [← hd, List.takeWhile_append_dropWhile]
    · have := List.head?_dropWhile_not isBlank t
      simpa [hd] using this

/-- A text is trimmed to nothing exactly if it is white space. -/
theorem trim_eq_nil_iff (t : Text) : trim t = [] ↔ ∀ c ∈ t, isBlank c = true := by
  rcases blank_or_exists_cut t with hb | ⟨blanks, x, rest, rfl, hb, hx⟩
  · rw [trim, List.dropWhile_eq_nil_iff.mpr hb]
    exact iff_of_true rfl hb
  · rw [trim, dropWhile_append_of_head hb (by simpa using hx)]
    have hkept : trimEnd (x :: rest) = x :: trimEnd rest := trimEnd_append_cons [] rest hx
    refine iff_of_false (by rw [hkept]; exact List.cons_ne_nil x _) fun h => ?_
    rw [h x (by simp)] at hx
    cases hx

end Text

namespace Comment

open Text (isBlank trimEnd)

/-! ## Line breaks -/

/-- The line breaks are the carriage return and the line feed. -/
theorem isLineBreak_iff {c : Char} : isLineBreak c = true ↔ c = '\r' ∨ c = '\n' := by
  rw [isLineBreak, Bool.or_eq_true, decide_eq_true_eq, decide_eq_true_eq]

/-- Line breaks are white space. -/
theorem isLineBreak_of_not_blank {c : Char} (h : isBlank c = false) : isLineBreak c = false := by
  rw [Bool.eq_false_iff, ne_eq, isLineBreak_iff]
  rintro (rfl | rfl) <;> nomatch h

/-! ## Flattening along a text -/

/-- White space that ends a text is flattened as one run with the white space before it. -/
theorem flattenFrom_of_blank (run : Text) {t : Text} (h : ∀ c ∈ t, isBlank c = true) :
    flattenFrom run t = flattenRun (run.reverse ++ t) := by
  induction t generalizing run with
  | nil => rw [flattenFrom, List.append_nil]
  | cons c t ih =>
    rw [flattenFrom, if_pos (h c List.mem_cons_self), ih (c :: run) fun d hd => h d (List.mem_cons_of_mem _ hd)]
    simp

/-- White space is flattened as one run with the white space before it, up to the next other character. -/
theorem flattenFrom_append_cons (run : Text) {blanks : Text} (h : ∀ c ∈ blanks, isBlank c = true) {x : Char}
    (hx : isBlank x = false) (rest : Text) :
    flattenFrom run (blanks ++ x :: rest) = flattenRun (run.reverse ++ blanks) ++ x :: flattenFrom [] rest := by
  induction blanks generalizing run with
  | nil => rw [List.nil_append, flattenFrom, hx, List.append_nil]; rfl
  | cons c blanks ih =>
    rw [List.cons_append, flattenFrom, if_pos (h c List.mem_cons_self),
      ih (c :: run) fun d hd => h d (List.mem_cons_of_mem _ hd)]
    simp

/-- A flattened run of white space is white space. -/
theorem isBlank_of_mem_flattenRun {run : Text} (h : ∀ c ∈ run, isBlank c = true) :
    ∀ c ∈ flattenRun run, isBlank c = true := by
  intro c hc
  rw [flattenRun] at hc
  split at hc
  · rw [List.mem_singleton.mp hc]
    decide
  · exact h c hc

/-- What a comment keeps of a text that comes after a character that is not white space. -/
def flattenAfter (t : Text) : Text := trimEnd (flattenFrom [] t)

/-- Behind a character, white space that ends the text is dropped. -/
theorem flattenAfter_of_blank {t : Text} (h : ∀ c ∈ t, isBlank c = true) : flattenAfter t = [] := by
  rw [flattenAfter, flattenFrom_of_blank [] h]
  exact Text.trimEnd_of_blank (isBlank_of_mem_flattenRun h)

/-- Behind a character, white space is flattened as a run of its own. -/
theorem flattenAfter_append_cons {blanks : Text} (h : ∀ c ∈ blanks, isBlank c = true) {x : Char} (hx : isBlank x = false)
    (rest : Text) : flattenAfter (blanks ++ x :: rest) = flattenRun blanks ++ x :: flattenAfter rest := by
  rw [flattenAfter, flattenFrom_append_cons [] h hx, Text.trimEnd_append_cons _ _ hx]
  rfl

/-- White space is flattened to nothing. -/
theorem flatten_of_blank {t : Text} (h : ∀ c ∈ t, isBlank c = true) : flatten t = [] := by
  rw [flatten, Text.trim_eq_nil_iff, flattenFrom_of_blank [] h]
  exact isBlank_of_mem_flattenRun h

/-- White space that opens a text is dropped. -/
theorem flatten_append_cons {blanks : Text} (h : ∀ c ∈ blanks, isBlank c = true) {x : Char} (hx : isBlank x = false)
    (rest : Text) : flatten (blanks ++ x :: rest) = x :: flattenAfter rest := by
  rw [flatten, Text.trim, flattenFrom_append_cons [] h hx, List.reverse_nil, List.nil_append,
    Text.dropWhile_append_of_head (isBlank_of_mem_flattenRun h) (by simpa using hx)]
  exact Text.trimEnd_append_cons [] _ hx

/-! ## The white space that is kept -/

/-- A character stands in white space without a line break, between two characters that are not white space. -/
def Between (c : Char) (t : Text) : Prop :=
  ∃ before x run y after, t = before ++ x :: (run ++ y :: after) ∧ isBlank x = false ∧ isBlank y = false ∧
    (∀ d ∈ run, isBlank d = true ∧ isLineBreak d = false) ∧ c ∈ run

/-- White space between two characters is so in a longer text, too. -/
theorem Between.append {c : Char} {t : Text} (h : Between c t) (before : Text) : Between c (before ++ t) := by
  obtain ⟨first, x, run, y, after, rfl, hx, hy, hr, hc⟩ := h
  exact ⟨before ++ first, x, run, y, after, by rw [List.append_assoc], hx, hy, hr, hc⟩

/-- White space cannot be between the two if all that comes after the first is white space. -/
theorem not_between_of_blank {c : Char} {t : Text} (h : ∀ d ∈ t, isBlank d = true) : ¬Between c t := by
  rintro ⟨before, x, run, y, after, rfl, hx, -, -, -⟩
  rw [h x (by simp)] at hx
  nomatch hx

/-- White space that opens a text is between no two characters. -/
theorem between_append_cons_iff {c x : Char} {blanks rest : Text} (hb : ∀ d ∈ blanks, isBlank d = true)
    (hx : isBlank x = false) : Between c (blanks ++ x :: rest) ↔ Between c (x :: rest) := by
  refine ⟨?_, fun h => h.append blanks⟩
  rintro ⟨before, x', run, y, after, he, hx', hy, hr, hc⟩
  rcases Text.blank_or_exists_cut before with hbefore | ⟨first, z, more, rfl, hf, hz⟩
  · obtain ⟨-, rfl, rfl⟩ := Text.cut_unique hb hx hbefore hx' he
    exact ⟨[], x, run, y, after, rfl, hx, hy, hr, hc⟩
  · rw [List.append_assoc, List.cons_append] at he
    obtain ⟨-, rfl, rfl⟩ := Text.cut_unique hb hx hf hz he
    exact ⟨x :: more, x', run, y, after, rfl, hx', hy, hr, hc⟩

/-- White space that ends a text is between no two characters. -/
theorem not_between_cons_of_blank {c x : Char} {t : Text} (h : ∀ d ∈ t, isBlank d = true) : ¬Between c (x :: t) := by
  rintro ⟨before, x', run, y, after, he, -, hy, -, -⟩
  have hm : y ∈ t := by
    cases before with
    | nil =>
      rw [(List.cons.inj he).2]
      simp
    | cons b before =>
      rw [(List.cons.inj he).2]
      simp
  rw [h y hm] at hy
  nomatch hy

/-- The first white space after a character is between two if it has no line break; other white space is further on. A text
that opens with a run of white space is cut behind it in one way only. -/
theorem between_cons_iff {c x y : Char} {blanks rest : Text} (hx : isBlank x = false)
    (hb : ∀ d ∈ blanks, isBlank d = true) (hy : isBlank y = false) :
    Between c (x :: (blanks ++ y :: rest)) ↔
      (∀ d ∈ blanks, isLineBreak d = false) ∧ c ∈ blanks ∨ Between c (y :: rest) := by
  constructor
  · rintro ⟨before, x', run, y', after, he, hx', hy', hr, hc⟩
    cases before with
    | nil =>
      obtain ⟨-, he⟩ := List.cons.inj he
      obtain ⟨rfl, -, -⟩ := Text.cut_unique hb hy (fun d hd => (hr d hd).1) hy' he
      exact Or.inl ⟨fun d hd => (hr d hd).2, hc⟩
    | cons b before =>
      obtain ⟨-, he⟩ := List.cons.inj he
      exact Or.inr ((between_append_cons_iff hb hy).mp ⟨before, x', run, y', after, he, hx', hy', hr, hc⟩)
  · rintro (⟨hl, hc⟩ | h)
    · exact ⟨[], x, blanks, y, rest, rfl, hx, hy, fun d hd => ⟨hb d hd, hl d hd⟩, hc⟩
    · exact h.append (x :: blanks)

/-- No line break is between two characters. -/
theorem not_between_of_isLineBreak {c : Char} (h : isLineBreak c = true) (t : Text) : ¬Between c t := by
  rintro ⟨_, _, run, _, _, -, -, -, hr, hm⟩
  rw [(hr c hm).2] at h
  nomatch h

/-- White space and what is none are different characters. -/
theorem ne_of_blank {c x : Char} (hc : isBlank c = true) (hx : isBlank x = false) : c ≠ x := by
  rintro rfl
  rw [hc] at hx
  nomatch hx

/-- Of a run nothing but spaces is left if it has a line break; otherwise it is kept. -/
theorem mem_flattenRun_iff {c : Char} (hs : c ≠ ' ') (run : Text) :
    c ∈ flattenRun run ↔ (∀ d ∈ run, isLineBreak d = false) ∧ c ∈ run := by
  rw [flattenRun]
  by_cases h : run.any isLineBreak = true
  · rw [if_pos h, List.mem_singleton]
    refine iff_of_false hs ?_
    rintro ⟨hl, -⟩
    obtain ⟨d, hd, hld⟩ := List.any_eq_true.mp h
    rw [hl d hd] at hld
    nomatch hld
  · rw [if_neg h]
    rw [Bool.not_eq_true, List.any_eq_false] at h
    simp only [Bool.not_eq_true] at h
    exact (and_iff_right h).symm

/-- Behind a character, the white space that is kept, beside spaces, is that between two characters. -/
theorem mem_flattenAfter_iff {c : Char} (hc : isBlank c = true) (hs : c ≠ ' ') (t : Text) {x : Char}
    (hx : isBlank x = false) : c ∈ flattenAfter t ↔ Between c (x :: t) := by
  rcases Text.blank_or_exists_cut t with hb | ⟨blanks, y, rest, rfl, hb, hy⟩
  · rw [flattenAfter_of_blank hb]
    exact iff_of_false List.not_mem_nil (not_between_cons_of_blank hb)
  · rw [flattenAfter_append_cons hb hy, List.mem_append, List.mem_cons, or_iff_right (ne_of_blank hc hy),
      mem_flattenRun_iff hs,
      between_cons_iff hx hb hy, mem_flattenAfter_iff hc hs rest hy]
termination_by t.length

/-- Of white space other than a plain space, a comment keeps what is between two other characters, with no line break
beside it. -/
theorem mem_flatten_iff {c : Char} (hc : isBlank c = true) (hs : c ≠ ' ') (t : Text) : c ∈ flatten t ↔ Between c t := by
  rcases Text.blank_or_exists_cut t with hb | ⟨blanks, x, rest, rfl, hb, hx⟩
  · rw [flatten_of_blank hb]
    exact iff_of_false List.not_mem_nil (not_between_of_blank hb)
  · rw [flatten_append_cons hb hx, List.mem_cons, or_iff_right (ne_of_blank hc hx), mem_flattenAfter_iff hc hs rest hx,
      between_append_cons_iff hb hx]

/-- No line break is left in a flattened text. -/
theorem not_mem_flatten_of_isLineBreak {c : Char} (h : isLineBreak c = true) (t : Text) : c ∉ flatten t := by
  have hblank : isBlank c = true ∧ c ≠ ' ' := by
    rcases isLineBreak_iff.mp h with rfl | rfl <;> decide
  rw [mem_flatten_iff hblank.1 hblank.2]
  exact not_between_of_isLineBreak h t

/-! ## Escaping -/

/-- The entities of XML, each with the character that it stands for. -/
def entities : List (Text × Char) :=
  [("&lt;".toList, '<'), ("&gt;".toList, '>'), ("&amp;".toList, '&'), ("&apos;".toList, '\''), ("&quot;".toList, '"')]

theorem ampersand_mem : ("&amp;".toList, '&') ∈ entities := by decide

/-- A character is escaped as its entity if it has one, and kept as it is if not. -/
theorem escapeChar_cases (c : Char) :
    (escapeChar c, c) ∈ entities ∨ escapeChar c = [c] ∧ ∀ written d, (written, d) ∈ entities → c ≠ d := by
  by_cases h : ∃ e ∈ entities, c = e.2
  · obtain ⟨e, he, rfl⟩ := h
    have hall : ∀ e ∈ entities, (escapeChar e.2, e.2) ∈ entities := by decide
    exact Or.inl (hall e he)
  · have hne : ∀ written d, (written, d) ∈ entities → c ≠ d := fun written d he hc => h ⟨(written, d), he, hc⟩
    refine Or.inr ⟨?_, hne⟩
    rw [escapeChar, if_neg (hne "&lt;".toList '<' (by decide)), if_neg (hne "&gt;".toList '>' (by decide)),
      if_neg (hne _ '&' ampersand_mem), if_neg (hne "&apos;".toList '\'' (by decide)),
      if_neg (hne "&quot;".toList '"' (by decide))]

/-- A text without white space has no character of white space. -/
theorem count_eq_zero_of_blank {c : Char} (hc : isBlank c = true) {t : Text} (h : ∀ d ∈ t, isBlank d = false) :
    t.count c = 0 :=
  List.count_eq_zero.mpr fun hm => ne_of_blank hc (h c hm) rfl

/-- There is no white space in an entity, and none that has an entity, so white space is kept. -/
theorem count_escapeChar {c : Char} (hc : isBlank c = true) (d : Char) : (escapeChar d).count c = [d].count c := by
  rcases escapeChar_cases d with he | ⟨hkept, -⟩
  · have hall : ∀ e ∈ entities, isBlank e.2 = false ∧ (e.1.all fun x => !isBlank x) = true := by decide
    obtain ⟨hd, hwritten⟩ := hall _ he
    rw [count_eq_zero_of_blank hc (by simpa using hwritten), count_eq_zero_of_blank hc (by simpa using hd)]
  · rw [hkept]

/-- Escaping keeps all white space. -/
theorem count_escape {c : Char} (hc : isBlank c = true) (t : Text) : (escape t).count c = t.count c := by
  induction t with
  | nil => rfl
  | cons d t ih =>
    rw [escape, List.flatMap_cons, List.count_append, count_escapeChar hc, ← escape, ih, ← List.count_append]
    rfl

/-- A comment holds no line break. -/
theorem not_mem_ofProperty_of_isLineBreak {c : Char} (h : isLineBreak c = true) (owner : Object) (property : Property) :
    c ∉ ofProperty owner property := by
  have hblank : isBlank c = true := by
    rcases isLineBreak_iff.mp h with rfl | rfl <;> decide
  rw [ofProperty, ← List.count_eq_zero, count_escape hblank, List.count_eq_zero]
  exact not_mem_flatten_of_isLineBreak h _

end Comment

end ModelStubs
