import ModelStubs.Proofs.Comment

/-!
# Flattening run by run

A text is cut in one way into runs of white space and runs of other characters that take turns (`exists_cut`,
`Cut.unique`). Flattening goes along these runs: one of white space with a line break in it becomes a space, every other run
is kept as it stands, and white space at both ends of the result is removed (`flatten_by_runs`).
-/

namespace ModelStubs

namespace Text

variable {t u run : Text} {blank : Bool} {runs others : List Text}

/-! ## Runs that take turns -/

/-- A run: at least one character, and either all of them are white space or none is. -/
structure IsRun (blank : Bool) (run : Text) : Prop where
  ne_nil : run ≠ []
  kind : ∀ c ∈ run, isBlank c = blank

/-- Runs of white space and runs of other characters take turns, the first of the kind `blank` if there is one. -/
inductive Alternate : Bool → List Text → Prop
  | nil {blank : Bool} : Alternate blank []
  | cons {blank : Bool} {run : Text} {runs : List Text} : IsRun blank run → Alternate (!blank) runs →
      Alternate blank (run :: runs)

/-- A text is cut into runs that take turns, so that none of them can be made longer. -/
structure Cut (t : Text) (runs : List Text) : Prop where
  joined : runs.flatten = t
  alternate : ∃ blank, Alternate blank runs

/-- Runs that take turns open, if with anything, with a character of the first one's kind. -/
theorem Alternate.head_flatten (h : Alternate blank runs) : ∀ c ∈ runs.flatten.head?, isBlank c = blank := by
  cases h with
  | nil => nofun
  | @cons _ run runs hrun _ =>
    intro c hc
    rw [List.flatten_cons, List.head?_append, List.head?_eq_some_head hrun.ne_nil, Option.some_or] at hc
    cases hc
    exact hrun.kind _ (List.head_mem hrun.ne_nil)

theorem IsRun.cons {c : Char} (h : IsRun blank run) (hc : isBlank c = blank) : IsRun blank (c :: run) where
  ne_nil := List.cons_ne_nil c run
  kind := List.forall_mem_cons.mpr ⟨hc, h.kind⟩

theorem isRun_singleton (c : Char) : IsRun (isBlank c) [c] where
  ne_nil := List.cons_ne_nil c []
  kind := fun _ hd => congrArg isBlank (List.mem_singleton.mp hd)

/-- Every text is cut into runs: one more character makes the first run longer, or is a run of its own. -/
theorem exists_cut (t : Text) : ∃ runs, Cut t runs := by
  induction t with
  | nil => exact ⟨[], rfl, true, .nil⟩
  | cons c t ih =>
    obtain ⟨runs, hjoined, blank, halt⟩ := ih
    cases halt with
    | nil => exact ⟨[[c]], by rw [← hjoined]; rfl, isBlank c, .cons (isRun_singleton c) .nil⟩
    | @cons _ run runs hrun hrest =>
      by_cases hc : isBlank c = blank
      · exact ⟨(c :: run) :: runs, by rw [← hjoined]; rfl, blank, .cons (hrun.cons hc) hrest⟩
      · have hother : blank = !isBlank c := by cases blank <;> simpa using hc
        subst hother
        exact ⟨[c] :: run :: runs, by rw [← hjoined]; rfl, isBlank c, .cons (isRun_singleton c) (.cons hrun hrest)⟩

/-- The first run is the longest piece of its kind that opens the text. -/
theorem takeWhile_append_run (hrun : IsRun blank run) (hrest : Alternate (!blank) runs) :
    (run ++ runs.flatten).takeWhile (isBlank · == blank) = run := by
  refine takeWhile_append_of_head (fun c hc => beq_iff_eq.mpr (hrun.kind c hc)) fun c hc => ?_
  rw [hrest.head_flatten c hc]
  cases blank <;> rfl

theorem IsRun.flatten_ne_nil (h : IsRun blank run) (runs : List Text) : (run :: runs).flatten ≠ [] :=
  fun he => h.ne_nil (List.append_eq_nil_iff.mp he).1

/-- Runs that take turns are known from the text that they make up: both first runs have the kind of its first character. -/
theorem Alternate.unique {blank' : Bool} (h : Alternate blank runs) (h' : Alternate blank' others)
    (he : runs.flatten = others.flatten) : runs = others := by
  induction h generalizing blank' others with
  | nil =>
    cases h' with
    | nil => rfl
    | cons hrun' _ => exact absurd he.symm (hrun'.flatten_ne_nil _)
  | @cons blank run runs hrun hrest ih =>
    cases h' with
    | nil => exact absurd he (hrun.flatten_ne_nil _)
    | @cons _ run' others hrun' hrest' =>
      have hkind : blank = blank' := by
        obtain ⟨c, hc⟩ := Option.ne_none_iff_exists'.mp (mt List.head?_eq_none_iff.mp (hrun.flatten_ne_nil runs))
        rw [← (Alternate.cons hrun hrest).head_flatten c hc, (Alternate.cons hrun' hrest').head_flatten c (he ▸ hc)]
      subst hkind
      have hfirst : run = run' := by
        rw [← takeWhile_append_run hrun hrest, ← List.flatten_cons, he]
        exact takeWhile_append_run hrun' hrest'
      subst hfirst
      rw [ih hrest' (List.append_cancel_left he)]

/-- A text is cut into runs in one way. -/
theorem Cut.unique (h : Cut t runs) (h' : Cut t others) : runs = others := by
  obtain ⟨blank, halt⟩ := h.alternate
  obtain ⟨blank', halt'⟩ := h'.alternate
  exact halt.unique halt' (h.joined.trans h'.joined.symm)

/-! ## Both ends -/

/-- White space has no other characters. -/
theorem filter_of_blank (h : ∀ c ∈ t, isBlank c = true) : t.filter (!isBlank ·) = [] := by
  rw [List.filter_eq_nil_iff]
  intro c hc
  simp [h c hc]

/-- `u` is what is left of a text without the white space at both ends. -/
structure Trimmed (t u : Text) : Prop where
  cut : ∃ opening closing, t = opening ++ u ++ closing ∧ (∀ c ∈ opening, isBlank c = true) ∧
    ∀ c ∈ closing, isBlank c = true
  opens : ∀ c ∈ u.head?, isBlank c = false
  ends : ∀ c ∈ u.getLast?, isBlank c = false

/-- White space is all that is taken off the end of a text. -/
theorem exists_trimEnd_append (t : Text) : ∃ closing, t = trimEnd t ++ closing ∧ ∀ c ∈ closing, isBlank c = true := by
  refine ⟨(t.reverse.takeWhile isBlank).reverse, ?_, fun c hc => mem_takeWhile (List.mem_reverse.mp hc)⟩
  rw [trimEnd, ← List.reverse_append, List.takeWhile_append_dropWhile, List.reverse_reverse]

/-- Trimming a text leaves what is there without the white space at both ends. -/
theorem trimmed_trim (t : Text) : Trimmed t (trim t) := by
  obtain ⟨closing, hcut, hclosing⟩ := exists_trimEnd_append (t.dropWhile isBlank)
  refine ⟨⟨t.takeWhile isBlank, closing, ?_, fun c => mem_takeWhile, hclosing⟩, fun c hc => ?_, fun c hc => ?_⟩
  · rw [List.append_assoc, trim, ← hcut, List.takeWhile_append_dropWhile]
  · have hhead : c ∈ (t.dropWhile isBlank).head? := by
      rw [Option.mem_def, hcut, List.head?_append, ← trim, Option.mem_def.mp hc, Option.some_or]
    have hnot := List.head?_dropWhile_not isBlank t
    rw [Option.mem_def.mp hhead] at hnot
    simpa using hnot
  · rw [trim, trimEnd, List.getLast?_reverse] at hc
    have hnot := List.head?_dropWhile_not isBlank (t.dropWhile isBlank).reverse
    rw [Option.mem_def.mp hc] at hnot
    simpa using hnot

/-- Of other characters than white space, none is removed. -/
theorem Trimmed.filter_eq (h : Trimmed t u) : u.filter (!isBlank ·) = t.filter (!isBlank ·) := by
  obtain ⟨opening, closing, rfl, hopening, hclosing⟩ := h.cut
  rw [List.filter_append, List.filter_append, filter_of_blank hopening, filter_of_blank hclosing, List.nil_append,
    List.append_nil]

/-- A text that neither opens nor ends with white space is left as it is. -/
theorem trim_eq_self (hopens : ∀ c ∈ t.head?, isBlank c = false) (hends : ∀ c ∈ t.getLast?, isBlank c = false) :
    trim t = t := by
  have hfirst : t.dropWhile isBlank = t := dropWhile_append_of_head (a := []) nofun hopens
  have hhead : ∀ c ∈ t.reverse.head?, isBlank c = false := by rwa [List.head?_reverse]
  have hlast : t.reverse.dropWhile isBlank = t.reverse := dropWhile_append_of_head (a := []) nofun hhead
  rw [trim, hfirst, trimEnd, hlast, List.reverse_reverse]

end Text

namespace Comment

open Text (isBlank Alternate Cut IsRun Trimmed)

variable {t run : Text} {runs : List Text} {blank : Bool}

/-! ## Flattening along the runs -/

/-- Characters other than white space are kept as they stand. -/
theorem flattenFrom_append_of_not_blank {word : Text} (h : ∀ c ∈ word, isBlank c = false) (rest : Text) :
    flattenFrom [] (word ++ rest) = word ++ flattenFrom [] rest := by
  induction word with
  | nil => rfl
  | cons c word ih =>
    rw [List.cons_append, flattenFrom, h c List.mem_cons_self, ih fun d hd => h d (List.mem_cons_of_mem _ hd)]
    rfl

/-- White space is flattened up to the next other character. -/
theorem flattenFrom_append_of_blank {blanks rest : Text} (h : ∀ c ∈ blanks, isBlank c = true)
    (hrest : ∀ c ∈ rest.head?, isBlank c = false) :
    flattenFrom [] (blanks ++ rest) = flattenRun blanks ++ flattenFrom [] rest := by
  cases rest with
  | nil => rw [List.append_nil, flattenFrom_of_blank [] h]; exact (List.append_nil _).symm
  | cons x rest =>
    have hx := hrest x rfl
    rw [flattenFrom_append_cons [] h hx, flattenFrom, hx]
    rfl

/-- A run without white space has no line break in it, so it is kept. -/
theorem flattenRun_of_not_blank (h : ∀ c ∈ run, isBlank c = false) : flattenRun run = run := by
  have hl : run.any isLineBreak = false := by
    rw [List.any_eq_false]
    exact fun c hc => Bool.eq_false_iff.mp (isLineBreak_of_not_blank (h c hc))
  rw [flattenRun, hl]
  rfl

/-- Flattening goes along the runs of a text, one after the other. -/
theorem flattenFrom_flatten (h : Alternate blank runs) : flattenFrom [] runs.flatten = runs.flatMap flattenRun := by
  induction h with
  | nil => rfl
  | @cons blank run runs hrun hrest ih =>
    rw [List.flatten_cons, List.flatMap_cons, ← ih]
    cases blank with
    | true => exact flattenFrom_append_of_blank hrun.kind hrest.head_flatten
    | false => rw [flattenFrom_append_of_not_blank hrun.kind, flattenRun_of_not_blank hrun.kind]

/-- A text is flattened run by run and then trimmed. -/
theorem flatten_of_cut (h : Cut t runs) : flatten t = Text.trim (runs.flatMap flattenRun) := by
  obtain ⟨blank, halt⟩ := h.alternate
  rw [flatten, ← h.joined, flattenFrom_flatten halt]

/-- A run becomes one space if it has a carriage return or a line feed in it, and else stays as it is. -/
theorem flattenRun_eq (run : Text) : flattenRun run = if '\r' ∈ run ∨ '\n' ∈ run then [' '] else run := by
  have hl : run.any isLineBreak = true ↔ '\r' ∈ run ∨ '\n' ∈ run := by
    simp only [List.any_eq_true, isLineBreak_iff, and_or_left, exists_or, exists_eq_right]
  simp only [flattenRun, hl]

/-- Flattening keeps a run's characters other than white space: there are none in white space, before and after. -/
theorem filter_flattenRun (h : IsRun blank run) : (flattenRun run).filter (!isBlank ·) = run.filter (!isBlank ·) := by
  cases blank with
  | false => rw [flattenRun_of_not_blank h.kind]
  | true => rw [Text.filter_of_blank h.kind, Text.filter_of_blank (isBlank_of_mem_flattenRun h.kind)]

/-- Flattening along the runs keeps what is not white space. -/
theorem filter_flatMap_flattenRun (h : Alternate blank runs) :
    (runs.flatMap flattenRun).filter (!isBlank ·) = runs.flatten.filter (!isBlank ·) := by
  induction h with
  | nil => rfl
  | cons hrun _ ih =>
    rw [List.flatMap_cons, List.flatten_cons, List.filter_append, List.filter_append, filter_flattenRun hrun, ih]

/-- A text on one line with no white space at its ends is kept. -/
theorem flatten_eq_self (hr : '\r' ∉ t) (hn : '\n' ∉ t) (hopens : ∀ c ∈ t.head?, isBlank c = false)
    (hends : ∀ c ∈ t.getLast?, isBlank c = false) : flatten t = t := by
  obtain ⟨runs, hcut⟩ := Text.exists_cut t
  have hkept : ∀ run ∈ runs, flattenRun run = run := by
    intro run hrun
    have hsub : ∀ c ∈ run, c ∈ t := fun c hc => hcut.joined ▸ List.mem_flatten.mpr ⟨run, hrun, hc⟩
    rw [flattenRun_eq, if_neg (not_or.mpr ⟨fun h => hr (hsub _ h), fun h => hn (hsub _ h)⟩)]
  rw [flatten_of_cut hcut, List.flatMap_def, List.map_congr_left hkept, List.map_id', hcut.joined]
  exact Text.trim_eq_self hopens hends

/-- White space and other characters take turns in a text in runs, and there is one way only to cut it into these. Flattening
puts a space for each run with a line break in it, keeps all others as they stand, and removes the white space at both ends
of that. So the result has no line break in it and no white space at its ends, its other characters are those of the text in
the same order, and flattening it again changes nothing. -/
theorem flatten_by_runs (t : Text) :
    (∃ runs, (∀ others, Cut t others ↔ others = runs) ∧
      Trimmed (runs.flatMap fun run => if '\r' ∈ run ∨ '\n' ∈ run then [' '] else run) (flatten t)) ∧
      ('\r' ∉ flatten t ∧ '\n' ∉ flatten t) ∧
      ((∀ c ∈ (flatten t).head?, isBlank c = false) ∧ ∀ c ∈ (flatten t).getLast?, isBlank c = false) ∧
      (flatten t).filter (!isBlank ·) = t.filter (!isBlank ·) ∧
      flatten (flatten t) = flatten t := by
  obtain ⟨runs, hcut⟩ := Text.exists_cut t
  obtain ⟨blank, halt⟩ := hcut.alternate
  have htrim : Trimmed (runs.flatMap flattenRun) (flatten t) := flatten_of_cut hcut ▸ Text.trimmed_trim _
  have hone : ∀ others, Cut t others ↔ others = runs :=
    fun others => ⟨fun hothers => hothers.unique hcut, fun he => he ▸ hcut⟩
  have hr : '\r' ∉ flatten t := not_mem_flatten_of_isLineBreak rfl t
  have hn : '\n' ∉ flatten t := not_mem_flatten_of_isLineBreak rfl t
  refine ⟨⟨runs, hone, ?_⟩, ⟨hr, hn⟩, ⟨htrim.opens, htrim.ends⟩, ?_, flatten_eq_self hr hn htrim.opens htrim.ends⟩
  · simpa only [← flattenRun_eq] using htrim
  · rw [htrim.filter_eq, filter_flatMap_flattenRun halt, hcut.joined]

example : flatten "\t The\u2003 \r\n customer  name\u2028 \n".toList = "The customer  name".toList := by decide +kernel

end Comment

end ModelStubs
