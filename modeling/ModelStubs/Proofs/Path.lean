import ModelStubs.FileSystem.Locate
import ModelStubs.Output
import ModelStubs.Proofs.Text

/-!
# File names of paths

A path that ends in the name of an entry has that name for its file name (`fileName?_append`), and so has a path that is
followed part by part to such a name (`fileName?_of_getLast?_parts`). The extension of a path and the kind of output it
takes depend on the file name alone.
-/

namespace ModelStubs

open Text (splitAt)

/-! ## Cutting and joining texts -/

namespace Text

theorem splitAt_ne_nil (c : Char) (t : Text) : splitAt c t ≠ [] := by
  induction t with
  | nil => simp [splitAt]
  | cons d t ih =>
    rw [splitAt]
    split
    · simp
    · split <;> simp

/-- A text without the character is not split. -/
theorem splitAt_of_not_mem {c : Char} {t : Text} (h : c ∉ t) : splitAt c t = [t] := by
  induction t with
  | nil => rfl
  | cons d t ih =>
    rw [List.mem_cons, not_or] at h
    rw [splitAt, ih h.2]
    simp [Ne.symm h.1]

/-- A text is split at a character into the parts before it and the parts behind it. -/
theorem splitAt_append_cons (c : Char) (a b : Text) : splitAt c (a ++ c :: b) = splitAt c a ++ splitAt c b := by
  induction a with
  | nil =>
    obtain ⟨piece, pieces, hb⟩ := List.exists_cons_of_ne_nil (splitAt_ne_nil c b)
    simp [splitAt, hb]
  | cons d a ih =>
    obtain ⟨piece, pieces, ha⟩ := List.exists_cons_of_ne_nil (splitAt_ne_nil c a)
    rw [List.cons_append, splitAt, ih, splitAt, ha]
    by_cases hd : d = c <;> simp [hd]

theorem byteLength_append (a b : Text) : byteLength (a ++ b) = byteLength a + byteLength b := by
  induction a with
  | nil => exact (Nat.zero_add _).symm
  | cons c a ih => rw [List.cons_append, byteLength, ih, byteLength, Nat.add_assoc]

end Text

/-! ## Names of entries -/

/-- What a name of an entry is not. -/
structure EntryName (name : Text) : Prop where
  ne_nil : name ≠ []
  ne_dot : name ≠ ['.']
  ne_dots : name ≠ ['.', '.']
  no_slash : '/' ∉ name

/-- A text that passes the test for names of entries is one. -/
theorem entryName_of_isEntryName {name : Text} (h : isEntryName name = true) : EntryName name := by
  simp only [isEntryName, Bool.and_eq_true, decide_eq_true_eq, ne_eq, Bool.not_eq_true', List.contains_eq_mem,
    decide_eq_false_iff_not] at h
  obtain ⟨⟨⟨⟨⟨h1, h2⟩, h3⟩, h4⟩, -⟩, -⟩ := h
  exact ⟨h1, h2, h3, h4⟩

namespace Path

/-- What can stand before the last part of a path: nothing, or something with a slash at its end. -/
def BeforePart (before : Text) : Prop := before = [] ∨ ∃ first, before = first ++ ['/']

/-- A path that ends in the name of an entry is taken as it is from its end. -/
theorem trimBackwards_append (before : Text) {name : Text} (hn : EntryName name) :
    trimBackwards (name.reverse ++ before.reverse) = name.reverse ++ before.reverse := by
  rcases hr : name.reverse with - | ⟨c, rest⟩
  · exact absurd (List.reverse_eq_nil_iff.mp hr) hn.ne_nil
  · have hc : c ≠ '/' := by
      rintro rfl
      exact hn.no_slash (List.mem_reverse.mp (by rw [hr]; exact List.mem_cons_self))
    cases rest with
    | nil =>
      have hd : c ≠ '.' := by
        rintro rfl
        exact hn.ne_dot (by rw [← List.reverse_reverse name, hr]; rfl)
      rw [List.singleton_append, trimBackwards] <;> simp [hc, hd]
    | cons d rest =>
      have hd : d ≠ '/' := by
        rintro rfl
        exact hn.no_slash (List.mem_reverse.mp (by rw [hr]; simp))
      rw [List.cons_append, List.cons_append, trimBackwards] <;> simp [hc, hd]

/-- A path that ends in the name of an entry has it for its file name. -/
theorem fileName?_append {before name : Text} (hb : BeforePart before) (hn : EntryName name) :
    fileName? (before ++ name) = some name := by
  have hname : ∀ c ∈ name.reverse, (c != '/') = true := Text.bne_of_not_mem hn.no_slash
  have hhead : ∀ c ∈ before.reverse.head?, (c != '/') = false := by
    rcases hb with rfl | ⟨first, rfl⟩ <;> simp
  have hne : name.reverse ++ before.reverse ≠ [] := by simp [hn.ne_nil]
  have hroot : name.reverse ++ before.reverse ≠ ['/'] := by
    intro h
    have hm : '/' ∈ name.reverse ++ before.reverse := by rw [h]; exact List.mem_cons_self
    rcases hr : name.reverse with - | ⟨c, rest⟩
    · exact hn.ne_nil (List.reverse_eq_nil_iff.mp hr)
    · rw [hr, List.cons_append, List.cons.injEq] at h
      exact hn.no_slash (List.mem_reverse.mp (by rw [hr, h.1]; exact List.mem_cons_self))
  have hlast : splitLast? (before ++ name) = some (name.reverse, before.reverse) := by
    rw [splitLast?, List.reverse_append, trimBackwards_append before hn]
    simp only [hne, hroot, or_self, if_false]
    rw [Text.takeWhile_append_of_head hname hhead, Text.dropWhile_append_of_head hname hhead]
  have hdot : name.reverse ≠ ['.'] := fun h => hn.ne_dot (by rw [← List.reverse_reverse name, h]; rfl)
  have hdots : name.reverse ≠ ['.', '.'] := fun h => hn.ne_dots (by rw [← List.reverse_reverse name, h]; rfl)
  rw [fileName?, hlast, Option.bind_some]
  simp [hdot, hdots]

/-- A path continued by the name of an entry has it for its file name. -/
theorem fileName?_join (dir : Path) {name : Text} (hn : EntryName name) : fileName? (join dir name) = some name := by
  rw [join]
  split
  · rename_i h
    refine fileName?_append ?_ hn
    rcases h with h | h
    · obtain ⟨first, hf⟩ := List.getLast?_eq_some_iff.mp h
      exact Or.inr ⟨first, hf⟩
    · exact Or.inl h
  · rw [show dir ++ '/' :: name = (dir ++ ['/']) ++ name by simp]
    exact fileName?_append (Or.inr ⟨dir, rfl⟩) hn

/-- A path that is followed to the name of an entry has it for its file name. -/
theorem fileName?_of_getLast?_parts {p : Path} {name : Text} (hn : EntryName name)
    (h : (partsToDirectory p).getLast? = some name) : fileName? p = some name := by
  rw [partsToDirectory] at h
  split at h
  · rw [List.getLast?_concat, Option.some.injEq] at h
    exact absurd h.symm hn.ne_dot
  · rename_i hslash
    rw [parts] at h
    by_cases hs : '/' ∈ p
    · obtain ⟨before, last, rfl, hl⟩ := Text.exists_last_cut hs
      have hne : last ≠ [] := by
        rintro rfl
        exact hslash (by simp)
      rw [Text.splitAt_append_cons, Text.splitAt_of_not_mem hl, List.filter_append] at h
      simp [hne] at h
      subst h
      rw [show before ++ '/' :: last = (before ++ ['/']) ++ last by simp]
      exact fileName?_append (Or.inr ⟨before, rfl⟩) hn
    · rw [Text.splitAt_of_not_mem hs] at h
      have hne : p ≠ [] := by
        rintro rfl
        simp at h
      simp [hne] at h
      subst h
      exact fileName?_append (Or.inl rfl) hn

/-! ## Paths continued by a name -/

theorem join_ne_nil (dir : Path) {name : Text} (hn : EntryName name) : join dir name ≠ [] := by
  rw [join]
  split <;> simp [hn.ne_nil]

/-- A path that is continued by a name is absolute if and only if it was. -/
theorem isAbsolute_join {dir : Path} (hd : dir ≠ []) (name : Text) : isAbsolute (join dir name) = isAbsolute dir := by
  obtain ⟨c, rest, rfl⟩ := List.exists_cons_of_ne_nil hd
  rw [join]
  split <;> rfl

/-- A slash at the end makes no part. -/
theorem parts_append_slash (p : Path) : parts (p ++ ['/']) = parts p := by
  rw [parts, Text.splitAt_append_cons, List.filter_append]
  exact List.append_nil _

/-- Slashes at the end of a path make no parts. -/
theorem parts_append_slashes (p : Path) (n : Nat) : parts (p ++ List.replicate n '/') = parts p := by
  induction n with
  | zero => rw [List.replicate_zero, List.append_nil]
  | succ n ih => rw [List.replicate_succ', ← List.append_assoc, parts_append_slash, ih]

/-- A name that continues a path is one part more. -/
theorem parts_join (dir : Path) {name : Text} (hn : EntryName name) : parts (join dir name) = parts dir ++ [name] := by
  have hname : parts name = [name] := by
    rw [parts, Text.splitAt_of_not_mem hn.no_slash]
    simp [hn.ne_nil]
  have hcut : ∀ before : Path, parts (before ++ '/' :: name) = parts before ++ [name] := by
    intro before
    rw [← hname, parts, Text.splitAt_append_cons, List.filter_append]
    rfl
  rw [join]
  split
  · rename_i h
    rcases h with h | rfl
    · obtain ⟨first, rfl⟩ := List.getLast?_eq_some_iff.mp h
      rw [List.append_assoc, List.singleton_append, hcut, parts_append_slash]
    · exact hname
  · exact hcut dir

/-- The parts of a path that is continued by a name are all to be found as they are: it ends in no slash. -/
theorem partsToDirectory_join (dir : Path) {name : Text} (hn : EntryName name) :
    partsToDirectory (join dir name) = parts dir ++ [name] := by
  have hlast : (join dir name).getLast? ≠ some '/' := by
    intro h
    have hname : (join dir name).getLast? = name.getLast? := by
      rw [join]
      split <;> simp [List.getLast?_append, List.getLast?_cons, List.getLast?_eq_some_getLast hn.ne_nil]
    rw [hname] at h
    exact hn.no_slash (List.mem_of_getLast? h)
  rw [partsToDirectory, if_neg hlast, parts_join dir hn]

/-- A path is followed if one that continues it is. -/
theorem isFollowed_of_join {dir : Path} {name : Text} (h : isFollowed (join dir name) = true) :
    isFollowed dir = true := by
  obtain ⟨more, hmore⟩ : ∃ more, join dir name = dir ++ more := by
    rw [join]
    split
    · exact ⟨_, rfl⟩
    · exact ⟨_, rfl⟩
  simp only [isFollowed, hmore, Text.byteLength_append, Bool.and_eq_true, decide_eq_true_eq, Bool.not_eq_true', List.contains_eq_mem,
    decide_eq_false_iff_not, List.mem_append, not_or] at h ⊢
  exact ⟨by omega, h.2.1⟩

/-- A path that goes on by a name is followed unless it becomes too long. -/
theorem isFollowed_join_iff {dir : Path} {name : Text} (h : isFollowed dir = true) (hn : isEntryName name = true) :
    isFollowed (join dir name) = true ↔ Text.byteLength (join dir name) ≤ lengthLimit := by
  have hdir : '\x00' ∉ dir := by
    simp only [isFollowed, Bool.and_eq_true, Bool.not_eq_true', List.contains_eq_mem, decide_eq_false_iff_not] at h
    exact h.2
  have hname : '\x00' ∉ name := by
    simp only [isEntryName, Bool.and_eq_true, Bool.not_eq_true', List.contains_eq_mem, decide_eq_false_iff_not] at hn
    exact hn.1.2
  have hjoin : '\x00' ∉ join dir name := by
    rw [join]
    split
    · simp [hdir, hname]
    · simp [hdir, hname]
  simp [isFollowed, hjoin]

/-! ## What depends on the file name alone -/

theorem extension?_eq_of_fileName?_eq {p q : Path} (h : fileName? p = fileName? q) : extension? p = extension? q := by
  rw [extension?, h, extension?]

end Path

/-- Paths with the same file name are written in the same notation. -/
theorem Output.ofPath_eq_of_fileName?_eq {p q : Path} (h : Path.fileName? p = Path.fileName? q) :
    Output.ofPath p = Output.ofPath q := by
  rw [Output.ofPath, Path.extension?_eq_of_fileName?_eq h, Output.ofPath]

end ModelStubs
