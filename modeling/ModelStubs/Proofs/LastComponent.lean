import Mathlib
import ModelStubs.Proofs.Path

/-!
# The last component of a path

The slashes at the end of a path and its last parts that are a dot say nothing. What stands behind the last slash once they are
gone is the last component of the path (`LastComponent`); every path has exactly one, which is empty if nothing else is left.
The kind of output that a path takes is known from it alone (`ofPath_eq_declarations_iff`). So directories put before a path do
not change the kind, unless the path has no last component, or a dot for one: it then leads to the last of these directories,
and takes its kind.
-/

namespace ModelStubs

open Text (LastPart afterLast)

namespace Path

variable {p q name : Text}

/-! ## What a path ends in -/

/-- `q` is what is left of a path when slashes and parts that are a dot are taken off its end for as long as there are any. -/
structure Stripped (p q : Path) : Prop where
  pieces : ∃ pieces : List Text, (∀ piece ∈ pieces, piece = ['/'] ∨ piece = ['/', '.']) ∧ p = q ++ pieces.flatten
  slash : ¬['/'] <:+ q
  dot : ¬['/', '.'] <:+ q

/-- `name` is what stands behind the last slash of a path, when what says nothing is taken off its end. -/
def LastComponent (p name : Text) : Prop := ∃ q, Stripped p q ∧ LastPart '/' q name

/-- There is something left of every path when what says nothing is taken off its end. -/
theorem exists_stripped (p : Path) : ∃ q, Stripped p q := by
  generalize hn : p.length = n
  induction n using Nat.strongRecOn generalizing p with
  | ind n ih =>
    have hshorter : ∀ piece : Text, piece = ['/'] ∨ piece = ['/', '.'] → piece <:+ p → ∃ q, Stripped p q := by
      rintro piece hpiece ⟨before, rfl⟩
      have hlen : before.length < n := by
        rw [← hn, List.length_append]
        rcases hpiece with rfl | rfl <;> simp
      obtain ⟨q, ⟨pieces, hall, hbefore⟩, hslash, hdot⟩ := ih _ hlen before rfl
      refine ⟨q, ⟨pieces ++ [piece], ?_, ?_⟩, hslash, hdot⟩
      · intro x hx
        rcases List.mem_append.mp hx with hx | hx
        · exact hall x hx
        · rw [List.mem_singleton.mp hx]
          exact hpiece
      · rw [hbefore, List.flatten_append, List.flatten_singleton, List.append_assoc]
    by_cases hslash : ['/'] <:+ p
    · exact hshorter ['/'] (Or.inl rfl) hslash
    · by_cases hdot : ['/', '.'] <:+ p
      · exact hshorter ['/', '.'] (Or.inr rfl) hdot
      · exact ⟨p, ⟨[], nofun, by simp⟩, hslash, hdot⟩

/-- Looked at from its end, a path is the same without a slash there. -/
theorem splitLast?_append_slash (p : Path) : splitLast? (p ++ ['/']) = splitLast? p := by
  cases hr : p.reverse with
  | nil =>
    rw [List.reverse_eq_nil_iff.mp hr]
    rfl
  | cons c rest =>
    rw [splitLast?, List.reverse_append, List.reverse_singleton, List.singleton_append, hr, trimBackwards,
      if_neg (List.cons_ne_nil c rest), splitLast?, hr]

/-- Nor does a part that is a dot make a difference. -/
theorem splitLast?_append_dot (p : Path) : splitLast? (p ++ ['/', '.']) = splitLast? p := by
  cases hr : p.reverse with
  | nil =>
    rw [List.reverse_eq_nil_iff.mp hr]
    rfl
  | cons c rest =>
    have hrev : (p ++ ['/', '.']).reverse = '.' :: '/' :: c :: rest := by simp [hr]
    rw [splitLast?, hrev, trimBackwards, if_neg (List.cons_ne_nil c rest), splitLast?, hr]

/-- Slashes and dots at the end of a path do not change its last part. -/
theorem splitLast?_append_pieces (p : Path) {pieces : List Text}
    (h : ∀ piece ∈ pieces, piece = ['/'] ∨ piece = ['/', '.']) : splitLast? (p ++ pieces.flatten) = splitLast? p := by
  induction pieces generalizing p with
  | nil => simp
  | cons piece pieces ih =>
    rw [List.flatten_cons, ← List.append_assoc, ih _ fun x hx => h x (List.mem_cons_of_mem _ hx)]
    rcases h piece List.mem_cons_self with rfl | rfl
    · exact splitLast?_append_slash p
    · exact splitLast?_append_dot p

/-- A path has the last part of what is left of it. -/
theorem Stripped.splitLast?_eq (h : Stripped p q) : splitLast? p = splitLast? q := by
  obtain ⟨⟨pieces, hall, rfl⟩, -, -⟩ := h
  exact splitLast?_append_pieces q hall

/-- From what is left nothing more is taken off. -/
theorem Stripped.trimBackwards_eq (h : Stripped p q) : trimBackwards q.reverse = q.reverse := by
  have hslash := h.slash
  have hdot := h.dot
  rw [← List.reverse_prefix] at hslash hdot
  rw [trimBackwards]
  · intro rest hr
    rw [hr] at hslash
    exact hslash ⟨rest, rfl⟩
  · intro rest hr
    rw [hr] at hdot
    exact hdot ⟨rest, rfl⟩

/-! ## The last component -/

/-- Every path has a last component. -/
theorem exists_lastComponent (p : Path) : ∃ name, LastComponent p name := by
  obtain ⟨q, hq⟩ := exists_stripped p
  exact ⟨afterLast '/' q, q, hq, Text.lastPart_afterLast '/' q⟩

/-- The last component is what a path has at its end; it is empty where there is nothing. -/
theorem LastComponent.splitLast?_eq (h : LastComponent p name) :
    (splitLast? p).map (fun split => split.1.reverse) = if name = [] then none else some name := by
  obtain ⟨q, hq, hlast⟩ := h
  have hname : (q.reverse.takeWhile (· != '/')).reverse = name := (Text.lastPart_iff '/' q name).mp hlast
  have hslash := hq.slash
  rw [← List.reverse_prefix] at hslash
  rw [hq.splitLast?_eq, splitLast?, hq.trimBackwards_eq]
  cases hr : q.reverse with
  | nil =>
    rw [hr] at hname
    simp [← hname]
  | cons c rest =>
    rw [hr] at hname hslash
    have hc : c ≠ '/' := by
      rintro rfl
      exact hslash ⟨rest, rfl⟩
    have hne : name ≠ [] := by
      rw [← hname]
      simp [hc]
    rw [if_neg hne]
    simp [hc, ← hname]

/-- A path has one last component. -/
theorem LastComponent.unique {other : Text} (h : LastComponent p name) (h' : LastComponent p other) : other = name := by
  have heq := h.splitLast?_eq.symm.trans h'.splitLast?_eq
  by_cases hn : name = [] <;> by_cases ho : other = [] <;> simp_all

/-- The file name of a path is its last component, unless that is nothing, a dot or two dots. -/
theorem LastComponent.fileName?_eq (h : LastComponent p name) :
    fileName? p = if name = [] ∨ name = ['.'] ∨ name = ['.', '.'] then none else some name := by
  have hname := h.splitLast?_eq
  by_cases hn : name = []
  · rw [if_pos hn, Option.map_eq_none_iff] at hname
    simp [fileName?, hname, hn]
  · rw [if_neg hn, Option.map_eq_some_iff] at hname
    obtain ⟨⟨last, before⟩, hs, rfl⟩ := hname
    have hlast : last ≠ [] := fun hl => hn (by rw [hl]; rfl)
    rw [fileName?, hs, Option.bind_some]
    simp [hlast, List.reverse_eq_iff]

/-- What has the same last component has the same file name. -/
theorem LastComponent.fileName?_eq_of {other : Path} (h : LastComponent p name) (h' : LastComponent other name) :
    fileName? other = fileName? p := by
  rw [h.fileName?_eq, h'.fileName?_eq]

/-! ## Paths behind directories -/

/-- A path has its last component also behind directories, unless it has none, or a dot. What comes off its end behind the
directories came off before, for a dot that did not would be all there is of the path. -/
theorem LastComponent.append (dir : Path) (h : LastComponent p name) (hn : name ≠ []) (hd : name ≠ ['.']) :
    LastComponent (dir ++ '/' :: p) name := by
  obtain ⟨q, ⟨⟨pieces, hall, rfl⟩, hslash, hdot⟩, hfree, hpart⟩ := h
  have hq : q ≠ [] := by
    rintro rfl
    rcases hpart with rfl | ⟨before, he⟩
    · exact hn rfl
    · simp at he
  have hsuffix : '/' :: q <:+ dir ++ '/' :: q := List.suffix_append _ _
  refine ⟨dir ++ '/' :: q, ⟨⟨pieces, hall, by simp⟩, ?_, ?_⟩, hfree, ?_⟩
  · intro hs
    refine hslash (List.suffix_of_suffix_length_le hs ((List.suffix_cons _ _).trans hsuffix) ?_)
    exact List.length_pos_iff.mpr hq
  · intro hs
    have hs' : ['/', '.'] <:+ '/' :: q := by
      refine List.suffix_of_suffix_length_le hs hsuffix ?_
      have := List.length_pos_iff.mpr hq
      simp only [List.length_cons, List.length_nil]
      omega
    rcases List.suffix_cons_iff.mp hs' with he | hs'
    · have hdots : q = ['.'] := (List.cons.inj he).2.symm
      subst hdots
      rcases hpart with rfl | ⟨before, he⟩
      · exact hd rfl
      · have hm : '/' ∈ ['.'] := he ▸ List.mem_append_right _ List.mem_cons_self
        exact absurd hm (by decide)
    · exact hdot hs'
  · rcases hpart with rfl | ⟨before, rfl⟩
    · exact Or.inr ⟨dir, rfl⟩
    · exact Or.inr ⟨dir ++ '/' :: before, by simp⟩

/-- A path without a last component, or with a dot for one, leads to the directories that it is put behind. -/
theorem LastComponent.splitLast?_append (dir : Path) (h : LastComponent p name) (hn : name = [] ∨ name = ['.']) :
    splitLast? (dir ++ '/' :: p) = splitLast? dir := by
  obtain ⟨q, ⟨⟨pieces, hall, rfl⟩, hslash, hdot⟩, -, hpart⟩ := h
  have hq : q = name := by
    rcases hpart with rfl | ⟨before, rfl⟩
    · rfl
    · rcases hn with rfl | rfl
      · exact absurd (List.suffix_append _ _) hslash
      · exact absurd (List.suffix_append _ _) hdot
  rw [show dir ++ '/' :: (q ++ pieces.flatten) = (dir ++ '/' :: q) ++ pieces.flatten by simp,
    splitLast?_append_pieces _ hall, hq]
  rcases hn with rfl | rfl
  · exact splitLast?_append_slash dir
  · exact splitLast?_append_dot dir

/-! ## The kind of output -/

/-- An extension follows the last dot of a file name, and something stands before that dot. -/
theorem extension?_eq_some_iff {e : Text} : extension? p = some e ↔
    ∃ name stem, fileName? p = some name ∧ name = stem ++ '.' :: e ∧ stem ≠ [] ∧ '.' ∉ e := by
  rw [extension?, Option.bind_eq_some_iff]
  refine exists_congr fun name => ?_
  rw [exists_and_left]
  refine and_congr_right fun _ => ?_
  by_cases hdot : '.' ∈ name
  · obtain ⟨before, part, rfl, hpart⟩ := Text.exists_last_cut hdot
    have hrev : (before ++ '.' :: part).reverse.dropWhile (· != '.') = '.' :: before.reverse := by
      rw [List.reverse_append, List.reverse_cons, List.append_assoc, List.singleton_append]
      exact Text.dropWhile_append_of_head (Text.bne_of_not_mem hpart) (by simp)
    simp only [hrev, Text.afterLast_append before hpart, List.reverse_eq_nil_iff]
    constructor
    · intro h
      by_cases hb : before = []
      · rw [if_pos hb] at h
        cases h
      · rw [if_neg hb, Option.some.injEq] at h
        subst h
        exact ⟨before, rfl, hb, hpart⟩
    · rintro ⟨stem, he, hstem, hdot'⟩
      have hpart' : part = e := by
        rw [← Text.afterLast_append before hpart, he, Text.afterLast_append stem hdot']
      subst hpart'
      rw [List.append_cancel_right he, if_neg hstem]
  · have hrev : name.reverse.dropWhile (· != '.') = [] := by
      rw [← List.append_nil name.reverse]
      exact Text.dropWhile_append_of_head (Text.bne_of_not_mem hdot) (by simp)
    simp only [hrev]
    refine iff_of_false (by simp) ?_
    rintro ⟨stem, rfl, -, -⟩
    exact hdot (by simp)

end Path

namespace Output

variable {p : Path} {name : Text}

/-- A file takes declarations if its name is a stem and the extension `ts`, in either case of the letters. -/
theorem ofPath_eq_declarations_iff : ofPath p = .declarations ↔
    ∃ name stem e, Path.fileName? p = some name ∧ name = stem ++ '.' :: e ∧ stem ≠ [] ∧
      Text.asciiLower e = "ts".toList := by
  have hdot : ∀ e : Text, Text.asciiLower e = "ts".toList → '.' ∉ e := by
    intro e he hm
    have hm' : '.'.toLower ∈ Text.asciiLower e := List.mem_map_of_mem hm
    rw [he] at hm'
    exact absurd hm' (by decide)
  have hkind : ofPath p = .declarations ↔ ∃ e, Path.extension? p = some e ∧ Text.asciiLower e = "ts".toList := by
    rw [ofPath, ← Option.map_eq_some_iff]
    split
    · rename_i h
      exact iff_of_true rfl h
    · rename_i h
      exact iff_of_false (by simp) h
  rw [hkind]
  constructor
  · rintro ⟨e, he, hts⟩
    obtain ⟨name, stem, hname, heq, hstem, -⟩ := Path.extension?_eq_some_iff.mp he
    exact ⟨name, stem, e, hname, heq, hstem, hts⟩
  · rintro ⟨name, stem, e, hname, heq, hstem, hts⟩
    exact ⟨e, Path.extension?_eq_some_iff.mpr ⟨name, stem, hname, heq, hstem, hdot e hts⟩, hts⟩

/-- Paths with the same last part are written in the same notation. -/
theorem ofPath_eq_of_splitLast?_eq {q : Path} (h : Path.splitLast? p = Path.splitLast? q) : ofPath p = ofPath q := by
  refine ofPath_eq_of_fileName?_eq ?_
  rw [Path.fileName?, h, Path.fileName?]

/-- Every path has one last component, which is empty where there is none. The path takes declarations exactly if its last
component is there, is no step up and no dot, and reads as a stem and the extension `ts`, in either case of the letters. So
the kind of output is the same for all paths with that last component, and for the path with a slash or a dot at its end.
Behind directories a path takes the same kind, unless it has no last component, or a dot for one: then it takes the kind of
these directories. -/
theorem ofPath_lastComponent (p : Path) :
    (∃ name, Path.LastComponent p name ∧ ∀ other, Path.LastComponent p other → other = name) ∧
      (ofPath p = .declarations ↔ ∃ name stem e, Path.LastComponent p name ∧ name ≠ [] ∧ name ≠ ['.', '.'] ∧ name ≠ ['.'] ∧
        name = stem ++ '.' :: e ∧ stem ≠ [] ∧ Text.asciiLower e = "ts".toList) ∧
      (∀ name other, Path.LastComponent p name → Path.LastComponent other name → ofPath other = ofPath p) ∧
      ofPath (p ++ ['/']) = ofPath p ∧ ofPath (p ++ ['/', '.']) = ofPath p ∧
      (∀ dir name : Text, Path.LastComponent p name → ofPath (dir ++ '/' :: p) =
        if name = [] ∨ name = ['.'] then ofPath dir else ofPath p) := by
  obtain ⟨name, hname⟩ := Path.exists_lastComponent p
  refine ⟨⟨name, hname, fun other ho => hname.unique ho⟩, ?_, ?_, ?_, ?_, ?_⟩
  · rw [ofPath_eq_declarations_iff]
    constructor
    · rintro ⟨file, stem, e, hfile, heq, hstem, hts⟩
      rw [hname.fileName?_eq] at hfile
      split at hfile
      · nomatch hfile
      · rename_i hn
        rw [not_or, not_or] at hn
        cases hfile
        exact ⟨name, stem, e, hname, hn.1, hn.2.2, hn.2.1, heq, hstem, hts⟩
    · rintro ⟨other, stem, e, ho, hn, hdots, hdot, heq, hstem, hts⟩
      refine ⟨other, stem, e, ?_, heq, hstem, hts⟩
      rw [ho.fileName?_eq, if_neg]
      simp [hn, hdots, hdot]
  · intro name other h h'
    exact ofPath_eq_of_fileName?_eq (h.fileName?_eq_of h')
  · exact ofPath_eq_of_splitLast?_eq (Path.splitLast?_append_slash p)
  · exact ofPath_eq_of_splitLast?_eq (Path.splitLast?_append_dot p)
  · intro dir name h
    split
    · rename_i hn
      exact ofPath_eq_of_splitLast?_eq (h.splitLast?_append dir hn)
    · rename_i hn
      rw [not_or] at hn
      exact ofPath_eq_of_fileName?_eq (h.fileName?_eq_of (h.append dir hn.1 hn.2))

/-- A slash and a dot at the end of a path do not matter, nor do directories before it that have an extension of their own. -/
theorem ofPath_behind_directory :
    Path.LastComponent "out/a.Ts/./".toList "a.Ts".toList ∧ ofPath "out/a.Ts/./".toList = .declarations ∧
      ofPath ("old.js".toList ++ '/' :: "out/a.Ts/./".toList) = .declarations := by
  have hlast : Path.LastComponent "out/a.Ts/./".toList "a.Ts".toList := by
    refine ⟨"out/a.Ts".toList, ⟨⟨[['/', '.'], ['/']], by simp, by decide⟩, by decide, by decide⟩, by decide, ?_⟩
    exact Or.inr ⟨"out".toList, by decide⟩
  obtain ⟨-, hkind, -, -, -, hdirectory⟩ := ofPath_lastComponent "out/a.Ts/./".toList
  have hdeclared := hkind.mpr ⟨"a.Ts".toList, ['a'], "Ts".toList, hlast, by decide, by decide, by decide, by decide,
    by decide, by decide⟩
  have hbehind := hdirectory "old.js".toList "a.Ts".toList hlast
  rw [if_neg (by decide)] at hbehind
  exact ⟨hlast, hdeclared, hbehind.trans hdeclared⟩

/-- Directories before a path can change its kind: a dot leads to the directory before it. -/
theorem dot_takes_directory : ¬∀ dir p : Path, ofPath (dir ++ '/' :: p) = ofPath p := by
  intro h
  exact absurd (h "a.ts".toList ".".toList) (by decide)

end Output

end ModelStubs
