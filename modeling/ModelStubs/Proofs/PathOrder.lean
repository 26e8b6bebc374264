import ModelStubs.Proofs.Path

/-!
# The order of paths

Paths are ordered by their components, which is a strict order (`before_irrefl`, `before_asymm`). A path continued by names
has these names after its own components (`components_joinAll`), so two such paths from one directory stand as their names
do at the first difference (`before_joinAll`), whatever characters the names are made of.
-/

namespace ModelStubs.Path

/-! ## Components -/

/-- No component comes before itself. -/
theorem Component.before_irrefl (a : Component) : Component.before a a = false := by
  cases a with
  | name t => exact Text.before_irrefl t
  | _ => rfl

/-- Of two components only one comes before the other. -/
theorem Component.before_asymm {a b : Component} (h : Component.before a b = true) : Component.before b a = false := by
  cases a with
  | name s =>
    cases b with
    | name t => exact Text.before_asymm h
    | _ => simp [Component.before] at h
  | _ => cases b <;> simp [Component.before] at h ⊢

/-- No list of components comes before itself. -/
theorem componentsBefore_irrefl (as : List Component) : componentsBefore as as = false := by
  induction as with
  | nil => rfl
  | cons a as ih => rw [componentsBefore, if_pos rfl, ih]

/-- Of two lists of components only one comes before the other. -/
theorem componentsBefore_asymm {as bs : List Component} (h : componentsBefore as bs = true) :
    componentsBefore bs as = false := by
  induction as generalizing bs with
  | nil =>
    cases bs with
    | nil => rfl
    | cons b bs => rfl
  | cons a as ih =>
    cases bs with
    | nil => nomatch h
    | cons b bs =>
      rw [componentsBefore] at h ⊢
      by_cases hab : a = b
      · rw [if_pos hab] at h
        rw [if_pos hab.symm]
        exact ih h
      · rw [if_neg hab] at h
        rw [if_neg (Ne.symm hab)]
        exact Component.before_asymm h

/-- Components in common at the start do not matter. -/
theorem componentsBefore_append (cs as bs : List Component) :
    componentsBefore (cs ++ as) (cs ++ bs) = componentsBefore as bs := by
  induction cs with
  | nil => rfl
  | cons c cs ih => rw [List.cons_append, List.cons_append, componentsBefore, if_pos rfl, ih]

/-- No path comes before itself. -/
theorem before_irrefl (p : Path) : before p p = false := componentsBefore_irrefl _

/-- Of two paths only one comes before the other. -/
theorem before_asymm {p q : Path} (h : before p q = true) : before q p = false := componentsBefore_asymm h

/-! ## Paths continued by names -/

/-- The pieces of a path and of the path continued by a name, short of an empty piece at the end. -/
theorem splitAt_join {dir : Path} (hd : dir ≠ []) {name : Text} (hn : EntryName name) :
    ∃ piece pieces last, Text.splitAt '/' dir = piece :: pieces ++ last ∧
      Text.splitAt '/' (join dir name) = piece :: pieces ++ [name] ∧ ∀ t ∈ last, t = [] := by
  have hcut : ∀ before : Path, ∃ piece pieces, Text.splitAt '/' before = piece :: pieces ∧
      Text.splitAt '/' (before ++ '/' :: name) = piece :: pieces ++ [name] := by
    intro before
    obtain ⟨piece, pieces, hb⟩ := List.exists_cons_of_ne_nil (Text.splitAt_ne_nil '/' before)
    exact ⟨piece, pieces, hb, by rw [Text.splitAt_append_cons, hb, Text.splitAt_of_not_mem hn.no_slash]⟩
  rw [join]
  split
  · rename_i h
    obtain ⟨first, rfl⟩ := List.getLast?_eq_some_iff.mp (h.resolve_right hd)
    obtain ⟨piece, pieces, hf, hj⟩ := hcut first
    refine ⟨piece, pieces, [[]], ?_, ?_, by simp⟩
    · rw [Text.splitAt_append_cons, hf]
      rfl
    · rw [List.append_assoc, List.singleton_append, hj]
  · obtain ⟨piece, pieces, hf, hj⟩ := hcut dir
    exact ⟨piece, pieces, [], by rw [hf, List.append_nil], hj, by simp⟩

/-- A name that continues a path is one component more. -/
theorem components_join {dir : Path} (hd : dir ≠ []) {name : Text} (hn : EntryName name) :
    components (join dir name) = components dir ++ [.name name] := by
  obtain ⟨piece, pieces, last, hdir, hjoin, hlast⟩ := splitAt_join hd hn
  have hempty : last.filter (fun part => part ≠ [] && part ≠ ['.']) = [] := by
    rw [List.filter_eq_nil_iff]
    intro t ht
    simp [hlast t ht]
  rw [components, components, isAbsolute_join hd, hjoin, hdir, List.filter_append, List.filter_append, hempty]
  simp [hn.ne_nil, hn.ne_dot, hn.ne_dots]

/-- A path continued by names, one after the other. -/
def joinAll (dir : Path) (chain : List Text) : Path := chain.foldl join dir

theorem joinAll_append (dir : Path) (chain more : List Text) :
    joinAll dir (chain ++ more) = joinAll (joinAll dir chain) more :=
  List.foldl_append

theorem joinAll_concat (dir : Path) (chain : List Text) (name : Text) :
    joinAll dir (chain ++ [name]) = join (joinAll dir chain) name :=
  joinAll_append dir chain [name]

/-- A path that is continued by names is not empty. -/
theorem joinAll_ne_nil {dir : Path} (hd : dir ≠ []) {chain : List Text} (hc : ∀ name ∈ chain, EntryName name) :
    joinAll dir chain ≠ [] := by
  induction chain generalizing dir with
  | nil => exact hd
  | cons name chain ih =>
    exact ih (join_ne_nil dir (hc name List.mem_cons_self)) fun n hm => hc n (List.mem_cons_of_mem _ hm)

/-- Names that continue a path are one component more each. -/
theorem components_joinAll {dir : Path} (hd : dir ≠ []) {chain : List Text} (hc : ∀ name ∈ chain, EntryName name) :
    components (joinAll dir chain) = components dir ++ chain.map .name := by
  induction chain generalizing dir with
  | nil => exact (List.append_nil _).symm
  | cons name chain ih =>
    have hn := hc name List.mem_cons_self
    have htail := ih (join_ne_nil dir hn) fun n hm => hc n (List.mem_cons_of_mem _ hm)
    rw [components_join hd hn, List.append_assoc] at htail
    exact htail

/-- Of two paths that go on from one directory by different names, that one stands first whose name does. -/
theorem before_joinAll {dir : Path} (hd : dir ≠ []) {a b : Text} (hab : Text.before a b = true) {as bs : List Text}
    (ha : ∀ name ∈ a :: as, EntryName name) (hb : ∀ name ∈ b :: bs, EntryName name) :
    before (joinAll dir (a :: as)) (joinAll dir (b :: bs)) = true := by
  have hne : Component.name a ≠ Component.name b := by
    rintro ⟨⟩
    rw [Text.before_irrefl] at hab
    nomatch hab
  rw [before, components_joinAll hd ha, components_joinAll hd hb, componentsBefore_append, List.map_cons, List.map_cons,
    componentsBefore, if_neg hne]
  exact hab

end ModelStubs.Path
