import ModelStubs.Proofs.Locate

/-!
# Writing moves nothing

Where a path leads depends on directories and links alone: two file systems that have the same ones (`SameWays`) lead a path
to the same location, whether something is there or not (`SameWays.locationOf?_eq`). What the operations on files do is
decided by that location and by what is there: a path is read if it leads to a file (`read_eq_ok_iff_lookup?`), and can be
written if it leads to a location where no directory is (`write_of_takes`). Writing makes neither directories nor links, so
every path keeps its location when a file is written (`Filed.sameWays`).
-/

namespace ModelStubs.FileSystem

variable {fs other after : FileSystem} {n : Nat} {here l : Location} {rest : List Text} {place : Place} {p : Path}
  {content : ByteArray}

/-! ## The location of a path -/

/-- The location that a path leads to, whether something is there or not. -/
def locationOf? (fs : FileSystem) (p : Path) : Option Location :=
  match fs.locate p with
  | .ok place => some place.location
  | .error _ => none

/-- A path leads to a location if and only if that is the location of the place that it leads to. -/
theorem locationOf?_eq_some_iff (fs : FileSystem) (p : Path) (l : Location) :
    fs.locationOf? p = some l ↔ ∃ place, fs.locate p = .ok place ∧ place.location = l := by
  rw [locationOf?]
  cases fs.locate p with
  | error fault => simp
  | ok place => simp

/-- What a path leads to is what is at its location. -/
theorem lookup?_eq (fs : FileSystem) (p : Path) : fs.lookup? p = (fs.locationOf? p).bind fs.node? := by
  rw [lookup?, find?, locationOf?]
  cases hp : fs.locate p with
  | error fault => rfl
  | ok place =>
    cases place with
    | found l => rfl
    | vacant parent name =>
      cases settled_of_locate hp with
      | vacant _ hv _ => exact hv.symm

/-- A path never ends at a link: it goes on to where the link leads. -/
theorem node?_ne_link (h : fs.locationOf? p = some l) (target : Path) : fs.node? l ≠ some (.link target) := by
  obtain ⟨place, hp, rfl⟩ := (locationOf?_eq_some_iff fs p l).mp h
  intro hn
  cases settled_of_locate hp with
  | directory hd => nomatch hd.symm.trans hn
  | file hf => nomatch hf.symm.trans hn
  | vacant _ hv _ => nomatch hv.symm.trans hn

/-- A path is one to something if and only if something is at the location that it leads to. -/
theorem has_eq (fs : FileSystem) (p : Path) : fs.has p = ((fs.locationOf? p).bind fs.node?).isSome := by
  rw [has, lookup?_eq]

/-- A path can be read if and only if a file is at the location that it leads to, and its content is what is read. -/
theorem read_eq_ok_iff_lookup? (fs : FileSystem) (p : Path) (content : ByteArray) :
    fs.read p = .ok content ↔ (fs.locationOf? p).bind fs.node? = some (.file content) := by
  rw [read_eq_ok_iff, ← lookup?_eq, lookup?, Option.bind_eq_some_iff]
  simp only [find?_eq_some_iff]

/-! ## Writing -/

/-- A path leads to a location where no directory is, so that a file can be there. -/
structure Takes (fs : FileSystem) (p : Path) (l : Location) : Prop where
  location : fs.locationOf? p = some l
  free : fs.node? l ≠ some .directory

/-- `after` is `fs` with a file of that content at a location. -/
structure Filed (fs after : FileSystem) (l : Location) (content : ByteArray) : Prop where
  workDir : after.workDir = fs.workDir
  node? : ∀ l', after.node? l' = if l' = l then some (.file content) else fs.node? l'

/-- Writing to a path that takes a file files the content there. -/
theorem write_of_takes (h : fs.Takes p l) (content : ByteArray) :
    ∃ after, fs.write p content = .ok after ∧ Filed fs after l content := by
  obtain ⟨place, hp, rfl⟩ := (locationOf?_eq_some_iff fs p l).mp h.location
  have hfree := h.free
  rw [write, hp]
  cases settled_of_locate hp with
  | directory hd => exact absurd hd hfree
  | @file name parent old hf =>
    have hput := node?_put (isEntryName_of_node? hf) (directory_of_node? hf) hfree (.file content)
    refine ⟨fs.put parent name (.file content), ?_, workDir_put _ _ _ _, hput⟩
    simp only [hf]
  | @vacant name parent hd hv hn =>
    exact ⟨fs.put parent name (.file content), rfl, workDir_put _ _ _ _, node?_put hn hd hfree _⟩

/-- Writing to a path that leads nowhere fails. -/
theorem write_of_nowhere (h : fs.locationOf? p = none) (content : ByteArray) :
    ∃ fault, fs.write p content = .error fault := by
  rw [locationOf?] at h
  rw [write]
  cases hp : fs.locate p with
  | error fault => exact ⟨fault, rfl⟩
  | ok place => simp [hp] at h

/-- Writing to a path that leads to a directory fails because it is one. -/
theorem write_of_directory (h : fs.locationOf? p = some l) (hd : fs.node? l = some .directory) (content : ByteArray) :
    fs.write p content = .error .isDirectory := by
  obtain ⟨place, hp, rfl⟩ := (locationOf?_eq_some_iff fs p l).mp h
  rw [write, hp]
  cases settled_of_locate hp with
  | @directory l _ =>
    cases l with
    | nil => rfl
    | cons name parent =>
      rw [Place.location] at hd
      simp only [hd]
  | file hf => cases hf.symm.trans hd
  | vacant _ hv _ => cases hv.symm.trans hd

/-- Where no file can be, none is written. -/
theorem write_of_not_takes (h : ∀ l, ¬fs.Takes p l) (content : ByteArray) : ∃ fault, fs.write p content = .error fault := by
  cases hl : fs.locationOf? p with
  | none => exact write_of_nowhere hl content
  | some l =>
    by_cases hd : fs.node? l = some .directory
    · exact ⟨_, write_of_directory hl hd content⟩
    · exact absurd ⟨hl, hd⟩ (h l)

/-! ## File systems with the same ways -/

/-- Two file systems have the same directories and the same links. -/
structure SameWays (fs other : FileSystem) : Prop where
  workDir : other.workDir = fs.workDir
  directory : ∀ l, other.node? l = some .directory ↔ fs.node? l = some .directory
  link : ∀ l target, other.node? l = some (.link target) ↔ fs.node? l = some (.link target)

namespace SameWays

theorem refl (fs : FileSystem) : SameWays fs fs := ⟨rfl, fun _ => Iff.rfl, fun _ _ => Iff.rfl⟩

theorem symm (h : SameWays fs other) : SameWays other fs :=
  ⟨h.workDir.symm, fun l => (h.directory l).symm, fun l target => (h.link l target).symm⟩

theorem trans (h : SameWays fs other) (h' : SameWays other after) : SameWays fs after :=
  ⟨h'.workDir.trans h.workDir, fun l => (h'.directory l).trans (h.directory l),
    fun l target => (h'.link l target).trans (h.link l target)⟩

/-- Where neither a directory nor a link is, there is none in the other file system either. -/
theorem file_or_none (h : SameWays fs other) (hd : fs.node? l ≠ some .directory)
    (hl : ∀ target, fs.node? l ≠ some (.link target)) :
    other.node? l = none ∨ ∃ content, other.node? l = some (.file content) := by
  cases hn : other.node? l with
  | none => exact Or.inl rfl
  | some node =>
    cases node with
    | directory => exact absurd ((h.directory l).mp hn) hd
    | file content => exact Or.inr ⟨content, rfl⟩
    | link target => exact absurd ((h.link l target).mp hn) (hl target)

/-- A name at which a way ends with a file or a free place is such an end in the other file system too. -/
theorem lastName (h : SameWays fs other) {name : Text} (hn : isEntryName name = true)
    (hd : fs.node? (name :: here) ≠ some .directory) (hl : ∀ target, fs.node? (name :: here) ≠ some (.link target)) :
    ∃ place, place.location = name :: here ∧ Route other n here [name] place := by
  rcases h.file_or_none hd hl with hnone | ⟨content, hfile⟩
  · exact ⟨.vacant here name, rfl, .vacant hn hnone⟩
  · exact ⟨.found (name :: here), rfl, .file hfile⟩

/-- A route in one is a route in the other to a place at the same location. -/
theorem route (h : SameWays fs other) (hr : Route fs n here rest place) :
    ∃ place', place'.location = place.location ∧ Route other n here rest place' := by
  induction hr with
  | here => exact ⟨_, rfl, .here⟩
  | dot _ ih =>
    obtain ⟨place', hl, hr⟩ := ih
    exact ⟨place', hl, .dot hr⟩
  | dots _ ih =>
    obtain ⟨place', hl, hr⟩ := ih
    exact ⟨place', hl, .dots hr⟩
  | enter hnode _ ih =>
    obtain ⟨place', hl, hr⟩ := ih
    exact ⟨place', hl, .enter ((h.directory _).mpr hnode) hr⟩
  | follow hnode _ ih =>
    obtain ⟨place', hl, hr⟩ := ih
    exact ⟨place', hl, .follow ((h.link _ _).mpr hnode) hr⟩
  | file hnode =>
    exact h.lastName (isEntryName_of_node? hnode) (by rw [hnode]; nofun) fun _ => by rw [hnode]; nofun
  | vacant hn hnode => exact h.lastName hn (by rw [hnode]; nofun) fun _ => by rw [hnode]; nofun

/-- A path leads in the other to the location that it leads to in the one. -/
theorem locationOf?_of_eq_some (h : SameWays fs other) (hp : fs.locationOf? p = some l) :
    other.locationOf? p = some l := by
  obtain ⟨place, hloc, rfl⟩ := (locationOf?_eq_some_iff fs p l).mp hp
  obtain ⟨hf, hne, hd, hw⟩ := (locateParts_eq_ok_iff fs true p _ place).mp hloc
  obtain ⟨place', hl, hr⟩ := h.route (route_of_walk hw)
  refine (locationOf?_eq_some_iff other p _).mpr ⟨place', ?_, hl⟩
  refine (locateParts_eq_ok_iff other true p _ _).mpr ⟨hf, hne, ?_, ?_⟩
  · rw [h.workDir]
    exact (h.directory _).mpr hd
  · rw [h.workDir]
    exact hr.walk_eq

/-- A path leads to the same location in both. -/
theorem locationOf?_eq (h : SameWays fs other) (p : Path) : other.locationOf? p = fs.locationOf? p := by
  refine Option.ext fun l => ?_
  exact ⟨h.symm.locationOf?_of_eq_some, h.locationOf?_of_eq_some⟩

/-- A path takes a file in the one if and only if it does in the other. -/
theorem takes_iff (h : SameWays fs other) (p : Path) (l : Location) : other.Takes p l ↔ fs.Takes p l := by
  constructor
  · rintro ⟨hp, hd⟩
    exact ⟨(h.locationOf?_eq p).symm.trans hp, fun hn => hd ((h.directory l).mpr hn)⟩
  · rintro ⟨hp, hd⟩
    exact ⟨(h.locationOf?_eq p).trans hp, fun hn => hd ((h.directory l).mp hn)⟩

end SameWays

/-- Writing a file makes neither directories nor links, and removes none. -/
theorem Filed.sameWays (h : Filed fs after l content) (ht : fs.Takes p l) : SameWays fs after := by
  refine ⟨h.workDir, fun l' => ?_, fun l' target => ?_⟩
  · rw [h.node?]
    split
    · rename_i he
      subst he
      exact iff_of_false nofun ht.free
    · exact Iff.rfl
  · rw [h.node?]
    split
    · rename_i he
      subst he
      exact iff_of_false nofun (node?_ne_link ht.location target)
    · exact Iff.rfl

/-! ## File systems with the same contents -/

/-- Two file systems have the same at every location. -/
structure SameContents (fs other : FileSystem) : Prop where
  workDir : other.workDir = fs.workDir
  node? : ∀ l, other.node? l = fs.node? l

theorem SameContents.refl (fs : FileSystem) : SameContents fs fs := ⟨rfl, fun _ => rfl⟩

theorem SameContents.sameWays (h : SameContents fs other) : SameWays fs other :=
  ⟨h.workDir, fun l => by rw [h.node?], fun l target => by rw [h.node?]⟩

/-- The same file at the same location keeps the contents the same. -/
theorem SameContents.filed {other' : FileSystem} (h : SameContents fs other) (hf : Filed fs after l content)
    (ho : Filed other other' l content) : SameContents after other' := by
  refine ⟨ho.workDir.trans (h.workDir.trans hf.workDir.symm), fun l' => ?_⟩
  rw [ho.node?, hf.node?, h.node?]

end ModelStubs.FileSystem
