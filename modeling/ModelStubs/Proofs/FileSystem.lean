import Mathlib.Data.List.Perm.Subperm
import ModelStubs.FileSystem.Access
import ModelStubs.Proofs.Path

/-!
# File systems without links

Where there are no symbolic links, a path that leads to a file or to a place for one ends in its name (`leads_of_locate`).
Writing a file then changes what is at one location, which has the file name of the path, and nothing else (`stored_of_write`).
It makes a file system grow: directories stay what they are and files stay files, so that a path keeps leading to what it
led to (`Grown.locate`).
-/

namespace ModelStubs

/-- Whether a node is a symbolic link. -/
def Node.isLink : Node → Bool
  | .link _ => true
  | _ => false

/-- The location that a path leads to, whether something is there or not. -/
def Place.location : Place → Location
  | .found l => l
  | .vacant parent name => name :: parent

namespace FileSystem

/-- No location holds a symbolic link. -/
def LinkFree (fs : FileSystem) : Prop := ∀ l target, fs.node? l ≠ some (.link target)

/-- A file system is free of links if and only if none of its entries is a link. -/
theorem linkFree_iff (fs : FileSystem) : fs.LinkFree ↔ ∀ entry ∈ fs.nodes, entry.2.isLink = false := by
  constructor
  · rintro hl ⟨l, node⟩ he
    obtain ⟨name, parent, rfl, -⟩ := fs.named _ he
    cases node with
    | directory => rfl
    | file content => rfl
    | link target => exact absurd ((node?_eq_some_iff fs name parent _).mpr he) (hl _ target)
  · intro h l target hn
    cases l with
    | nil => cases hn
    | cons name parent => exact nomatch h _ ((node?_eq_some_iff fs name parent _).mp hn)

instance decLinkFree (fs : FileSystem) : Decidable fs.LinkFree := decidable_of_iff _ (linkFree_iff fs).symm

/-! ## Nodes -/

/-- What is below a location is there under a name that an entry can have. -/
theorem isEntryName_of_node? {fs : FileSystem} {name : Text} {parent : Location} {node : Node}
    (h : fs.node? (name :: parent) = some node) : isEntryName name = true := by
  obtain ⟨n, q, he, hn⟩ := fs.named _ ((node?_eq_some_iff fs name parent node).mp h)
  rw [(List.cons.inj he).1]
  exact hn

/-- Every node but the root stands in a directory. -/
theorem directory_of_node? {fs : FileSystem} {name : Text} {parent : Location} {node : Node}
    (h : fs.node? (name :: parent) = some node) : fs.node? parent = some .directory := by
  rcases fs.closed name parent node ((node?_eq_some_iff fs name parent node).mp h) with rfl | hp
  · rfl
  · cases parent with
    | nil => rfl
    | cons n q => exact (node?_eq_some_iff fs n q _).mpr hp

/-- The parent of a directory is a directory. -/
theorem directory_tail {fs : FileSystem} {l : Location} (h : fs.node? l = some .directory) :
    fs.node? l.tail = some .directory := by
  cases l with
  | nil => exact h
  | cons name parent => exact directory_of_node? h

/-- What `put` changes: one location. -/
theorem node?_put {fs : FileSystem} {parent : Location} {name : Text} (hn : isEntryName name = true)
    (hp : fs.node? parent = some .directory) (hd : fs.node? (name :: parent) ≠ some .directory) (node : Node)
    (l : Location) : (fs.put parent name node).node? l = if l = name :: parent then some node else fs.node? l := by
  cases l with
  | nil => rfl
  | cons n q =>
    apply Option.ext
    intro x
    rw [node?_eq_some_iff, put, dif_pos ⟨hn, hp, hd⟩]
    split
    · rename_i he
      simp only [he, List.mem_cons, Prod.mk.injEq, true_and, Option.some.injEq, eq_comm, or_iff_left_iff_imp]
      intro hm
      simp at hm
    · rename_i he
      rw [node?_eq_some_iff]
      simp [he]

theorem workDir_put (fs : FileSystem) (parent : Location) (name : Text) (node : Node) :
    (fs.put parent name node).workDir = fs.workDir := by
  rw [put]
  split <;> rfl

/-! ## Where a path leads -/

/-- What a way of parts leads to from a directory: a directory, a file, or a place for one, the last two in a directory and
under the last part. -/
inductive Leads (fs : FileSystem) (parts : List Text) : Place → Prop
  | directory {l : Location} : fs.node? l = some .directory → Leads fs parts (.found l)
  | file {name : Text} {parent : Location} {content : ByteArray} : fs.node? (name :: parent) = some (.file content) →
      parts.getLast? = some name → Leads fs parts (.found (name :: parent))
  | vacant {name : Text} {parent : Location} : fs.node? parent = some .directory → fs.node? (name :: parent) = none →
      isEntryName name = true → parts.getLast? = some name → Leads fs parts (.vacant parent name)

/-- A part in front of a way does not change what kind of place it leads to. -/
theorem Leads.cons {fs : FileSystem} {parts : List Text} {place : Place} (h : Leads fs parts place) (part : Text) :
    Leads fs (part :: parts) place := by
  cases h with
  | directory hd => exact .directory hd
  | file hf hl => exact .file hf (by rw [List.getLast?_cons, hl]; rfl)
  | vacant hd hv hn hl => exact .vacant hd hv hn (by rw [List.getLast?_cons, hl]; rfl)

/-- Without links, a way that is descended leads to a directory, to a file under its last part, or to a free place. -/
theorem leads_of_descend {fs : FileSystem} (hl : fs.LinkFree) {last : Bool}
    {follow : Path → Location → List Text → Except FileFault Place} {here : Location} {parts : List Text} {place : Place}
    (hd : fs.node? here = some .directory) (h : descend fs last follow here parts = .ok place) :
    Leads fs parts place := by
  induction parts generalizing here with
  | nil =>
    cases h
    exact .directory hd
  | cons part rest ih =>
    rw [descend] at h
    split at h
    · exact (ih hd h).cons part
    · split at h
      · exact (ih (directory_tail hd) h).cons part
      · split at h
        · rename_i hn
          split at h
          · rename_i hnode
            exact (ih hnode h).cons part
          · rename_i content hnode
            split at h
            · rename_i hr
              cases h
              exact .file hnode (by rw [hr]; rfl)
            · nomatch h
          · rename_i target hnode
            exact absurd hnode (hl _ _)
          · rename_i hnode
            split at h
            · rename_i hr
              cases h
              exact .vacant hd hnode hn (by rw [hr]; rfl)
            · nomatch h
        · nomatch h

/-- Following a way is descending, whatever number of links may be met. -/
theorem exists_walk_eq (fs : FileSystem) (last : Bool) (n : Nat) : ∃ follow, walk fs last n = descend fs last follow := by
  cases n with
  | zero => exact ⟨_, rfl⟩
  | succ n => exact ⟨_, rfl⟩

/-- A path that leads anywhere is followed from a directory. -/
theorem locateParts_eq_ok_iff (fs : FileSystem) (last : Bool) (p : Path) (parts : List Text) (place : Place) :
    locateParts fs last p parts = .ok place ↔ Path.isFollowed p = true ∧ p ≠ [] ∧
      fs.node? (startOf p fs.workDir) = some .directory ∧
      walk fs last linkLimit (startOf p fs.workDir) parts = .ok place := by
  rw [locateParts]
  by_cases hf : Path.isFollowed p = true
  · by_cases hs : p = [] ∨ fs.node? (startOf p fs.workDir) ≠ some .directory
    · rw [if_neg (by simp [hf]), if_pos hs]
      refine iff_of_false nofun ?_
      rintro ⟨-, hp, hd, -⟩
      exact hs.elim hp fun h => h hd
    · rw [if_neg (by simp [hf]), if_neg hs]
      rw [not_or, Decidable.not_not] at hs
      simp [hf, hs.1, hs.2]
  · rw [if_pos (by simp [hf])]
    exact iff_of_false nofun fun h => hf h.1

/-- Without links, what a path locates is a directory, a file under the last part of the path, or a free place. -/
theorem leads_of_locate {fs : FileSystem} (hl : fs.LinkFree) {p : Path} {place : Place} (h : fs.locate p = .ok place) :
    Leads fs (Path.partsToDirectory p) place := by
  obtain ⟨-, -, hd, hw⟩ := (locateParts_eq_ok_iff fs true p _ place).mp h
  obtain ⟨follow, hf⟩ := exists_walk_eq fs true linkLimit
  rw [hf] at hw
  exact leads_of_descend hl hd hw

/-- A path can be read if and only if it leads to a file, and its content is what is read. -/
theorem read_eq_ok_iff (fs : FileSystem) (p : Path) (content : ByteArray) :
    fs.read p = .ok content ↔ ∃ l, fs.locate p = .ok (.found l) ∧ fs.node? l = some (.file content) := by
  rw [read]
  cases hp : fs.locate p with
  | error fault => simp
  | ok place =>
    cases place with
    | vacant parent name => simp
    | found l =>
      cases hn : fs.node? l with
      | none => simp [hn]
      | some node => cases node <;> simp [hn]

/-- A path finds a location if and only if it leads there and something is there. -/
theorem find?_eq_some_iff (fs : FileSystem) (p : Path) (l : Location) :
    fs.find? p = some l ↔ fs.locate p = .ok (.found l) := by
  rw [find?]
  split
  · rename_i l' h
    simp [h]
  · rename_i h
    exact iff_of_false nofun (h l)

/-- Something is where a path is found to lead. -/
theorem isSome_of_locate {fs : FileSystem} (hl : fs.LinkFree) {p : Path} {l : Location}
    (h : fs.locate p = .ok (.found l)) : (fs.node? l).isSome = true := by
  cases leads_of_locate hl h with
  | directory hd => rw [hd]; rfl
  | file hf => rw [hf]; rfl

/-- A path to a file ends in its name. -/
theorem fileName?_of_locate {fs : FileSystem} (hl : fs.LinkFree) {p : Path} {l : Location} {content : ByteArray}
    (h : fs.locate p = .ok (.found l)) (hc : fs.node? l = some (.file content)) :
    ∃ name parent, l = name :: parent ∧ Path.fileName? p = some name := by
  cases leads_of_locate hl h with
  | directory hd => nomatch hd.symm.trans hc
  | @file name parent content' hf hlast =>
    have hn := entryName_of_isEntryName (isEntryName_of_node? hf)
    exact ⟨name, parent, rfl, Path.fileName?_of_getLast?_parts hn hlast⟩

/-! ## Growth -/

/-- `after` is `fs` with more files, or other contents in its files, and nothing else. -/
structure Grown (fs after : FileSystem) : Prop where
  workDir : after.workDir = fs.workDir
  directory : ∀ l, after.node? l = some .directory ↔ fs.node? l = some .directory
  file : ∀ l content, fs.node? l = some (.file content) → ∃ content', after.node? l = some (.file content')
  linkFree : after.LinkFree

theorem Grown.refl {fs : FileSystem} (h : fs.LinkFree) : Grown fs fs :=
  ⟨rfl, fun _ => Iff.rfl, fun _ content hc => ⟨content, hc⟩, h⟩

theorem Grown.trans {fs mid after : FileSystem} (h : Grown fs mid) (h' : Grown mid after) : Grown fs after := by
  refine ⟨h'.workDir.trans h.workDir, fun l => (h'.directory l).trans (h.directory l), ?_, h'.linkFree⟩
  intro l content hc
  obtain ⟨content', hc'⟩ := h.file l content hc
  exact h'.file l content' hc'

/-- What is at a location is still something of the same kind. -/
theorem Grown.isSome {fs after : FileSystem} (h : Grown fs after) (hl : fs.LinkFree) {l : Location}
    (hs : (fs.node? l).isSome = true) : (after.node? l).isSome = true := by
  obtain ⟨node, hn⟩ := Option.isSome_iff_exists.mp hs
  cases node with
  | directory => rw [(h.directory l).mpr hn]; rfl
  | file content =>
    obtain ⟨content', hc⟩ := h.file l content hn
    rw [hc]
    rfl
  | link target => exact absurd hn (hl l target)

/-- What is new is a file: there are no new directories, and there are no links. -/
theorem Grown.exists_file_of_new {fs after : FileSystem} (h : Grown fs after) {l : Location} {node : Node}
    (hold : fs.node? l = none) (hnew : after.node? l = some node) : ∃ content, node = .file content := by
  cases node with
  | directory => nomatch hold.symm.trans ((h.directory l).mp hnew)
  | file content => exact ⟨content, rfl⟩
  | link target => exact absurd hnew (h.linkFree l target)

/-- A way leads to the same location after growth, if something is there then. -/
theorem Grown.descend {fs after : FileSystem} (h : Grown fs after) (hl : fs.LinkFree) {last : Bool}
    {follow follow' : Path → Location → List Text → Except FileFault Place} {here : Location} {parts : List Text}
    {place : Place} (hd : descend fs last follow here parts = .ok place)
    (hs : (after.node? place.location).isSome = true) :
    descend after last follow' here parts = .ok (.found place.location) := by
  induction parts generalizing here with
  | nil =>
    cases hd
    rfl
  | cons part rest ih =>
    rw [FileSystem.descend] at hd ⊢
    split at hd
    · rename_i hp
      rw [if_pos hp]
      exact ih hd
    · rename_i hp
      rw [if_neg hp]
      split at hd
      · rename_i hp
        rw [if_pos hp]
        exact ih hd
      · rename_i hp
        rw [if_neg hp]
        split at hd
        · rename_i hn
          rw [if_pos hn]
          split at hd
          · rename_i hnode
            rw [(h.directory _).mpr hnode]
            exact ih hd
          · rename_i content hnode
            obtain ⟨content', hc⟩ := h.file _ content hnode
            rw [hc]
            split at hd
            · rename_i hr
              cases hd
              exact if_pos hr
            · nomatch hd
          · rename_i target hnode
            exact absurd hnode (hl _ _)
          · rename_i hnode
            split at hd
            · rename_i hr
              cases hd
              obtain ⟨node, hnew⟩ := Option.isSome_iff_exists.mp hs
              rw [Place.location] at hnew
              obtain ⟨content, rfl⟩ := h.exists_file_of_new hnode hnew
              rw [hnew]
              exact if_pos hr
            · nomatch hd
        · nomatch hd

/-- A path keeps leading to its place after growth, which it finds if something is there then. -/
theorem Grown.locate {fs after : FileSystem} (h : Grown fs after) (hl : fs.LinkFree) {p : Path} {place : Place}
    (hp : fs.locate p = .ok place) (hs : (after.node? place.location).isSome = true) :
    after.locate p = .ok (.found place.location) := by
  obtain ⟨hf, hne, hd, hw⟩ := (locateParts_eq_ok_iff fs true p _ place).mp hp
  obtain ⟨follow, hfollow⟩ := exists_walk_eq fs true linkLimit
  obtain ⟨follow', hfollow'⟩ := exists_walk_eq after true linkLimit
  rw [hfollow] at hw
  refine (locateParts_eq_ok_iff after true p _ _).mpr ⟨hf, hne, ?_, ?_⟩
  · rw [h.workDir]
    exact (h.directory _).mpr hd
  · rw [h.workDir, hfollow']
    exact h.descend hl hw hs

/-- A path keeps leading to what it led to. -/
theorem Grown.locate_found {fs after : FileSystem} (h : Grown fs after) (hl : fs.LinkFree) {p : Path} {l : Location}
    (hp : fs.locate p = .ok (.found l)) : after.locate p = .ok (.found l) :=
  h.locate hl hp (h.isSome hl (isSome_of_locate hl hp))

/-- A path finds after growth the location that it found before. -/
theorem Grown.find? {fs after : FileSystem} (h : Grown fs after) (hl : fs.LinkFree) {p : Path} {l : Location}
    (hp : fs.find? p = some l) : after.find? p = some l :=
  (find?_eq_some_iff after p l).mpr (h.locate_found hl ((find?_eq_some_iff fs p l).mp hp))

/-- A path that leads to something is a path to something. -/
theorem has_of_locate {fs : FileSystem} (hl : fs.LinkFree) {p : Path} {l : Location}
    (h : fs.locate p = .ok (.found l)) : fs.has p = true := by
  rw [has, lookup?, (find?_eq_some_iff fs p l).mpr h]
  exact isSome_of_locate hl h

/-- A path to something is one after growth. -/
theorem Grown.has {fs after : FileSystem} (h : Grown fs after) (hl : fs.LinkFree) {p : Path} (hp : fs.has p = true) :
    after.has p = true := by
  rw [FileSystem.has, lookup?] at hp
  cases hf : fs.find? p with
  | none => simp [hf] at hp
  | some l => exact has_of_locate h.linkFree (h.locate_found hl ((find?_eq_some_iff fs p l).mp hf))

/-- No node is lost in growth. -/
theorem Grown.length_le {fs after : FileSystem} (h : Grown fs after) (hl : fs.LinkFree) :
    fs.nodes.length ≤ after.nodes.length := by
  rw [← List.length_map Prod.fst, ← @List.length_map _ _ after.nodes Prod.fst]
  refine (List.subperm_of_subset fs.distinct ?_).length_le
  intro l hm
  obtain ⟨entry, he, rfl⟩ := List.mem_map.mp hm
  obtain ⟨name, parent, hn, -⟩ := fs.named entry he
  have hs : fs.node? (name :: parent) = some entry.2 := by
    rw [node?_eq_some_iff, ← hn]
    exact he
  obtain ⟨node, hnode⟩ := Option.isSome_iff_exists.mp (h.isSome hl (Option.isSome_iff_exists.mpr ⟨_, hs⟩))
  rw [hn]
  exact List.mem_map.mpr ⟨_, (node?_eq_some_iff after name parent node).mp hnode, rfl⟩

/-! ## Storing a file -/

/-- `after` is `fs` with `content` in the file that a path leads to, which is at `name :: parent`. -/
structure StoredAt (fs after : FileSystem) (p : Path) (content : ByteArray) (name : Text) (parent : Location) : Prop where
  fileName : Path.fileName? p = some name
  located : after.locate p = .ok (.found (name :: parent))
  stored : after.node? (name :: parent) = some (.file content)
  others : ∀ l, l ≠ name :: parent → after.node? l = fs.node? l
  grown : Grown fs after

/-- `after` is `fs` with `content` in the file that a path leads to. -/
def Stored (fs after : FileSystem) (p : Path) (content : ByteArray) : Prop :=
  ∃ name parent, StoredAt fs after p content name parent

/-- What is read is stored already. -/
theorem stored_of_read {fs : FileSystem} (hl : fs.LinkFree) {p : Path} {content : ByteArray}
    (h : fs.read p = .ok content) : Stored fs fs p content := by
  obtain ⟨l, hp, hc⟩ := (read_eq_ok_iff fs p content).mp h
  obtain ⟨name, parent, rfl, hf⟩ := fileName?_of_locate hl hp hc
  exact ⟨name, parent, hf, hp, hc, fun _ _ => rfl, Grown.refl hl⟩

/-- Putting a file where a file or nothing is makes a file system grow. -/
theorem grown_put {fs : FileSystem} (hl : fs.LinkFree) {parent : Location} {name : Text} (hn : isEntryName name = true)
    (hp : fs.node? parent = some .directory) (hd : fs.node? (name :: parent) ≠ some .directory) (content : ByteArray) :
    Grown fs (fs.put parent name (.file content)) := by
  refine ⟨workDir_put _ _ _ _, fun l => ?_, fun l c hc => ?_, fun l target => ?_⟩
  · rw [node?_put hn hp hd]
    split
    · rename_i he
      subst he
      exact iff_of_false nofun hd
    · exact Iff.rfl
  · rw [node?_put hn hp hd]
    split
    · exact ⟨content, rfl⟩
    · exact ⟨c, hc⟩
  · rw [node?_put hn hp hd]
    split
    · nofun
    · exact hl l target

/-- A file that is put where a path leads is stored there. -/
theorem stored_put {fs : FileSystem} (hl : fs.LinkFree) {p : Path} {place : Place} {parent : Location} {name : Text}
    (hp : fs.locate p = .ok place) (hloc : place.location = name :: parent)
    (hlast : (Path.partsToDirectory p).getLast? = some name) (hn : isEntryName name = true)
    (hdir : fs.node? parent = some .directory) (hd : fs.node? (name :: parent) ≠ some .directory) (content : ByteArray) :
    Stored fs (fs.put parent name (.file content)) p content := by
  have hg := grown_put hl hn hdir hd content
  have hself : (fs.put parent name (.file content)).node? (name :: parent) = some (.file content) := by
    rw [node?_put hn hdir hd, if_pos rfl]
  refine ⟨name, parent, Path.fileName?_of_getLast?_parts (entryName_of_isEntryName hn) hlast, ?_, hself, ?_, hg⟩
  · rw [← hloc]
    exact hg.locate hl hp (by rw [hloc, hself]; rfl)
  · intro l hne
    rw [node?_put hn hdir hd, if_neg hne]

/-- Without links, what is written at a path is stored there. -/
theorem stored_of_write {fs after : FileSystem} (hl : fs.LinkFree) {p : Path} {content : ByteArray}
    (h : fs.write p content = .ok after) : Stored fs after p content := by
  rw [write] at h
  split at h
  · nomatch h
  · rename_i parent name hp
    cases h
    cases leads_of_locate hl hp with
    | vacant hd hv hn hlast => exact stored_put hl hp rfl hlast hn hd (by rw [hv]; nofun) content
  · rename_i l hp
    split at h
    · rename_i name parent c hc
      cases h
      cases leads_of_locate hl hp with
      | directory hd => nomatch hd.symm.trans hc
      | file hf hlast =>
        exact stored_put hl hp rfl hlast (isEntryName_of_node? hf) (directory_of_node? hf) (by rw [hf]; nofun) content
    · nomatch h

end FileSystem

end ModelStubs
