import ModelStubs.Path
import ModelStubs.Sort
import ModelStubs.Text.Encoding

/-!
# File systems

A file system is a finite tree of directories, files and symbolic links. It is kept as the list of its nodes with their
locations, so that what an operation changes can be said location by location: `put` changes what is at one location,
and `remove` empties a location and everything below it.
-/

namespace ModelStubs

/-- The names on the way from the root to a node, the node's own name first. The root is the empty location. -/
abbrev Location := List Text

/-- What can be at a location. -/
inductive Node
  | directory
  | file (content : ByteArray)
  /-- A symbolic link, with the path it stands for as written. -/
  | link (target : Path)
  deriving DecidableEq

/-- Whether a directory can hold an entry of this name: at least one character and at most 255 bytes, no slash and no
zero character, and neither of the two names that every directory gives to itself and to its parent. -/
def isEntryName (name : Text) : Bool :=
  name ≠ [] && name ≠ ['.'] && name ≠ ['.', '.'] && !name.contains '/' && !name.contains '\x00' &&
    Text.byteLength name ≤ 255

/-- A file system, with the directory at which relative paths start. Every node but the root has a name that a directory
can hold and stands in a directory. -/
structure FileSystem where
  nodes : List (Location × Node)
  workDir : Location
  distinct : (nodes.map (·.1)).Nodup
  named : ∀ entry ∈ nodes, ∃ name parent, entry.1 = name :: parent ∧ isEntryName name = true
  closed : ∀ name parent node, (name :: parent, node) ∈ nodes → parent = [] ∨ (parent, Node.directory) ∈ nodes

namespace FileSystem

/-- What is at a location. The root is always a directory. -/
def node? (fs : FileSystem) : Location → Option Node
  | [] => some .directory
  | name :: parent => (fs.nodes.find? (·.1 = name :: parent)).map (·.2)

/-- A node is listed exactly at the location where it is found. -/
theorem node?_eq_some_iff (fs : FileSystem) (name : Text) (parent : Location) (node : Node) :
    fs.node? (name :: parent) = some node ↔ (name :: parent, node) ∈ fs.nodes := by
  have key : ∀ l : List (Location × Node), (l.map (·.1)).Nodup →
      ((l.find? (·.1 = name :: parent)).map (·.2) = some node ↔ (name :: parent, node) ∈ l) := by
    intro l
    induction l with
    | nil => simp
    | cons e l ih =>
      intro hd
      rw [List.map_cons, List.nodup_cons] at hd
      by_cases he : e.1 = name :: parent
      · rw [List.find?_cons_of_pos (by simpa using he)]
        constructor
        · intro h
          rw [Option.map_some, Option.some.injEq] at h
          rw [← h, ← he]
          exact List.mem_cons_self
        · intro h
          rcases List.mem_cons.mp h with h | h
          · rw [← h, Option.map_some]
          · exact absurd (List.mem_map.mpr ⟨_, h, he.symm⟩) hd.1
      · rw [List.find?_cons_of_neg (by simpa using he), ih hd.2, List.mem_cons]
        constructor
        · exact Or.inr
        · rintro (h | h)
          · exact absurd (by rw [← h]) he
          · exact h
  exact key fs.nodes fs.distinct

/-- A file system with nothing in it but its root, and the location at which relative paths start. -/
def bare (workDir : Location) : FileSystem where
  nodes := []
  workDir := workDir
  distinct := List.nodup_nil
  named := fun _ h => absurd h List.not_mem_nil
  closed := fun _ _ _ h => absurd h List.not_mem_nil

/-- The file system with `node` put under `name` in the directory `parent`, in place of a file or a link that is there.
Nothing changes if `parent` is no directory, if no entry can have that name, or if a directory is already there. -/
def put (fs : FileSystem) (parent : Location) (name : Text) (node : Node) : FileSystem :=
  if h : isEntryName name = true ∧ fs.node? parent = some .directory ∧
      fs.node? (name :: parent) ≠ some .directory then
    { nodes := (name :: parent, node) :: fs.nodes.filter (·.1 ≠ name :: parent)
      workDir := fs.workDir
      distinct := by
        rw [List.map_cons, List.nodup_cons]
        refine ⟨?_, ?_⟩
        · intro hm
          obtain ⟨e, he, hl⟩ := List.mem_map.mp hm
          have := (List.mem_filter.mp he).2
          simp [hl] at this
        · exact (List.filter_sublist.map _).nodup fs.distinct
      named := by
        intro entry he
        rcases List.mem_cons.mp he with rfl | he
        · exact ⟨name, parent, rfl, h.1⟩
        · exact fs.named entry (List.mem_filter.mp he).1
      closed := by
        obtain ⟨_, hp, hn⟩ := h
        have keep : ∀ l : Location, l ≠ name :: parent → (l, Node.directory) ∈ fs.nodes →
            (l, Node.directory) ∈ (name :: parent, node) :: fs.nodes.filter (·.1 ≠ name :: parent) := by
          intro l hl hm
          exact List.mem_cons_of_mem _ (List.mem_filter.mpr ⟨hm, by simpa using hl⟩)
        intro n p x hx
        rcases List.mem_cons.mp hx with hx | hx
        · rw [Prod.mk.injEq, List.cons.injEq] at hx
          obtain ⟨⟨_, rfl⟩, _⟩ := hx
          cases p with
          | nil => exact Or.inl rfl
          | cons m q =>
            refine Or.inr (keep _ ?_ ((node?_eq_some_iff fs m q _).mp hp))
            intro hc
            have := congrArg List.length hc
            simp at this
        · rcases fs.closed n p x (List.mem_filter.mp hx).1 with hr | hr
          · exact Or.inl hr
          · refine Or.inr (keep p ?_ hr)
            rintro rfl
            exact hn ((node?_eq_some_iff fs name parent _).mpr hr) }
  else fs

/-- A file system with nothing in it but one directory, at which relative paths start. -/
def empty (name : Text) : FileSystem := (bare [name]).put [] name .directory

/-- The file system without what is at a location and below it. The root itself stays. -/
def remove (fs : FileSystem) (l : Location) : FileSystem where
  nodes := fs.nodes.filter fun e => ¬ l.isSuffixOf e.1
  workDir := fs.workDir
  distinct := (List.filter_sublist.map _).nodup fs.distinct
  named := fun entry he => fs.named entry (List.mem_filter.mp he).1
  closed := by
    intro n p x hx
    obtain ⟨hm, hs⟩ := List.mem_filter.mp hx
    rcases fs.closed n p x hm with h | h
    · exact Or.inl h
    · refine Or.inr (List.mem_filter.mpr ⟨h, ?_⟩)
      simp only [List.isSuffixOf_iff_suffix, decide_eq_true_eq] at hs ⊢
      exact fun hc => hs (hc.trans (List.suffix_cons n p))

/-- The entries of a directory in the order of their names. -/
def entries (fs : FileSystem) (l : Location) : List (Text × Node) :=
  sortBy (fun a b => Text.before a.1 b.1) (fs.nodes.filterMap fun e =>
    match e.1 with
    | [] => none
    | name :: parent => if parent = l then some (name, e.2) else none)

end FileSystem

end ModelStubs
