import ModelStubs.Proofs.FileSystem

/-!
# Routes

A path that leads somewhere does so by a route: through directories and links to a directory, or to a file or a free place
under the last name (`Route`). Following a way is finding its route (`route_of_walk`, `Route.walk_eq`), so what is to be
known about all ways is shown by induction on routes, links included: a route ends at a directory, a file or a free place
in a directory (`Route.settled`), it goes on from the directory that it ends at (`Route.walk_append`), and it stays where
it was when a file is stored at its end (`Route.stored`).
-/

namespace ModelStubs.FileSystem

variable {fs : FileSystem} {n : Nat} {here d l : Location} {part name : Text} {rest a b : List Text} {place : Place}
  {target p : Path} {content : ByteArray}

/-! ## Following a way part by part -/

theorem walk_nil (fs : FileSystem) (last : Bool) (n : Nat) (here : Location) :
    walk fs last n here [] = .ok (.found here) := by
  cases n <;> rfl

/-- A part that is a dot stays where it is. -/
@[simp] theorem walk_dot (fs : FileSystem) (last : Bool) (n : Nat) (here : Location) (rest : List Text) :
    walk fs last n here (['.'] :: rest) = walk fs last n here rest := by
  cases n <;> rfl

/-- A part that is two dots goes to the parent. -/
@[simp] theorem walk_dots (fs : FileSystem) (last : Bool) (n : Nat) (here : Location) (rest : List Text) :
    walk fs last n here (['.', '.'] :: rest) = walk fs last n here.tail rest := by
  cases n <;> rfl

/-- What comes of a name on the way. -/
theorem walk_name (fs : FileSystem) (n : Nat) (here : Location) (rest : List Text) (hn : isEntryName part = true) :
    walk fs true n here (part :: rest) =
      match fs.node? (part :: here) with
      | some .directory => walk fs true n (part :: here) rest
      | some (.file _) => if rest = [] then .ok (.found (part :: here)) else .error .notDirectory
      | some (.link target) =>
        match n with
        | 0 => .error .tooManyLinks
        | n + 1 => walk fs true n (startOf target here) (Path.partsToDirectory target ++ rest)
      | none => if rest = [] then .ok (.vacant here part) else .error .missing := by
  have hname := entryName_of_isEntryName hn
  cases n with
  | zero =>
    rw [walk, descend, if_neg hname.ne_dot, if_neg hname.ne_dots, if_pos hn]
    cases fs.node? (part :: here) with
    | none => rfl
    | some node => cases node <;> simp
  | succ n =>
    rw [walk, descend, if_neg hname.ne_dot, if_neg hname.ne_dots, if_pos hn]
    cases fs.node? (part :: here) with
    | none => rfl
    | some node => cases node <;> simp

/-- A way fails at a part that no entry can be named by. -/
theorem walk_badName (fs : FileSystem) (n : Nat) (here : Location) (rest : List Text) (hd : part ≠ ['.'])
    (hdd : part ≠ ['.', '.']) (hn : isEntryName part ≠ true) : walk fs true n here (part :: rest) = .error .badName := by
  cases n <;> rw [walk, descend, if_neg hd, if_neg hdd, if_neg hn]

/-! ## Routes -/

/-- The route that a way of parts takes from a directory if so many links may be followed. -/
inductive Route (fs : FileSystem) : Nat → Location → List Text → Place → Prop
  | here {n : Nat} {here : Location} : Route fs n here [] (.found here)
  | dot {n : Nat} {here : Location} {rest : List Text} {place : Place} : Route fs n here rest place →
      Route fs n here (['.'] :: rest) place
  | dots {n : Nat} {here : Location} {rest : List Text} {place : Place} : Route fs n here.tail rest place →
      Route fs n here (['.', '.'] :: rest) place
  | enter {n : Nat} {here : Location} {name : Text} {rest : List Text} {place : Place} :
      fs.node? (name :: here) = some .directory → Route fs n (name :: here) rest place →
      Route fs n here (name :: rest) place
  | follow {n : Nat} {here : Location} {name : Text} {rest : List Text} {place : Place} {target : Path} :
      fs.node? (name :: here) = some (.link target) →
      Route fs n (startOf target here) (Path.partsToDirectory target ++ rest) place →
      Route fs (n + 1) here (name :: rest) place
  | file {n : Nat} {here : Location} {name : Text} {content : ByteArray} :
      fs.node? (name :: here) = some (.file content) → Route fs n here [name] (.found (name :: here))
  | vacant {n : Nat} {here : Location} {name : Text} : isEntryName name = true → fs.node? (name :: here) = none →
      Route fs n here [name] (.vacant here name)

/-- A way that leads somewhere has a route. A link puts its own names in front of the rest, so the induction on the names is
inside the one on the links. -/
theorem route_of_walk (h : walk fs true n here rest = .ok place) : Route fs n here rest place := by
  induction n using Nat.strongRecOn generalizing here rest with
  | ind n ihn =>
    induction rest generalizing here with
    | nil =>
      rw [walk_nil] at h
      cases h
      exact .here
    | cons part rest ih =>
      by_cases hd : part = ['.']
      · subst hd
        rw [walk_dot] at h
        exact .dot (ih h)
      by_cases hdd : part = ['.', '.']
      · subst hdd
        rw [walk_dots] at h
        exact .dots (ih h)
      by_cases hn : isEntryName part = true
      · rw [walk_name fs n here rest hn] at h
        split at h
        · rename_i hnode
          exact .enter hnode (ih h)
        · rename_i content hnode
          split at h
          · rename_i hr
            cases h
            rw [hr]
            exact .file hnode
          · nomatch h
        · rename_i target hnode
          cases n with
          | zero => nomatch h
          | succ n => exact .follow hnode (ihn n (Nat.lt_succ_self n) h)
        · rename_i hnode
          split at h
          · rename_i hr
            cases h
            rw [hr]
            exact .vacant hn hnode
          · nomatch h
      · rw [walk_badName fs n here rest hd hdd hn] at h
        nomatch h

/-- A route is the way that is followed to its place. -/
theorem Route.walk_eq (h : Route fs n here rest place) : walk fs true n here rest = .ok place := by
  induction h with
  | here => exact walk_nil _ _ _ _
  | dot _ ih => rw [walk_dot, ih]
  | dots _ ih => rw [walk_dots, ih]
  | enter hnode _ ih =>
    rw [walk_name _ _ _ _ (isEntryName_of_node? hnode), hnode]
    exact ih
  | follow hnode _ ih =>
    rw [walk_name _ _ _ _ (isEntryName_of_node? hnode), hnode]
    exact ih
  | file hnode =>
    rw [walk_name _ _ _ _ (isEntryName_of_node? hnode), hnode]
    rfl
  | vacant hn hnode =>
    rw [walk_name _ _ _ _ hn, hnode]
    rfl

/-! ## Where routes end -/

/-- What a route can end at: a directory, a file, or a free place in a directory. -/
inductive Settled (fs : FileSystem) : Place → Prop
  | directory {l : Location} : fs.node? l = some .directory → Settled fs (.found l)
  | file {name : Text} {parent : Location} {content : ByteArray} : fs.node? (name :: parent) = some (.file content) →
      Settled fs (.found (name :: parent))
  | vacant {name : Text} {parent : Location} : fs.node? parent = some .directory → fs.node? (name :: parent) = none →
      isEntryName name = true → Settled fs (.vacant parent name)

theorem directory_startOf (hd : fs.node? here = some .directory) (p : Path) :
    fs.node? (startOf p here) = some .directory := by
  rw [startOf]
  split
  · rfl
  · exact hd

/-- A route from a directory ends at a directory, a file or a free place. -/
theorem Route.settled (h : Route fs n here rest place) (hd : fs.node? here = some .directory) : Settled fs place := by
  induction h with
  | here => exact .directory hd
  | dot _ ih => exact ih hd
  | dots _ ih => exact ih (directory_tail hd)
  | enter hnode _ ih => exact ih hnode
  | follow _ _ ih => exact ih (directory_startOf hd _)
  | file hnode => exact .file hnode
  | vacant hn hnode => exact .vacant hd hnode hn

/-- A path that leads somewhere leads to a directory, a file or a free place. -/
theorem settled_of_locate (h : fs.locate p = .ok place) : Settled fs place := by
  obtain ⟨-, -, hd, hw⟩ := (locateParts_eq_ok_iff fs true p _ place).mp h
  exact (route_of_walk hw).settled hd

/-- A way that leads to a directory goes on from there. -/
theorem Route.walk_append (h : Route fs n here a (.found d)) (hd : fs.node? d = some .directory) :
    ∃ k, ∀ b, walk fs true n here (a ++ b) = walk fs true k d b := by
  generalize hp : Place.found d = place at h
  induction h with
  | @here n here =>
    cases hp
    exact ⟨n, fun _ => rfl⟩
  | dot _ ih =>
    obtain ⟨k, hk⟩ := ih hp
    exact ⟨k, fun b => by rw [List.cons_append, walk_dot, hk]⟩
  | dots _ ih =>
    obtain ⟨k, hk⟩ := ih hp
    exact ⟨k, fun b => by rw [List.cons_append, walk_dots, hk]⟩
  | enter hnode _ ih =>
    obtain ⟨k, hk⟩ := ih hp
    refine ⟨k, fun b => ?_⟩
    rw [List.cons_append, walk_name _ _ _ _ (isEntryName_of_node? hnode), hnode]
    exact hk b
  | follow hnode _ ih =>
    obtain ⟨k, hk⟩ := ih hp
    refine ⟨k, fun b => ?_⟩
    rw [List.cons_append, walk_name _ _ _ _ (isEntryName_of_node? hnode), hnode]
    simp only
    rw [← List.append_assoc]
    exact hk b
  | file hnode =>
    cases hp
    nomatch hnode.symm.trans hd
  | vacant => nomatch hp

/-- A way that leads anywhere leads to a directory at each point before its end. -/
theorem Route.exists_directory (h : Route fs n here (a ++ b) place) (hb : b ≠ [])
    (hd : fs.node? here = some .directory) : ∃ d, Route fs n here a (.found d) ∧ fs.node? d = some .directory := by
  generalize hab : a ++ b = parts at h
  induction h generalizing a with
  | here => exact absurd (List.append_eq_nil_iff.mp hab).2 hb
  | dot _ ih =>
    cases a with
    | nil => exact ⟨_, .here, hd⟩
    | cons part a =>
      obtain ⟨rfl, hrest⟩ := List.cons.inj hab
      obtain ⟨d, hr, hn⟩ := ih hd hrest
      exact ⟨d, .dot hr, hn⟩
  | dots _ ih =>
    cases a with
    | nil => exact ⟨_, .here, hd⟩
    | cons part a =>
      obtain ⟨rfl, hrest⟩ := List.cons.inj hab
      obtain ⟨d, hr, hn⟩ := ih (directory_tail hd) hrest
      exact ⟨d, .dots hr, hn⟩
  | enter hnode _ ih =>
    cases a with
    | nil => exact ⟨_, .here, hd⟩
    | cons part a =>
      obtain ⟨rfl, hrest⟩ := List.cons.inj hab
      obtain ⟨d, hr, hn⟩ := ih hnode hrest
      exact ⟨d, .enter hnode hr, hn⟩
  | follow hnode _ ih =>
    cases a with
    | nil => exact ⟨_, .here, hd⟩
    | cons part a =>
      obtain ⟨rfl, hrest⟩ := List.cons.inj hab
      obtain ⟨d, hr, hn⟩ := ih (directory_startOf hd _) (by rw [List.append_assoc, ← hrest]; rfl)
      exact ⟨d, .follow hnode hr, hn⟩
  | file =>
    cases a with
    | nil => exact ⟨_, .here, hd⟩
    | cons part a => exact absurd (List.append_eq_nil_iff.mp (List.cons.inj hab).2).2 hb
  | vacant =>
    cases a with
    | nil => exact ⟨_, .here, hd⟩
    | cons part a => exact absurd (List.append_eq_nil_iff.mp (List.cons.inj hab).2).2 hb

/-! ## Entries of directories -/

/-- The parts of a path to a directory lead there, whether or not a slash at its end asks for one. -/
theorem walk_partsToDirectory (hd : fs.node? d = some .directory) (hh : fs.node? here = some .directory) :
    walk fs true n here (Path.partsToDirectory p) = .ok (.found d) ↔
      walk fs true n here (Path.parts p) = .ok (.found d) := by
  rw [Path.partsToDirectory]
  split
  · constructor
    · intro h
      obtain ⟨e, hr, he⟩ := (route_of_walk h).exists_directory (by simp) hh
      obtain ⟨k, hk⟩ := hr.walk_append he
      rw [hk, walk_dot, walk_nil] at h
      cases h
      exact hr.walk_eq
    · intro h
      obtain ⟨k, hk⟩ := (route_of_walk h).walk_append hd
      rw [hk, walk_dot, walk_nil]
  · exact Iff.rfl

/-- An entry of a directory is looked for from where the directory is looked for. -/
theorem startOf_join {dir : Path} (hdir : dir ≠ []) (name : Text) (here : Location) :
    startOf (Path.join dir name) here = startOf dir here := by
  rw [startOf, Path.isAbsolute_join hdir, startOf]

/-- An entry of a directory that a path leads to is reached from there, by the path continued by its name, unless that path
is not followed. -/
theorem locate_join {dir : Path} (h : fs.find? dir = some here) (hd : fs.node? here = some .directory)
    (hn : isEntryName name = true) :
    ∃ k, fs.locate (Path.join dir name) =
      if Path.isFollowed (Path.join dir name) then walk fs true k here [name] else .error .badPath := by
  obtain ⟨-, hne, hs, hw⟩ := (locateParts_eq_ok_iff fs true dir _ _).mp ((find?_eq_some_iff fs dir here).mp h)
  obtain ⟨k, hk⟩ := (route_of_walk ((walk_partsToDirectory hd hs).mp hw)).walk_append hd
  have hname := entryName_of_isEntryName hn
  refine ⟨k, ?_⟩
  rw [locate, locateParts, startOf_join hne, Path.partsToDirectory_join dir hname, hk]
  cases Path.isFollowed (Path.join dir name) with
  | false => rfl
  | true =>
    have hstart : ¬(Path.join dir name = [] ∨ fs.node? (startOf dir fs.workDir) ≠ some .directory) := by
      simp [hs, Path.join_ne_nil dir hname]
    simp only [Bool.not_true, Bool.false_eq_true, if_false, if_neg hstart, if_true]

/-- A path continued by a name leads somewhere only from a directory. -/
theorem directory_of_join {dir : Path} (hdir : dir ≠ []) (hn : isEntryName name = true)
    (h : fs.locate (Path.join dir name) = .ok place) :
    ∃ here, fs.find? dir = some here ∧ fs.node? here = some .directory := by
  have hname := entryName_of_isEntryName hn
  obtain ⟨hf, -, hs, hw⟩ := (locateParts_eq_ok_iff fs true _ _ _).mp h
  rw [startOf_join hdir] at hs hw
  rw [Path.partsToDirectory_join dir hname] at hw
  obtain ⟨d, hr, hd⟩ := (route_of_walk hw).exists_directory (by simp) hs
  refine ⟨d, (find?_eq_some_iff fs dir d).mpr ((locateParts_eq_ok_iff fs true dir _ _).mpr ?_), hd⟩
  exact ⟨Path.isFollowed_of_join hf, hdir, hs, (walk_partsToDirectory hd hs).mpr hr.walk_eq⟩

/-- Where the path of an entry leads that is no link. -/
theorem find?_join {dir : Path} (h : fs.find? dir = some here) (hd : fs.node? here = some .directory) {node : Node}
    (hnode : fs.node? (name :: here) = some node) (hl : node.isLink = false) :
    fs.find? (Path.join dir name) = if Path.isFollowed (Path.join dir name) then some (name :: here) else none := by
  obtain ⟨k, hk⟩ := locate_join h hd (isEntryName_of_node? hnode)
  rw [find?, hk, walk_name _ _ _ _ (isEntryName_of_node? hnode), hnode]
  cases Path.isFollowed (Path.join dir name) with
  | false => rfl
  | true =>
    cases node with
    | directory => simp only [walk_nil, if_true]
    | file content => rfl
    | link target => cases hl

/-- The path of an entry that is no link is a path to something if and only if it is short enough to be followed. -/
theorem has_join {dir : Path} (h : fs.find? dir = some here) (hd : fs.node? here = some .directory) {node : Node}
    (hnode : fs.node? (name :: here) = some node) (hl : node.isLink = false) :
    fs.has (Path.join dir name) = Path.isFollowed (Path.join dir name) := by
  rw [has, lookup?, find?_join h hd hnode hl]
  cases Path.isFollowed (Path.join dir name) with
  | false => rfl
  | true =>
    rw [if_pos rfl, Option.bind_some, hnode]
    rfl

/-- The path of a file in a directory is a path to a file if and only if it is short enough to be followed. -/
theorem hasFile_join {dir : Path} (h : fs.find? dir = some here) (hd : fs.node? here = some .directory)
    (hf : fs.node? (name :: here) = some (.file content)) :
    fs.hasFile (Path.join dir name) = Path.isFollowed (Path.join dir name) := by
  rw [hasFile, lookup?, find?_join h hd hf rfl]
  cases Path.isFollowed (Path.join dir name) with
  | false => rfl
  | true => rw [if_pos rfl, Option.bind_some, hf]

/-- The empty path finds nothing. -/
theorem ne_nil_of_find? (h : fs.find? p = some l) : p ≠ [] :=
  ((locateParts_eq_ok_iff fs true p _ _).mp ((find?_eq_some_iff fs p l).mp h)).2.1

/-- A path leads to no link. -/
theorem isLink_of_find? (h : fs.find? p = some l) : ∃ node, fs.node? l = some node ∧ node.isLink = false := by
  cases settled_of_locate ((find?_eq_some_iff fs p l).mp h) with
  | directory hd => exact ⟨_, hd, rfl⟩
  | file hf => exact ⟨_, hf, rfl⟩

/-! ## Storing a file -/

/-- A way that leads to a file, or to a free place, leads there when a file is stored at that place. -/
theorem Route.stored {after : FileSystem} (h : Route fs n here rest place)
    (hold : ∀ node, fs.node? place.location = some node → ∃ old, node = .file old)
    (hnew : after.node? place.location = some (.file content))
    (ho : ∀ l, l ≠ place.location → after.node? l = fs.node? l) :
    Route after n here rest (.found place.location) := by
  induction h with
  | here => exact .here
  | dot _ ih => exact .dot (ih hold hnew ho)
  | dots _ ih => exact .dots (ih hold hnew ho)
  | enter hnode _ ih =>
    refine .enter ?_ (ih hold hnew ho)
    rw [ho _, hnode]
    intro he
    obtain ⟨_, hfile⟩ := hold _ (he ▸ hnode)
    nomatch hfile
  | follow hnode _ ih =>
    refine .follow ?_ (ih hold hnew ho)
    rw [ho _, hnode]
    intro he
    obtain ⟨_, hfile⟩ := hold _ (he ▸ hnode)
    nomatch hfile
  | file => exact .file hnew
  | vacant => exact .file hnew

/-- `after` is `fs` with a file put where a path leads to a file or to a free place in a directory. -/
structure PutAt (fs after : FileSystem) (p : Path) (content : ByteArray) (place : Place) (name : Text)
    (parent : Location) : Prop where
  located : fs.locate p = .ok place
  location : place.location = name :: parent
  isName : isEntryName name = true
  directory : fs.node? parent = some .directory
  old : ∀ node, fs.node? (name :: parent) = some node → ∃ content, node = .file content
  put : after = fs.put parent name (.file content)

/-- What is written at a path is put at a file or at a free place in a directory. -/
theorem putAt_of_write {after : FileSystem} (h : fs.write p content = .ok after) :
    ∃ place name parent, PutAt fs after p content place name parent := by
  rw [write] at h
  split at h
  · cases h
  · rename_i parent name hp
    cases h
    cases settled_of_locate hp with
    | vacant hdir hv hn =>
      refine ⟨_, name, parent, hp, rfl, hn, hdir, ?_, rfl⟩
      intro node hnode
      cases hv.symm.trans hnode
  · rename_i l hp
    split at h
    · rename_i name parent old hold
      cases h
      refine ⟨_, name, parent, hp, rfl, isEntryName_of_node? hold, directory_of_node? hold, ?_, rfl⟩
      intro node hnode
      exact ⟨old, Option.some.inj (hnode.symm.trans hold)⟩
    · cases h

variable {after : FileSystem} {parent : Location}

/-- The file is at its location, and everything else is as it was. -/
theorem PutAt.node? (h : PutAt fs after p content place name parent) (l : Location) :
    after.node? l = if l = name :: parent then some (.file content) else fs.node? l := by
  have hd : fs.node? (name :: parent) ≠ some .directory := by
    intro hd
    obtain ⟨_, he⟩ := h.old _ hd
    nomatch he
  rw [h.put, node?_put h.isName h.directory hd]

/-- The path leads to the file that was put. -/
theorem PutAt.locate (h : PutAt fs after p content place name parent) :
    after.locate p = .ok (.found (name :: parent)) := by
  obtain ⟨hf, hne, hd, hw⟩ := (locateParts_eq_ok_iff fs true p _ place).mp h.located
  have hwd : after.workDir = fs.workDir := by rw [h.put, workDir_put]
  have hstart : after.node? (startOf p fs.workDir) = some .directory := by
    rw [h.node?, if_neg, hd]
    intro he
    obtain ⟨_, hfile⟩ := h.old _ (he ▸ hd)
    nomatch hfile
  refine (locateParts_eq_ok_iff after true p _ _).mpr ⟨hf, hne, hwd ▸ hstart, ?_⟩
  have hold : ∀ node, fs.node? place.location = some node → ∃ old, node = .file old := by
    rw [h.location]
    exact h.old
  have hnew : after.node? place.location = some (.file content) := by rw [h.location, h.node?, if_pos rfl]
  have hroute := (route_of_walk hw).stored hold hnew fun l hl => by rw [h.node?, if_neg (h.location ▸ hl)]
  rw [hwd, ← h.location]
  exact hroute.walk_eq

/-- What is written to a path is read from it. -/
theorem read_of_write (h : fs.write p content = .ok after) : after.read p = .ok content := by
  obtain ⟨place, name, parent, hput⟩ := putAt_of_write h
  exact (read_eq_ok_iff after p content).mpr ⟨_, hput.locate, by rw [hput.node?, if_pos rfl]⟩

end ModelStubs.FileSystem
