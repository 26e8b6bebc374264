import ModelStubs.Proofs.Text
import ModelStubs.Toml.Reader

/-!
# No key stands twice

Every table that comes out of a document has its keys in ascending order, at every depth (`ordered_document?`): setting a key
keeps the order (`Entries.Ordered.set`), every change that a statement makes to the tables is made of such steps (`Keeps`),
and the values of the statements are made of inline tables and arrays of such values (`ordered_value?`). So the entries of a
table are what looking up its keys finds (`Entries.Ordered.find?_eq_some_iff`).
-/

namespace ModelStubs.Toml

/-! ## Ordered values -/

/-- Whether a value has no other values in it. -/
def Value.isLeaf : Value → Bool
  | .array _ => false
  | .tables _ => false
  | .table _ _ => false
  | _ => true

/-- A value in which the keys of every table ascend. -/
inductive Value.Ordered : Value → Prop
  | leaf {v : Value} : v.isLeaf = true → Ordered v
  | array {elements : List Value} : (∀ v ∈ elements, Ordered v) → Ordered (.array elements)
  | tables {elements : List Value} : (∀ v ∈ elements, Ordered v) → Ordered (.tables elements)
  | table {origin : TableOrigin} {entries : Entries} :
      (entries.Pairwise fun a b => Text.before a.1 b.1 = true) → (∀ e ∈ entries, Ordered e.2) →
      Ordered (.table origin entries)

/-- Entries whose keys ascend, with values in which the keys of every table do. -/
structure Entries.Ordered (es : Entries) : Prop where
  keys : es.Pairwise fun a b => Text.before a.1 b.1 = true
  values : ∀ e ∈ es, e.2.Ordered

/-- A table is ordered if and only if its entries are. -/
theorem ordered_table_iff (origin : TableOrigin) (es : Entries) :
    (Value.table origin es).Ordered ↔ Entries.Ordered es := by
  constructor
  · intro h
    cases h with
    | leaf hl => nomatch hl
    | table hk hv => exact ⟨hk, hv⟩
  · exact fun h => .table h.keys h.values

theorem ordered_array_iff (elements : List Value) : (Value.array elements).Ordered ↔ ∀ v ∈ elements, v.Ordered := by
  constructor
  · intro h
    cases h with
    | leaf hl => nomatch hl
    | array hv => exact hv
  · exact .array

theorem ordered_tables_iff (elements : List Value) : (Value.tables elements).Ordered ↔ ∀ v ∈ elements, v.Ordered := by
  constructor
  · intro h
    cases h with
    | leaf hl => nomatch hl
    | tables hv => exact hv
  · exact .tables

namespace Entries

variable {es out : Entries} {key part : Text} {v : Value} {path : List Text}

theorem mem_of_find? (h : es.find? key = some v) : (key, v) ∈ es := by
  induction es with
  | nil => nomatch h
  | cons e es ih =>
    obtain ⟨k, w⟩ := e
    rw [find?] at h
    split at h
    · rename_i hk
      cases h
      rw [hk]
      exact List.mem_cons_self
    · exact List.mem_cons_of_mem _ (ih h)

/-- An entry after a value was set is that of the value, or one from before. -/
theorem mem_set {e : Text × Value} (h : e ∈ es.set key v) : e = (key, v) ∨ e ∈ es := by
  induction es with
  | nil => exact Or.inl (List.mem_singleton.mp h)
  | cons d es ih =>
    obtain ⟨k, w⟩ := d
    rw [set] at h
    split at h
    · exact (List.mem_cons.mp h).imp_right (List.mem_cons_of_mem _)
    · split at h
      · exact List.mem_cons.mp h
      · rcases List.mem_cons.mp h with rfl | h
        · exact Or.inr List.mem_cons_self
        · exact (ih h).imp_right (List.mem_cons_of_mem _)

namespace Ordered

theorem nil : Ordered ([] : Entries) := ⟨.nil, nofun⟩

/-- Looking up a key finds the one entry with that key. -/
theorem find?_eq_some_iff (h : Ordered es) (key : Text) (v : Value) : es.find? key = some v ↔ (key, v) ∈ es := by
  refine ⟨mem_of_find?, fun hm => ?_⟩
  have hk := h.keys
  clear h
  induction es with
  | nil => nomatch hm
  | cons e es ih =>
    obtain ⟨k, w⟩ := e
    rw [List.pairwise_cons] at hk
    rw [find?]
    rcases List.mem_cons.mp hm with he | hm
    · cases he
      exact if_pos rfl
    · have hne : k ≠ key := by
        rintro rfl
        exact absurd (hk.1 _ hm) (by rw [Text.before_irrefl]; decide)
      rw [if_neg hne]
      exact ih hm hk.2

/-- A value that is found in ordered entries is ordered. -/
theorem value (h : Ordered es) (hv : es.find? key = some v) : v.Ordered := h.values _ (mem_of_find? hv)

/-- Setting an ordered value keeps entries ordered. -/
theorem set (h : Ordered es) (key : Text) (hv : v.Ordered) : Ordered (es.set key v) := by
  refine ⟨?_, fun e he => ?_⟩
  · have hk := h.keys
    clear h
    induction es with
    | nil => exact List.pairwise_singleton _ _
    | cons d es ih =>
      obtain ⟨k, w⟩ := d
      rw [List.pairwise_cons] at hk
      rw [Entries.set]
      split
      · rename_i he
        subst he
        exact List.pairwise_cons.mpr hk
      · rename_i hne
        split
        · rename_i hb
          refine List.pairwise_cons.mpr ⟨fun e he => ?_, List.pairwise_cons.mpr hk⟩
          rcases List.mem_cons.mp he with rfl | he
          · exact hb
          · exact Text.before_trans hb (hk.1 e he)
        · rename_i hb
          refine List.pairwise_cons.mpr ⟨fun e he => ?_, ih hk.2⟩
          rcases mem_set he with rfl | he
          · exact Decidable.byContradiction fun hnb =>
              hne (Text.eq_of_not_before (Bool.not_eq_true _ ▸ hnb) (Bool.not_eq_true _ ▸ hb))
          · exact hk.1 e he
  · rcases mem_set he with rfl | he
    · exact hv
    · exact h.values e he

end Ordered

/-! ## Adding to tables -/

/-- A change of a table that keeps its keys ascending, at every depth. -/
def Keeps (f : Entries → Option Entries) : Prop := ∀ es out, Ordered es → f es = some out → Ordered out

/-- A change that keeps a table ordered, made to the last of some ordered tables, keeps all of them ordered. -/
theorem ordered_updateLast {f : Entries → Option Entries} (hf : Keeps f) {elements changed : List Value}
    (he : ∀ v ∈ elements, v.Ordered) (h : updateLast f elements = some changed) : ∀ v ∈ changed, v.Ordered := by
  rw [updateLast] at h
  split at h
  · rename_i origin sub hlast
    obtain ⟨out, hout, rfl⟩ := Option.map_eq_some_iff.mp h
    intro v hv
    rcases List.mem_append.mp hv with hv | hv
    · exact he v ((List.dropLast_sublist _).subset hv)
    · rw [List.mem_singleton.mp hv, ordered_table_iff]
      exact hf sub out ((ordered_table_iff _ _).mp (he _ (List.mem_of_getLast? hlast))) hout
  · nomatch h

/-- Adding an ordered value under a path of keys keeps a table ordered. -/
theorem keeps_add (hv : v.Ordered) (path : List Text) (key : Text) : Keeps (add v path key) := by
  induction path with
  | nil =>
    intro es out h ho
    rw [add] at ho
    split at ho
    · nomatch ho
    · cases ho
      exact h.set key hv
  | cons part path ih =>
    intro es out h ho
    rw [add] at ho
    split at ho
    · obtain ⟨sub, hsub, rfl⟩ := Option.map_eq_some_iff.mp ho
      exact h.set part ((ordered_table_iff _ _).mpr (ih [] sub .nil hsub))
    · rename_i origin sub hf
      split at ho
      · obtain ⟨new, hnew, rfl⟩ := Option.map_eq_some_iff.mp ho
        exact h.set part ((ordered_table_iff _ _).mpr (ih sub new ((ordered_table_iff _ _).mp (h.value hf)) hnew))
      · nomatch ho
    · rename_i elements hf
      split at ho
      · nomatch ho
      · obtain ⟨new, hnew, rfl⟩ := Option.map_eq_some_iff.mp ho
        exact h.set part (.tables (ordered_updateLast ih ((ordered_tables_iff _).mp (h.value hf)) hnew))
    · nomatch ho

/-- Adding a pair with an ordered value keeps a table ordered. -/
theorem keeps_addPair (key : List Text) (hv : v.Ordered) : Keeps fun es => es.addPair key v := by
  intro es out h ho
  simp only [addPair] at ho
  split at ho
  · nomatch ho
  · exact keeps_add hv _ _ es out h ho

/-- Changes made one after the other keep what each of them keeps. -/
theorem keeps_foldlM {α : Type} {f : Entries → α → Option Entries} {xs : List α} (h : ∀ x ∈ xs, Keeps (f · x)) :
    Keeps fun es => xs.foldlM f es := by
  induction xs with
  | nil =>
    intro es out hes ho
    cases ho
    exact hes
  | cons x xs ih =>
    intro es out hes ho
    simp only [List.foldlM_cons, Option.bind_eq_bind, Option.bind_eq_some_iff] at ho
    obtain ⟨mid, hmid, ho⟩ := ho
    exact ih (fun y hy => h y (List.mem_cons_of_mem _ hy)) mid out (h x List.mem_cons_self es mid hes hmid) ho

/-- Adding pairs with ordered values keeps a table ordered. -/
theorem keeps_addPairs {pairs : List (List Text × Value)} (hp : ∀ pair ∈ pairs, pair.2.Ordered) :
    Keeps fun es => es.addPairs pairs :=
  keeps_foldlM fun pair hm => keeps_addPair pair.1 (hp pair hm)

/-- A change made at the end of a path of keys keeps a table ordered if it keeps the one there ordered. -/
theorem keeps_within {f : Entries → Option Entries} (hf : Keeps f) (path : List Text) : Keeps (within f path) := by
  induction path with
  | nil => exact hf
  | cons part path ih =>
    intro es out h ho
    rw [within] at ho
    split at ho
    · obtain ⟨sub, hsub, rfl⟩ := Option.map_eq_some_iff.mp ho
      exact h.set part ((ordered_table_iff _ _).mpr (ih [] sub .nil hsub))
    · rename_i origin sub hfind
      split at ho
      · nomatch ho
      · obtain ⟨new, hnew, rfl⟩ := Option.map_eq_some_iff.mp ho
        exact h.set part ((ordered_table_iff _ _).mpr (ih sub new ((ordered_table_iff _ _).mp (h.value hfind)) hnew))
    · rename_i elements hfind
      obtain ⟨new, hnew, rfl⟩ := Option.map_eq_some_iff.mp ho
      exact h.set part (.tables (ordered_updateLast ih ((ordered_tables_iff _).mp (h.value hfind)) hnew))
    · nomatch ho

/-- Opening a table of pairs with ordered values keeps the one around it ordered. -/
theorem keeps_openTable (key : Text) {pairs : List (List Text × Value)} (hp : ∀ pair ∈ pairs, pair.2.Ordered) :
    Keeps (openTable key pairs) := by
  intro es out h ho
  rw [openTable] at ho
  split at ho
  · obtain ⟨sub, hsub, rfl⟩ := Option.map_eq_some_iff.mp ho
    exact h.set key ((ordered_table_iff _ _).mpr (keeps_addPairs hp [] sub .nil hsub))
  · rename_i sub hf
    obtain ⟨new, hnew, rfl⟩ := Option.map_eq_some_iff.mp ho
    exact h.set key ((ordered_table_iff _ _).mpr
      (keeps_addPairs hp sub new ((ordered_table_iff _ _).mp (h.value hf)) hnew))
  · nomatch ho

/-- Opening an element of pairs with ordered values keeps the table around it ordered. -/
theorem keeps_openElement (key : Text) {pairs : List (List Text × Value)} (hp : ∀ pair ∈ pairs, pair.2.Ordered) :
    Keeps (openElement key pairs) := by
  intro es out h ho
  rw [openElement] at ho
  split at ho
  · obtain ⟨sub, hsub, rfl⟩ := Option.map_eq_some_iff.mp ho
    refine h.set key (.tables fun v hv => ?_)
    rw [List.mem_singleton.mp hv, ordered_table_iff]
    exact keeps_addPairs hp [] sub .nil hsub
  · rename_i elements hf
    obtain ⟨sub, hsub, rfl⟩ := Option.map_eq_some_iff.mp ho
    refine h.set key (.tables fun v hv => ?_)
    rcases List.mem_append.mp hv with hv | hv
    · exact (ordered_tables_iff _).mp (h.value hf) v hv
    · rw [List.mem_singleton.mp hv, ordered_table_iff]
      exact keeps_addPairs hp [] sub .nil hsub
  · nomatch ho

end Entries

/-! ## Values as they are read -/

/-- A reader of values that reads only ordered ones. -/
def ReadsOrdered (item : List Char → Option (Value × List Char)) : Prop :=
  ∀ cs v rest, item cs = some (v, rest) → v.Ordered

section Items

variable {item : List Char → Option (Value × List Char)} {cs rest : List Char}

/-- Elements that are read as ordered values are ordered. -/
theorem ordered_elements? (hi : ReadsOrdered item) {count : Nat} {vs : List Value}
    (h : elements? item count cs = some (vs, rest)) : ∀ v ∈ vs, v.Ordered := by
  induction count generalizing cs vs with
  | zero => nomatch h
  | succ count ih =>
    rw [elements?] at h
    simp only [Option.bind_eq_bind, Option.bind_eq_some_iff] at h
    obtain ⟨opened, -, h⟩ := h
    split at h
    · cases h
      nofun
    · simp only [Option.bind_eq_some_iff] at h
      obtain ⟨⟨v, more⟩, hv, next, -, h⟩ := h
      split at h
      · simp only [Option.bind_eq_some_iff] at h
        obtain ⟨⟨vs', more'⟩, hvs, h⟩ := h
        cases h
        intro w hw
        rcases List.mem_cons.mp hw with rfl | hw
        · exact hi _ _ _ hv
        · exact ih hvs w hw
      · cases h
        intro w hw
        rw [List.mem_singleton.mp hw]
        exact hi _ _ _ hv
      · nomatch h

/-- Pairs that are read into ordered entries leave them ordered if their values are read as ordered ones. -/
theorem ordered_inlinePairs? (hi : ReadsOrdered item) {count : Nat} {es out : Entries} (ho : Entries.Ordered es)
    (h : inlinePairs? item count es cs = some (out, rest)) : Entries.Ordered out := by
  induction count generalizing cs es with
  | zero => nomatch h
  | succ count ih =>
    rw [inlinePairs?] at h
    simp only [Option.bind_eq_bind, Option.bind_eq_some_iff] at h
    obtain ⟨opened, -, h⟩ := h
    split at h
    · cases h
      exact ho
    · simp only [Option.bind_eq_some_iff] at h
      obtain ⟨⟨key, afterKey⟩, -, sign, -, h⟩ := h
      split at h
      · simp only [Option.bind_eq_some_iff] at h
        obtain ⟨start, -, ⟨v, afterValue⟩, hv, added, hadd, next, -, h⟩ := h
        have hadded := Entries.keeps_addPair key (hi _ _ _ hv) es added ho hadd
        split at h
        · exact ih hadded h
        · cases h
          exact hadded
        · nomatch h
      · nomatch h

end Items

/-- A word stands for a value that has no other values in it. -/
theorem isLeaf_wordValue? {word : List Char} {v : Value} (h : wordValue? word = some v) : v.isLeaf = true := by
  rw [wordValue?] at h
  split at h
  · cases h
    rfl
  split at h
  · cases h
    rfl
  split at h
  · cases h
    rfl
  split at h
  · cases h
    rfl
  · cases h
    rfl
  · split at h
    · cases h
      rfl
    · nomatch h

/-- A word is read as a value that has no other values in it. -/
theorem isLeaf_word? {cs rest : List Char} {v : Value} (h : word? cs = some (v, rest)) : v.isLeaf = true := by
  have hword : ∀ {word left : List Char}, (wordValue? word).map (·, left) = some (v, rest) → v.isLeaf = true := by
    intro word left h
    obtain ⟨w, hw, he⟩ := Option.map_eq_some_iff.mp h
    cases he
    exact isLeaf_wordValue? hw
  simp only [word?] at h
  split at h
  · split at h
    · cases h
      rfl
    · exact hword h
  · exact hword h

/-- A value that is neither an array nor a table is read as an ordered one. -/
theorem readsOrdered_plainValue? : ReadsOrdered plainValue? := by
  have htext : ∀ {cs rest : List Char} {v : Value},
      (Quoted.text? cs).map (fun read => (Value.string read.1, read.2)) = some (v, rest) → v.Ordered := by
    intro cs rest v h
    obtain ⟨read, -, he⟩ := Option.map_eq_some_iff.mp h
    cases he
    exact .leaf rfl
  intro cs v rest h
  rw [plainValue?.eq_def] at h
  split at h
  · exact htext h
  · exact htext h
  · exact .leaf (isLeaf_word? h)

/-- Every value is read as an ordered one, whatever depth is left for others in it. -/
theorem ordered_value? (depth : Nat) : ReadsOrdered (value? depth) := by
  induction depth with
  | zero => exact readsOrdered_plainValue?
  | succ depth ih =>
    intro cs v rest h
    rw [value?.eq_def] at h
    simp only at h
    split at h
    · obtain ⟨read, hread, he⟩ := Option.map_eq_some_iff.mp h
      cases he
      exact .array (ordered_elements? ih hread)
    · obtain ⟨read, hread, he⟩ := Option.map_eq_some_iff.mp h
      cases he
      exact (ordered_table_iff _ _).mpr (ordered_inlinePairs? ih .nil hread)
    · exact readsOrdered_plainValue? _ _ _ h

/-! ## Documents -/

/-- A statement that gives no key a value that is not ordered. -/
def Statement.Ordered : Statement → Prop
  | .pair _ v => v.Ordered
  | .header _ => True

/-- A statement is read with an ordered value. -/
theorem ordered_statement? {cs rest : List Char} {s : Statement} (h : statement? cs = some (s, rest)) : s.Ordered := by
  rw [statement?.eq_def] at h
  split at h
  · simp only [Option.bind_eq_bind, Option.bind_eq_some_iff] at h
    obtain ⟨⟨key, more⟩, -, h⟩ := h
    split at h
    · cases h
      trivial
    · nomatch h
  · simp only [Option.bind_eq_bind, Option.bind_eq_some_iff] at h
    obtain ⟨⟨key, more⟩, -, h⟩ := h
    split at h
    · cases h
      trivial
    · nomatch h
  · simp only [Option.bind_eq_bind, Option.bind_eq_some_iff] at h
    obtain ⟨⟨key, more⟩, -, h⟩ := h
    split at h
    · simp only [Option.bind_eq_some_iff] at h
      obtain ⟨⟨v, left⟩, hv, h⟩ := h
      cases h
      exact ordered_value? _ _ _ _ hv
    · nomatch h

/-- All statements of a text are read with ordered values. -/
theorem ordered_statementsFrom? {count : Nat} {cs : List Char} {statements : List Statement}
    (h : statementsFrom? count cs = some statements) : ∀ s ∈ statements, s.Ordered := by
  induction count generalizing cs statements with
  | zero => nomatch h
  | succ count ih =>
    rw [statementsFrom?] at h
    simp only [Option.bind_eq_bind, Option.bind_eq_some_iff] at h
    obtain ⟨opened, -, h⟩ := h
    split at h
    · cases h
      nofun
    · simp only [Option.bind_eq_some_iff] at h
      obtain ⟨⟨s, left⟩, hs, next, -, others, hothers, h⟩ := h
      cases h
      intro s' hs'
      rcases List.mem_cons.mp hs' with rfl | hs'
      · exact ordered_statement? hs
      · exact ih hothers s' hs'

/-- The pairs in sections of ordered statements have ordered values. -/
theorem ordered_sections {statements : List Statement} (h : ∀ s ∈ statements, s.Ordered) (header : Header) :
    ∀ part ∈ sections header statements, ∀ pair ∈ part.2, pair.2.Ordered := by
  induction statements generalizing header with
  | nil =>
    intro part hp pair hpair
    rw [List.mem_singleton.mp hp] at hpair
    nomatch hpair
  | cons s statements ih =>
    have hrest := ih fun s' hs' => h s' (List.mem_cons_of_mem _ hs')
    cases s with
    | header next =>
      intro part hp pair hpair
      rcases List.mem_cons.mp hp with rfl | hp
      · nomatch hpair
      · exact hrest next part hp pair hpair
    | pair key v =>
      intro part hp pair hpair
      rw [sections] at hp
      have hparts := hrest header
      split at hp
      · rename_i opened pairs more hs
        rw [hs] at hparts
        rcases List.mem_cons.mp hp with rfl | hp
        · rcases List.mem_cons.mp hpair with rfl | hpair
          · exact h (.pair key v) List.mem_cons_self
          · exact hparts _ List.mem_cons_self pair hpair
        · exact hparts part (List.mem_cons_of_mem _ hp) pair hpair
      · nomatch hp

/-- Adding a section of pairs with ordered values keeps a document ordered. -/
theorem keeps_addSection {part : Section} (h : ∀ pair ∈ part.2, pair.2.Ordered) :
    Entries.Keeps fun es => addSection es part := by
  intro es out hes ho
  simp only [addSection] at ho
  split at ho
  · exact Entries.keeps_addPairs h es out hes ho
  · simp only [Option.bind_eq_bind, Option.bind_eq_some_iff] at ho
    obtain ⟨key, -, ho⟩ := ho
    exact Entries.keeps_within (Entries.keeps_openTable key h) _ es out hes ho
  · simp only [Option.bind_eq_bind, Option.bind_eq_some_iff] at ho
    obtain ⟨key, -, ho⟩ := ho
    exact Entries.keeps_within (Entries.keeps_openElement key h) _ es out hes ho

/-- The tables of a document have their keys in ascending order. -/
theorem ordered_document? {t : Text} {es : Entries} (h : document? t = some es) : Entries.Ordered es := by
  obtain ⟨statements, hs, ha⟩ := Option.bind_eq_some_iff.mp h
  have hparts := ordered_sections (ordered_statementsFrom? hs) .document
  exact Entries.keeps_foldlM (fun part hp => keeps_addSection (hparts part hp)) [] es .nil ha

end ModelStubs.Toml
