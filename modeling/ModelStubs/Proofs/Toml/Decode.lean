import Mathlib.Data.List.Forall2
import ModelStubs.Proofs.Toml.Ordered
import ModelStubs.Toml.Decode

/-!
# What typed reading accepts

A value is passed over exactly if every number in it has a value (`pass_eq_ok_iff`). A list is read element by element
(`list_eq_ok_iff`). The entries of a table are taken into a draft exactly if each of them is (`foldlM_eq_ok_iff`), and then
a slot of the draft holds what was read under its key, and nothing else (`Slot.foldlM`).
-/

namespace ModelStubs.Toml

/-- The elements of an array. -/
def Value.elements? : Value → Option (List Value)
  | .array elements => some elements
  | .tables elements => some elements
  | _ => none

/-! ## Values that are passed over -/

/-- A value in which every number has a value: a whole number that fits 128 bits, or a decimal that is not beyond every
double. -/
inductive Value.Sound : Value → Prop
  | string (t : Text) : Sound (.string t)
  | integer {n : Int} : -Int.pow 2 127 ≤ n → n < Int.pow 2 128 → Sound (.integer n)
  | decimal {digits : Nat} {exponent : Int} {x : Double} (negative : Bool) :
      Double.ofDecimal? digits exponent = some x → Sound (.float (.decimal negative digits exponent))
  | infinite (negative : Bool) : Sound (.float (.infinite negative))
  | nan : Sound (.float .nan)
  | boolean (b : Bool) : Sound (.boolean b)
  | dateTime (t : Text) : Sound (.dateTime t)
  | array {elements : List Value} : (∀ v ∈ elements, Sound v) → Sound (.array elements)
  | tables {elements : List Value} : (∀ v ∈ elements, Sound v) → Sound (.tables elements)
  | table {entries : Entries} (origin : TableOrigin) : (∀ e ∈ entries, Sound e.2) → Sound (.table origin entries)

/-- A whole number is passed over if and only if it is sound. -/
theorem pass_integer (n : Int) : (Value.integer n).pass = .ok () ↔ (Value.integer n).Sound := by
  rw [Value.pass, Found.ofInteger]
  constructor
  · intro h
    split at h
    · rename_i hn
      exact .integer hn.1 hn.2
    · nomatch h
  · intro h
    cases h with
    | integer hl hu =>
      rw [if_pos ⟨hl, hu⟩]
      rfl

/-- A decimal is passed over if and only if it is sound. -/
theorem pass_float (x : Float) : (Value.float x).pass = .ok () ↔ (Value.float x).Sound := by
  rw [Value.pass]
  cases x with
  | decimal negative digits exponent =>
    rw [Found.ofFloat]
    cases hx : Double.ofDecimal? digits exponent with
    | some x => exact ⟨fun _ => .decimal negative hx, fun _ => rfl⟩
    | none =>
      refine ⟨nofun, fun h => ?_⟩
      cases h with
      | decimal _ h => nomatch hx.symm.trans h
  | infinite negative => exact ⟨fun _ => .infinite negative, fun _ => rfl⟩
  | nan => exact ⟨fun _ => .nan, fun _ => rfl⟩

/-- What two steps one after the other give. -/
theorem bind_eq_ok_iff {α β : Type} {x : Except Fault α} {f : α → Except Fault β} {y : β} :
    (x >>= f) = .ok y ↔ ∃ a, x = .ok a ∧ f a = .ok y := by
  cases x with
  | error fault => exact ⟨nofun, fun ⟨_, h, _⟩ => nomatch h⟩
  | ok a =>
    refine ⟨fun h => ⟨a, rfl, h⟩, ?_⟩
    rintro ⟨_, ⟨⟩, h⟩
    exact h

/-- Two steps that give nothing. -/
theorem then_eq_ok_iff {x y : Except Fault Unit} : (x >>= fun _ => y) = .ok () ↔ x = .ok () ∧ y = .ok () :=
  bind_eq_ok_iff.trans ⟨fun ⟨_, hx, hy⟩ => ⟨hx, hy⟩, fun h => ⟨(), h⟩⟩

mutual

/-- A value is passed over if and only if every number in it has a value. -/
theorem pass_eq_ok_iff : (v : Value) → (v.pass = .ok () ↔ v.Sound)
  | .string t => ⟨fun _ => .string t, fun _ => by rw [Value.pass] <;> nofun⟩
  | .integer n => pass_integer n
  | .float x => pass_float x
  | .brokenInteger => ⟨fun h => (by rw [Value.pass] at h; cases h), nofun⟩
  | .boolean b => ⟨fun _ => .boolean b, fun _ => by rw [Value.pass] <;> nofun⟩
  | .dateTime t => ⟨fun _ => .dateTime t, fun _ => by rw [Value.pass] <;> nofun⟩
  | .array elements => by
    rw [Value.pass, passAll_eq_ok_iff elements]
    exact ⟨.array, fun h => by cases h with | array h => exact h⟩
  | .tables elements => by
    rw [Value.pass, passAll_eq_ok_iff elements]
    exact ⟨.tables, fun h => by cases h with | tables h => exact h⟩
  | .table origin entries => by
    rw [Value.pass, passEntries_eq_ok_iff entries]
    exact ⟨.table origin, fun h => by cases h with | table _ h => exact h⟩

/-- Elements are passed over if and only if each of them is sound. -/
theorem passAll_eq_ok_iff : (vs : List Value) → (passAll vs = .ok () ↔ ∀ v ∈ vs, v.Sound)
  | [] => ⟨nofun, fun _ => rfl⟩
  | v :: rest => by
    rw [passAll, then_eq_ok_iff, pass_eq_ok_iff v, passAll_eq_ok_iff rest, List.forall_mem_cons]

/-- Entries are passed over if and only if each of their values is sound. -/
theorem passEntries_eq_ok_iff : (es : List (Text × Value)) → (passEntries es = .ok () ↔ ∀ e ∈ es, e.2.Sound)
  | [] => ⟨nofun, fun _ => rfl⟩
  | (_, v) :: rest => by
    rw [passEntries, then_eq_ok_iff, pass_eq_ok_iff v, passEntries_eq_ok_iff rest, List.forall_mem_cons]

end

namespace Decode

/-! ## Texts and lists -/

/-- A value of the wrong kind gives nothing. -/
theorem mismatch_ne_ok {α : Type} (expected : String) (v : Value) (x : α) : mismatch expected v ≠ .ok x := by
  rw [mismatch]
  cases Found.ofValue v <;> nofun

/-- A value reads as a text if and only if it is that text. -/
theorem string_eq_ok_iff {v : Value} {t : Text} : string v = .ok t ↔ v = .string t := by
  constructor
  · intro h
    cases v with
    | string u =>
      cases h
      rfl
    | _ => exact absurd h (mismatch_ne_ok _ _ _)
  · rintro rfl
    rfl

section List

variable {α : Type} {item : Value → Except Fault α}

/-- Elements read as members if and only if each element reads as the member in its place. -/
theorem mapM_eq_ok_iff {elements : List Value} {xs : List α} :
    elements.mapM item = .ok xs ↔ List.Forall₂ (fun v x => item v = .ok x) elements xs := by
  induction elements generalizing xs with
  | nil =>
    rw [List.forall₂_nil_left_iff]
    refine ⟨fun h => (Except.ok.inj h).symm, ?_⟩
    rintro rfl
    rfl
  | cons v rest ih =>
    simp only [List.mapM_cons, bind_eq_ok_iff, ih, List.forall₂_cons_left_iff]
    constructor
    · rintro ⟨x, hx, ys, hys, h⟩
      exact ⟨x, ys, hx, hys, (Except.ok.inj h).symm⟩
    · rintro ⟨x, ys, hx, hys, rfl⟩
      exact ⟨x, hx, ys, hys, rfl⟩

/-- A list is read element by element. -/
theorem list_eq_ok_iff {v : Value} {xs : List α} :
    list item v = .ok xs ↔ ∃ elements, v.elements? = some elements ∧
      List.Forall₂ (fun v x => item v = .ok x) elements xs := by
  constructor
  · intro h
    cases v with
    | array elements => exact ⟨elements, rfl, mapM_eq_ok_iff.mp h⟩
    | tables elements => exact ⟨elements, rfl, mapM_eq_ok_iff.mp h⟩
    | _ => exact absurd h (mismatch_ne_ok _ _ _)
  · rintro ⟨elements, he, h⟩
    cases v with
    | array _ =>
      cases he
      exact mapM_eq_ok_iff.mpr h
    | tables _ =>
      cases he
      exact mapM_eq_ok_iff.mpr h
    | _ => nomatch he

end List

/-! ## Fields that may be missing -/

/-- The value of a field, or what stands for one that is missing. -/
def readOr {α : Type} (default : α) (item : Value → Except Fault α) : Option Value → Except Fault α
  | none => .ok default
  | some v => item v

/-- A value reads as a text that may be missing if and only if it is a text, which is then not missing. -/
theorem map_some_string_eq_ok_iff {v : Value} {t : Option Text} :
    (string v).map some = .ok t ↔ ∃ s, v = .string s ∧ t = some s := by
  constructor
  · intro h
    cases hs : string v with
    | error fault =>
      rw [hs] at h
      nomatch h
    | ok s =>
      rw [hs] at h
      exact ⟨s, string_eq_ok_iff.mp hs, (Except.ok.inj h).symm⟩
  · rintro ⟨s, rfl, rfl⟩
    rfl

/-- A field reads as a text that may be missing if and only if it is that text or missing with it. -/
theorem readOr_string_eq_ok_iff {f : Option Value} {t : Option Text} :
    readOr none (fun v => (string v).map some) f = .ok t ↔ f = t.map .string := by
  cases f with
  | none => cases t <;> simp [readOr]
  | some v =>
    rw [readOr, map_some_string_eq_ok_iff]
    cases t <;> simp

/-- The first element is read if there is one, and the elements behind it remain. -/
theorem elementOr_eq_ok_iff {α : Type} {default x : α} {item : Value → Except Fault α} {elements rest : List Value} :
    elementOr default item elements = .ok (x, rest) ↔
      readOr default item elements.head? = .ok x ∧ rest = elements.tail := by
  cases elements with
  | nil =>
    rw [elementOr, List.head?_nil, readOr, Except.ok.injEq, Except.ok.injEq, Prod.mk.injEq]
    exact and_congr_right fun _ => eq_comm
  | cons v elements =>
    rw [elementOr, bind_eq_ok_iff]
    constructor
    · rintro ⟨_, hx, ⟨⟩⟩
      exact ⟨hx, rfl⟩
    · rintro ⟨hx, rfl⟩
      exact ⟨x, hx, rfl⟩

/-- A text is read off elements if and only if it is the first of them. -/
theorem element_string_eq_ok_iff {t : Text} {elements rest : List Value} :
    element string elements = .ok (t, rest) ↔ elements = .string t :: rest := by
  cases elements with
  | nil => exact ⟨nofun, nofun⟩
  | cons v elements =>
    rw [element, bind_eq_ok_iff]
    constructor
    · rintro ⟨s, hs, ⟨⟩⟩
      rw [string_eq_ok_iff.mp hs]
    · rintro ⟨⟩
      exact ⟨t, rfl, rfl⟩

/-- A required field gives what is in it. -/
theorem required_eq_ok_iff {α : Type} {name : String} {f : Option α} {x : α} :
    required name f = .ok x ↔ f = some x := by
  cases f <;> simp [required]

/-! ## Records -/

section Record

variable {δ α : Type} {field : δ → Text → Value → Except Fault δ} {es : Entries} {start draft : δ}

/-- The entries of a table are taken into a draft if and only if each of them is, where that does not depend on those taken
before. -/
theorem foldlM_eq_ok_iff {Takes : Text → Value → Prop}
    (h : ∀ draft key v, (∃ next, field draft key v = .ok next) ↔ Takes key v) (es : Entries) (start : δ) :
    (∃ draft, es.foldlM (fun draft (key, v) => field draft key v) start = .ok draft) ↔ ∀ e ∈ es, Takes e.1 e.2 := by
  induction es generalizing start with
  | nil => exact ⟨fun _ => nofun, fun _ => ⟨start, rfl⟩⟩
  | cons e es ih =>
    obtain ⟨key, v⟩ := e
    simp only [List.foldlM_cons, bind_eq_ok_iff, List.forall_mem_cons, ← h start key v]
    constructor
    · rintro ⟨draft, next, hn, hd⟩
      exact ⟨⟨next, hn⟩, (ih next).mp ⟨draft, hd⟩⟩
    · rintro ⟨⟨next, hn⟩, ht⟩
      obtain ⟨draft, hd⟩ := (ih next).mpr ht
      exact ⟨draft, next, hn, hd⟩

/-- A slot of a draft that is filled under one key, and kept under every other. -/
structure Slot (field : δ → Text → Value → Except Fault δ) (key : Text) (item : Value → Except Fault α)
    (slot : δ → α) : Prop where
  fills : ∀ {draft next v}, field draft key v = .ok next → item v = .ok (slot next)
  keeps : ∀ {draft next other v}, field draft other v = .ok next → other ≠ key → slot next = slot draft

namespace Slot

variable {key : Text} {item : Value → Except Fault α} {slot : δ → α}

/-- A slot keeps what is in it along entries of which none is under its key. -/
theorem foldlM_of_absent (hs : Slot field key item slot) (ha : ∀ e ∈ es, e.1 ≠ key)
    (h : es.foldlM (fun draft (key, v) => field draft key v) start = .ok draft) : slot draft = slot start := by
  induction es generalizing start with
  | nil =>
    cases h
    rfl
  | cons e es ih =>
    rw [List.forall_mem_cons] at ha
    rw [List.foldlM_cons, bind_eq_ok_iff] at h
    obtain ⟨next, hn, h⟩ := h
    rw [ih ha.2 h, hs.keeps hn ha.1]

/-- After the entries of a table a slot holds what was read under its key, or what it held before where the key is not
there. The keys ascend, so no later entry fills the slot again. -/
theorem foldlM (hs : Slot field key item slot) (ho : es.Pairwise fun a b => Text.before a.1 b.1 = true)
    (h : es.foldlM (fun draft (key, v) => field draft key v) start = .ok draft) :
    readOr (slot start) item (es.find? key) = .ok (slot draft) := by
  induction es generalizing start with
  | nil =>
    cases h
    rfl
  | cons e es ih =>
    obtain ⟨k, v⟩ := e
    rw [List.pairwise_cons] at ho
    rw [List.foldlM_cons, bind_eq_ok_iff] at h
    obtain ⟨next, hn, h⟩ := h
    rw [Entries.find?]
    split
    · rename_i he
      subst he
      have habsent : ∀ e ∈ es, e.1 ≠ k := by
        intro e he hek
        exact absurd (ho.1 e he) (by rw [hek, Text.before_irrefl]; decide)
      rw [hs.foldlM_of_absent habsent h]
      exact hs.fills hn
    · rename_i hne
      rw [← hs.keeps hn hne]
      exact ih ho.2 h

end Slot

end Record

end Decode

end ModelStubs.Toml
