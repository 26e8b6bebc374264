import ModelStubs.Proofs.Toml.Decode

/-!
# Records of two texts and a third field

A record with two fields that are texts and have to be there, and a third field of any type that may be missing, is read with
a draft of three slots (`ThreeSlots`). From a table and from an array, it is read exactly from a value with these fields, if
every number under another key has a value (`ThreeSlots.record_eq_ok_iff`).
-/

namespace ModelStubs.Toml

/-! ## Fields -/

/-- The value of a field of a record: in a table under its key, in an array at its place. -/
def Value.field? (place : Nat) (key : Text) : Value → Option Value
  | .table _ entries => Entries.find? key entries
  | .array elements => elements[place]?
  | .tables elements => elements[place]?
  | _ => none

/-- A field of an ordered record is ordered. -/
theorem Value.Ordered.field? {v w : Value} (hv : v.Ordered) {place : Nat} {key : Text}
    (hf : v.field? place key = some w) : w.Ordered := by
  cases v with
  | table origin es => exact ((ordered_table_iff _ _).mp hv).value hf
  | array vs => exact (ordered_array_iff _).mp hv w (List.mem_of_getElem? hf)
  | tables vs => exact (ordered_tables_iff _).mp hv w (List.mem_of_getElem? hf)
  | _ => nomatch hf

/-- The values of a table under keys other than these. -/
def Value.unnamed (keys : List Text) : Value → List Value
  | .table _ entries => (entries.filter fun e => e.1 ∉ keys).map Prod.snd
  | _ => []

/-- What holds of all values under other keys holds of every entry with such a key. -/
theorem Value.forall_mem_unnamed {keys : List Text} {origin : TableOrigin} {es : Entries} {P : Value → Prop} :
    (∀ v ∈ (Value.table origin es).unnamed keys, P v) ↔ ∀ e ∈ es, e.1 ∉ keys → P e.2 := by
  simp only [Value.unnamed, List.forall_mem_map, List.mem_filter, decide_eq_true_eq, and_imp]

/-- Setting a value under one key does not change the field under another. -/
theorem Value.field?_set {key other : Text} (hne : other ≠ key) (origin : TableOrigin) (es : Entries) (v : Value)
    (place : Nat) : (Value.table origin (es.set other v)).field? place key = (Value.table origin es).field? place key := by
  rw [Value.field?, Value.field?, Entries.find?_set, if_neg hne]

namespace Decode

/-! ## Steps -/

/-- A step that makes a result from what is read gives it if and only if something is read to make it from. -/
theorem then_ok_eq_ok_iff {α δ : Type} {x : Except Fault α} {f : α → δ} {next : δ} :
    (x >>= fun a => (.ok (f a) : Except Fault δ)) = .ok next ↔ ∃ a, x = .ok a ∧ next = f a := by
  simp only [bind_eq_ok_iff, Except.ok.injEq, @eq_comm _ next]

/-- A step that passes over a value gives what it had if and only if the value is sound. -/
theorem pass_then_eq_ok_iff {δ : Type} {draft next : δ} {v : Value} :
    (v.pass >>= fun _ => (.ok draft : Except Fault δ)) = .ok next ↔ v.Sound ∧ next = draft := by
  rw [then_ok_eq_ok_iff, ← pass_eq_ok_iff]
  exact ⟨fun ⟨_, hp, hn⟩ => ⟨hp, hn⟩, fun ⟨hp, hn⟩ => ⟨(), hp, hn⟩⟩

/-- A step that makes a result from a text gives it if and only if the value is a text to make it from. -/
theorem string_then_eq_ok_iff {δ : Type} {f : Text → δ} {next : δ} {v : Value} :
    (string v >>= fun t => (.ok (f t) : Except Fault δ)) = .ok next ↔ ∃ t, v = .string t ∧ next = f t := by
  simp only [then_ok_eq_ok_iff, string_eq_ok_iff]

/-! ## Drafts -/

section Record

variable {δ β : Type}

/-- How entries are taken into a draft with a slot for each of three keys: a text, another text, and what `item` reads. -/
structure ThreeSlots (field : δ → Text → Value → Except Fault δ) (item : Value → Except Fault β) (first second third : Text)
    (a b : δ → Option Text) (c : δ → β) : Prop where
  first_ne_second : first ≠ second
  first_ne_third : first ≠ third
  second_ne_third : second ≠ third
  /-- What an entry does that is taken. -/
  step : ∀ {draft next key v}, field draft key v = .ok next →
    (key = first ∧ ∃ t, v = .string t ∧ a next = some t ∧ b next = b draft ∧ c next = c draft) ∨
    (key = second ∧ ∃ t, v = .string t ∧ a next = a draft ∧ b next = some t ∧ c next = c draft) ∨
    (key = third ∧ item v = .ok (c next) ∧ a next = a draft ∧ b next = b draft) ∨
    (key ∉ [first, second, third] ∧ v.Sound ∧ next = draft)
  takes_first : ∀ draft t, ∃ next, field draft first (.string t) = .ok next
  takes_second : ∀ draft t, ∃ next, field draft second (.string t) = .ok next
  takes_third : ∀ draft {v x}, item v = .ok x → ∃ next, field draft third v = .ok next
  takes_other : ∀ draft {key v}, key ∉ [first, second, third] → v.Sound → ∃ next, field draft key v = .ok next

namespace ThreeSlots

variable {field : δ → Text → Value → Except Fault δ} {item : Value → Except Fault β} {first second third : Text}
  {a b : δ → Option Text} {c : δ → β} {es : Entries} {start : δ}

/-- An entry is taken if and only if it is a text under the first two keys, readable under the third, and sound under
others. -/
theorem takes_iff (h : ThreeSlots field item first second third a b c) (draft : δ) (key : Text) (v : Value) :
    (∃ next, field draft key v = .ok next) ↔
      (key = first ∨ key = second → ∃ t, v = .string t) ∧ (key = third → ∃ x, item v = .ok x) ∧
        (key ∉ [first, second, third] → v.Sound) := by
  constructor
  · rintro ⟨next, hf⟩
    rcases h.step hf with ⟨hk, t, hv, -⟩ | ⟨hk, t, hv, -⟩ | ⟨hk, hi, -⟩ | ⟨hk, hv, -⟩
    · refine ⟨fun _ => ⟨t, hv⟩, fun h3 => absurd (hk.symm.trans h3) h.first_ne_third, fun hn => absurd ?_ hn⟩
      rw [hk]
      exact List.mem_cons_self
    · refine ⟨fun _ => ⟨t, hv⟩, fun h3 => absurd (hk.symm.trans h3) h.second_ne_third, fun hn => absurd ?_ hn⟩
      rw [hk]
      exact List.mem_cons_of_mem _ List.mem_cons_self
    · refine ⟨?_, fun _ => ⟨_, hi⟩, fun hn => absurd ?_ hn⟩
      · rintro (h1 | h2)
        · exact absurd (h1.symm.trans hk) h.first_ne_third
        · exact absurd (h2.symm.trans hk) h.second_ne_third
      · rw [hk]
        exact List.mem_cons_of_mem _ (List.mem_cons_of_mem _ List.mem_cons_self)
    · simp only [List.mem_cons, List.not_mem_nil, or_false, not_or] at hk
      exact ⟨fun he => absurd he (not_or.mpr ⟨hk.1, hk.2.1⟩), fun he => absurd he hk.2.2, fun _ => hv⟩
  · rintro ⟨htext, hitem, hsound⟩
    by_cases h1 : key = first
    · obtain ⟨t, rfl⟩ := htext (Or.inl h1)
      exact h1 ▸ h.takes_first draft t
    by_cases h2 : key = second
    · obtain ⟨t, rfl⟩ := htext (Or.inr h2)
      exact h2 ▸ h.takes_second draft t
    by_cases h3 : key = third
    · obtain ⟨x, hx⟩ := hitem h3
      exact h3 ▸ h.takes_third draft hx
    · have hk : key ∉ [first, second, third] := by simp [h1, h2, h3]
      exact h.takes_other draft hk (hsound hk)

theorem slot_first (h : ThreeSlots field item first second third a b c) :
    Slot field first (fun v => (string v).map some) a where
  fills hf := by
    rcases h.step hf with ⟨-, t, rfl, ha, -⟩ | ⟨hk, -⟩ | ⟨hk, -⟩ | ⟨hk, -⟩
    · rw [ha]
      rfl
    · exact absurd hk h.first_ne_second
    · exact absurd hk h.first_ne_third
    · exact absurd List.mem_cons_self hk
  keeps hf hne := by
    rcases h.step hf with ⟨hk, -⟩ | ⟨-, t, -, ha, -⟩ | ⟨-, -, ha, -⟩ | ⟨-, -, rfl⟩
    · exact absurd hk hne
    · exact ha
    · exact ha
    · rfl

theorem slot_second (h : ThreeSlots field item first second third a b c) :
    Slot field second (fun v => (string v).map some) b where
  fills hf := by
    rcases h.step hf with ⟨hk, -⟩ | ⟨-, t, rfl, -, hb, -⟩ | ⟨hk, -⟩ | ⟨hk, -⟩
    · exact absurd hk.symm h.first_ne_second
    · rw [hb]
      rfl
    · exact absurd hk h.second_ne_third
    · exact absurd (List.mem_cons_of_mem _ List.mem_cons_self) hk
  keeps hf hne := by
    rcases h.step hf with ⟨-, t, -, -, hb, -⟩ | ⟨hk, -⟩ | ⟨-, -, -, hb⟩ | ⟨-, -, rfl⟩
    · exact hb
    · exact absurd hk hne
    · exact hb
    · rfl

theorem slot_third (h : ThreeSlots field item first second third a b c) : Slot field third item c where
  fills hf := by
    rcases h.step hf with ⟨hk, -⟩ | ⟨hk, -⟩ | ⟨-, hi, -⟩ | ⟨hk, -⟩
    · exact absurd hk.symm h.first_ne_third
    · exact absurd hk.symm h.second_ne_third
    · exact hi
    · exact absurd (List.mem_cons_of_mem _ (List.mem_cons_of_mem _ List.mem_cons_self)) hk
  keeps hf hne := by
    rcases h.step hf with ⟨-, t, -, -, -, hc⟩ | ⟨-, t, -, -, -, hc⟩ | ⟨hk, -⟩ | ⟨-, -, rfl⟩
    · exact hc
    · exact hc
    · exact absurd hk hne
    · rfl

/-- What the slots hold after the entries of a table is what the fields of the table are, and all entries are taken if
and only if every number under another key has a value. -/
theorem foldlM_iff (h : ThreeSlots field item first second third a b c) (ho : Entries.Ordered es) (ha : a start = none)
    (hb : b start = none) (s t : Text) (x : β) :
    (∃ draft, es.foldlM (fun draft (key, v) => field draft key v) start = .ok draft ∧
        a draft = some s ∧ b draft = some t ∧ c draft = x) ↔
      (es.find? first = some (.string s) ∧ es.find? second = some (.string t) ∧
        readOr (c start) item (es.find? third) = .ok x) ∧
      ∀ e ∈ es, e.1 ∉ [first, second, third] → e.2.Sound := by
  have hread : ∀ {draft}, es.foldlM (fun draft (key, v) => field draft key v) start = .ok draft →
      es.find? first = (a draft).map .string ∧ es.find? second = (b draft).map .string ∧
        readOr (c start) item (es.find? third) = .ok (c draft) := by
    intro draft hd
    have hfirst := h.slot_first.foldlM ho.keys hd
    have hsecond := h.slot_second.foldlM ho.keys hd
    rw [ha, readOr_string_eq_ok_iff] at hfirst
    rw [hb, readOr_string_eq_ok_iff] at hsecond
    exact ⟨hfirst, hsecond, h.slot_third.foldlM ho.keys hd⟩
  constructor
  · rintro ⟨draft, hd, hs, ht, rfl⟩
    obtain ⟨h1, h2, h3⟩ := hread hd
    rw [hs] at h1
    rw [ht] at h2
    have htaken := (foldlM_eq_ok_iff h.takes_iff es start).mp ⟨draft, hd⟩
    exact ⟨⟨h1, h2, h3⟩, fun e he => (htaken e he).2.2⟩
  · rintro ⟨⟨h1, h2, h3⟩, hsound⟩
    have htaken : ∀ e ∈ es, (e.1 = first ∨ e.1 = second → ∃ t, e.2 = .string t) ∧
        (e.1 = third → ∃ x, item e.2 = .ok x) ∧ (e.1 ∉ [first, second, third] → e.2.Sound) := by
      rintro ⟨key, v⟩ he
      have hfind := (ho.find?_eq_some_iff key v).mpr he
      refine ⟨?_, ?_, hsound _ he⟩
      · rintro (rfl | rfl)
        · exact ⟨s, Option.some.inj (hfind.symm.trans h1)⟩
        · exact ⟨t, Option.some.inj (hfind.symm.trans h2)⟩
      · rintro rfl
        rw [hfind] at h3
        exact ⟨x, h3⟩
    obtain ⟨draft, hd⟩ := (foldlM_eq_ok_iff h.takes_iff es start).mpr htaken
    obtain ⟨g1, g2, g3⟩ := hread hd
    refine ⟨draft, hd, ?_, ?_, Except.ok.inj (g3.symm.trans h3)⟩
    · exact Option.map_injective (fun _ _ => Value.string.inj) (g1.symm.trans h1)
    · exact Option.map_injective (fun _ _ => Value.string.inj) (g2.symm.trans h2)

end ThreeSlots

/-- A record read from an array: its first three elements are the fields, of which the last may be missing. -/
theorem fromArray_eq_ok_iff {ρ : Type} {item : Value → Except Fault β} {default : β} {make : Text → Text → β → ρ}
    {elements : List Value} {r : ρ} :
    (do
      let (s, rest) ← element string elements
      let (t, rest) ← element string rest
      let (x, _) ← elementOr default item rest
      return make s t x) = Except.ok r ↔
    ∃ s t x, (elements[0]? = some (.string s) ∧ elements[1]? = some (.string t) ∧
      readOr default item elements[2]? = .ok x) ∧ make s t x = r := by
  simp only [bind_eq_ok_iff, Prod.exists, element_string_eq_ok_iff, elementOr_eq_ok_iff]
  constructor
  · rintro ⟨s, _, rfl, t, rest, rfl, x, _, ⟨hx, -⟩, hr⟩
    rw [List.head?_eq_getElem?] at hx
    exact ⟨s, t, x, ⟨rfl, rfl, hx⟩, Except.ok.inj hr⟩
  · rintro ⟨s, t, x, ⟨hs, ht, hx⟩, rfl⟩
    match elements, hs, ht, hx with
    | _ :: _ :: rest, rfl, rfl, hx =>
      rw [List.getElem?_cons_succ, List.getElem?_cons_succ, ← List.head?_eq_getElem?] at hx
      exact ⟨s, _, rfl, t, rest, rfl, x, _, ⟨hx, rfl⟩, rfl⟩

/-- A record of two texts and a third field is read from a value with these fields, if every number under another key has a
value. -/
theorem ThreeSlots.record_eq_ok_iff {ρ : Type} {field : δ → Text → Value → Except Fault δ} {item : Value → Except Fault β}
    {first second third : Text} {a b : δ → Option Text} {c : δ → β} {start : δ} {finish : δ → Except Fault ρ}
    {fromArray : List Value → Except Fault ρ} {make : Text → Text → β → ρ}
    (h : ThreeSlots field item first second third a b c) (ha : a start = none) (hb : b start = none)
    (hfinish : ∀ draft r, finish draft = .ok r ↔ ∃ s t, a draft = some s ∧ b draft = some t ∧ make s t (c draft) = r)
    (harray : ∀ elements, fromArray elements = do
      let (s, rest) ← element string elements
      let (t, rest) ← element string rest
      let (x, _) ← elementOr (c start) item rest
      return make s t x)
    (expected : String) {v : Value} (hv : v.Ordered) (r : ρ) :
    record expected start field finish fromArray v = .ok r ↔
      (∃ s t x, (v.field? 0 first = some (.string s) ∧ v.field? 1 second = some (.string t) ∧
        readOr (c start) item (v.field? 2 third) = .ok x) ∧ make s t x = r) ∧
      ∀ w ∈ v.unnamed [first, second, third], w.Sound := by
  have hnone : ∀ {w : Value}, w.unnamed [first, second, third] = [] →
      ∀ u ∈ w.unnamed [first, second, third], u.Sound := fun he => he ▸ nofun
  have hfrom : ∀ elements, fromArray elements = .ok r ↔ ∃ s t x, (elements[0]? = some (.string s) ∧
      elements[1]? = some (.string t) ∧ readOr (c start) item elements[2]? = .ok x) ∧ make s t x = r :=
    fun elements => by rw [harray elements, fromArray_eq_ok_iff]
  cases v with
  | table origin es =>
    have hfold := h.foldlM_iff ((ordered_table_iff _ _).mp hv) ha hb
    rw [record, bind_eq_ok_iff, Value.forall_mem_unnamed]
    simp only [hfinish]
    constructor
    · rintro ⟨draft, hd, s, t, hs, ht, rfl⟩
      obtain ⟨hf, hsound⟩ := (hfold s t (c draft)).mp ⟨draft, hd, hs, ht, rfl⟩
      exact ⟨⟨s, t, c draft, hf, rfl⟩, hsound⟩
    · rintro ⟨⟨s, t, x, hf, rfl⟩, hsound⟩
      obtain ⟨draft, hd, hs, ht, rfl⟩ := (hfold s t x).mpr ⟨hf, hsound⟩
      exact ⟨draft, hd, s, t, hs, ht, rfl⟩
  | array elements => exact (hfrom elements).trans ⟨fun hf => ⟨hf, hnone rfl⟩, fun hf => hf.1⟩
  | tables elements => exact (hfrom elements).trans ⟨fun hf => ⟨hf, hnone rfl⟩, fun hf => hf.1⟩
  | dateTime t =>
    rw [record, hfinish]
    constructor
    · rintro ⟨s, t, hs, -⟩
      nomatch ha.symm.trans hs
    · rintro ⟨⟨s, t, x, ⟨hs, -⟩, -⟩, -⟩
      nomatch hs
  | _ =>
    refine ⟨fun hr => absurd hr (mismatch_ne_ok _ _ _), ?_⟩
    rintro ⟨⟨s, t, x, ⟨hs, -⟩, -⟩, -⟩
    nomatch hs

end Record

end Decode

end ModelStubs.Toml
