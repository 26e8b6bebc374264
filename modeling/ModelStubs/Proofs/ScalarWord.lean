import Mathlib
import ModelStubs.Proofs.Scalar

/-!
# Scalar words are ASCII

A word is looked for in lower case, and lower case is that of Unicode, where a letter beyond ASCII may become one of ASCII.
One does, and it becomes a letter that no word has; every other character beyond ASCII leaves one in the lower case of its
text (`exists_mem_lower`). So a text stands for a scalar exactly if it is one of its words in ASCII, in any case
(`ofText?_eq_some_iff`), and as no word stands for two scalars, the order in which they are tried says nothing.
-/

namespace ModelStubs

namespace Text

variable {c : Char} {t : Text} {n m : Nat} {runs : List CaseRun}

/-! ## Lower case in ASCII -/

/-- Whether a text has characters of ASCII only. -/
def IsAscii (t : Text) : Prop := ∀ c ∈ t, c.toNat < 128

/-- The test goes along the text: for `∀ c ∈ t` the search for an instance may find a test of every character there is. -/
instance decIsAscii (t : Text) : Decidable (IsAscii t) :=
  decidable_of_iff ((t.all fun c => c.toNat < 128) = true) (by simp [IsAscii])

/-- What holds of the characters with the first 128 codes holds of every character in ASCII. -/
theorem forall_ascii {P : Char → Prop} (h : ∀ n < 128, P (Char.ofNat n)) : ∀ c : Char, c.toNat < 128 → P c := by
  intro c hc
  have hn := h c.toNat hc
  rwa [Char.ofNat_toNat] at hn

/-- A character of ASCII becomes one character of ASCII in lower case. -/
theorem lowerChar_of_ascii (h : c.toNat < 128) : lowerChar c = [c.toLower] := by
  have hall : ∀ c : Char, c.toNat < 128 → lowerChar c = [c.toLower] := forall_ascii (by decide +kernel)
  exact hall c h

/-- In ASCII, lower case is that of A to Z. -/
theorem lower_of_ascii (h : IsAscii t) : lower t = asciiLower t := by
  have hs : 'Σ' ∉ t := fun hm => absurd (h 'Σ' hm) (by decide)
  have hsplit := lowerAfter_append_of_not_mem [] [] hs
  rw [List.append_nil] at hsplit
  rw [lower, hsplit, lowerAfter, List.append_nil, List.flatMap_def,
    List.map_congr_left fun c hc => lowerChar_of_ascii (h c hc), ← List.flatMap_def, ← List.map_eq_flatMap, asciiLower]

/-- Lower case in ASCII keeps what is beyond ASCII. -/
theorem toLower_of_not_ascii (h : 128 ≤ c.toNat) : c.toLower = c := by
  refine Char.toLower_eq_of_not_isUpper fun hu => ?_
  have hz : c.toNat ≤ 'Z'.toNat := (of_decide_eq_true hu).2
  exact absurd (h.trans hz) (by decide)

/-- Lower case in ASCII adds nothing beyond ASCII, and takes nothing of it away. -/
theorem isAscii_asciiLower_iff : IsAscii (asciiLower t) ↔ IsAscii t := by
  have hc : ∀ c : Char, c.toLower.toNat < 128 ↔ c.toNat < 128 := by
    intro c
    by_cases h : c.toNat < 128
    · have hall : ∀ c : Char, c.toNat < 128 → c.toLower.toNat < 128 := forall_ascii (by decide +kernel)
      exact iff_of_true (hall c h) h
    · rw [toLower_of_not_ascii (Nat.le_of_not_lt h)]
  simp only [IsAscii, asciiLower, List.forall_mem_map, hc]

/-! ## Lower case beyond ASCII -/

/-- What a code point is mapped to lies as far into the target of a run as the code point into the run. -/
theorem exists_run_of_mapByRuns (h : mapByRuns n runs = some m) :
    ∃ run ∈ runs, run.first ≤ n ∧ n ≤ run.last ∧ m = run.target + (n - run.first) := by
  induction runs with
  | nil => nomatch h
  | cons run runs ih =>
    rw [mapByRuns] at h
    split at h
    · nomatch h
    · rename_i hfirst
      split at h
      · rename_i hlast
        exact ⟨run, List.mem_cons_self, Nat.le_of_not_lt hfirst, hlast.1, (Option.some.inj h).symm⟩
      · obtain ⟨other, hm, hother⟩ := ih h
        exact ⟨other, List.mem_cons_of_mem _ hm, hother⟩

/-- A run of letters takes them beyond ASCII unless it is that of A to Z or that of the Kelvin sign. -/
theorem lowerRuns_beyond : ∀ run ∈ lowerRuns, run.last < 128 ∨ run.first = run.last ∧ run.target = 'k'.toNat ∨
    128 ≤ run.target ∧ (run.target + (run.last - run.first) < 0xD800 ∨
      0xDFFF < run.target ∧ run.target + (run.last - run.first) < 0x110000) := by
  decide +kernel

/-- What a character beyond ASCII becomes has one that is beyond ASCII too, but for the Kelvin sign. -/
theorem exists_mem_lowerChar (h : 128 ≤ c.toNat) : ∃ d ∈ lowerChar c, 128 ≤ d.toNat ∨ d = 'k' := by
  rw [lowerChar]
  split
  · exact ⟨'\u0307', by simp, Or.inl (by decide)⟩
  · split
    · rename_i m hm
      obtain ⟨run, hrun, hfirst, hlast, rfl⟩ := exists_run_of_mapByRuns hm
      refine ⟨_, List.mem_singleton_self _, ?_⟩
      rcases lowerRuns_beyond run hrun with hlow | ⟨hone, htarget⟩ | ⟨hhigh, hvalid⟩
      · omega
      · right
        have hk : run.target + (c.toNat - run.first) = 'k'.toNat := by omega
        rw [hk]
        rfl
      · left
        rw [Char.toNat_ofNat, if_pos]
        · omega
        · rcases hvalid with hv | ⟨hv, hv'⟩
          · exact Or.inl (by omega)
          · exact Or.inr ⟨by omega, by omega⟩
    · exact ⟨c, List.mem_singleton_self c, Or.inl h⟩

example : lowerChar '\u212A' = ['k'] := by decide +kernel

/-- Capital sigma becomes a small one, which is beyond ASCII too, whether or not it ends a word. -/
theorem exists_mem_lower (hm : c ∈ t) (h : 128 ≤ c.toNat) : ∃ d ∈ lower t, 128 ≤ d.toNat ∨ d = 'k' := by
  obtain ⟨a, b, rfl⟩ := List.append_of_mem hm
  obtain ⟨lowered, ha⟩ := exists_lowerAfter_append [] a (c :: b)
  have hc : ∃ d ∈ lowerAfter (a.reverse ++ []) (c :: b), 128 ≤ d.toNat ∨ d = 'k' := by
    rw [lowerAfter]
    split
    · split
      · exact ⟨'ς', by simp, Or.inl (by decide)⟩
      · exact ⟨'σ', by simp, Or.inl (by decide)⟩
    · obtain ⟨d, hd, hhigh⟩ := exists_mem_lowerChar h
      exact ⟨d, List.mem_append_left _ hd, hhigh⟩
  obtain ⟨d, hd, hhigh⟩ := hc
  exact ⟨d, by rw [lower, ha]; exact List.mem_append_right _ hd, hhigh⟩

end Text

namespace Scalar

open Text (IsAscii asciiLower lower)

variable {t word : Text} {s s' : Scalar} {order : List Scalar}

/-! ## The words -/

/-- Words have lower case and characters of ASCII only, and none of them has the letter k. -/
theorem plain_of_mem_words (h : word ∈ s.words) : asciiLower word = word ∧ ∀ c ∈ word, c.toNat < 128 ∧ c ≠ 'k' := by
  have hall : ∀ s ∈ all, ∀ word ∈ s.words, asciiLower word = word ∧ (word.all fun c => c.toNat < 128 && c ≠ 'k') := by
    decide
  obtain ⟨hlower, hplain⟩ := hall s (mem_all s) word h
  rw [List.all_eq_true] at hplain
  exact ⟨hlower, fun c hc => by simpa using hplain c hc⟩

/-- A text with something beyond ASCII in it is no word in lower case. -/
theorem not_mem_words_of_not_ascii (h : ¬IsAscii t) (s : Scalar) : lower t ∉ s.words := by
  simp only [IsAscii, Classical.not_forall, Nat.not_lt] at h
  obtain ⟨c, hc, hhigh⟩ := h
  obtain ⟨d, hd, hforeign⟩ := Text.exists_mem_lower hc hhigh
  intro hm
  obtain ⟨hlow, hk⟩ := (plain_of_mem_words hm).2 d hd
  exact hforeign.elim (Nat.not_le.mpr hlow) hk

/-- No word stands for two scalars. -/
theorem eq_of_mem_words (h : word ∈ s.words) (h' : word ∈ s'.words) : s = s' := by
  have hall : ∀ s ∈ all, ∀ s' ∈ all, ∀ word ∈ s.words, word ∈ s'.words → s = s' := by decide
  exact hall s (mem_all s) s' (mem_all s') word h h'

/-- So a word is found in whatever order the scalars are tried. -/
theorem find?_words_eq_some_iff (ho : ∀ s, s ∈ order) :
    order.find? (fun s => s.words.contains word) = some s ↔ word ∈ s.words := by
  constructor
  · intro h
    simpa using List.find?_some h
  · intro h
    cases hf : order.find? fun s => s.words.contains word with
    | none =>
      rw [List.find?_eq_none] at hf
      exact absurd (by simpa using h) (hf s (ho s))
    | some s' =>
      have h' : word ∈ s'.words := by simpa using List.find?_some hf
      rw [eq_of_mem_words h h']

/-! ## What stands for a scalar -/

/-- A text is a word of a scalar, in ASCII and in any case. -/
structure Spelled (s : Scalar) (t : Text) : Prop where
  ascii : IsAscii t
  word : ∃ word ∈ s.words, asciiLower t = asciiLower word

/-- A text stands for a scalar exactly if it is one of the words of the scalar, in any case of A to Z. -/
theorem ofText?_eq_some_iff : ofText? t = some s ↔ s.Spelled t := by
  rw [ofText?, find?_words_eq_some_iff mem_all]
  by_cases h : IsAscii t
  · rw [Text.lower_of_ascii h]
    constructor
    · exact fun hm => ⟨h, _, hm, (plain_of_mem_words hm).1.symm⟩
    · rintro ⟨-, word, hm, he⟩
      rw [he, (plain_of_mem_words hm).1]
      exact hm
  · exact iff_of_false (not_mem_words_of_not_ascii h s) fun hs => h hs.ascii

/-- The case of A to Z is free in the words of a scalar. -/
theorem Spelled.of_asciiLower_eq {other : Text} (h : s.Spelled t) (he : asciiLower other = asciiLower t) :
    s.Spelled other where
  ascii := Text.isAscii_asciiLower_iff.mp (he ▸ Text.isAscii_asciiLower_iff.mpr h.ascii)
  word := by rw [he]; exact h.word

/-- A text stands for a scalar exactly if it is one of its words, in ASCII and in any case. The lower case of no text is a
word of two scalars, so they may be tried in any order. Another case of letters of ASCII makes no difference. A text that has
a character beyond ASCII stands for no scalar: its lower case is no word. -/
theorem scalar_words_ascii (t : Text) :
    (∀ s, ofText? t = some s ↔ s.Spelled t) ∧
      (∀ s s' : Scalar, lower t ∈ s.words → lower t ∈ s'.words → s = s') ∧
      (∀ order : List Scalar, order.Perm all → (order.find? fun s => s.words.contains (lower t)) = ofText? t) ∧
      (∀ other, asciiLower other = asciiLower t → ofText? other = ofText? t) ∧
      (¬IsAscii t → ofText? t = none ∧ ∀ s : Scalar, lower t ∉ s.words) := by
  refine ⟨fun s => ofText?_eq_some_iff, fun s s' => eq_of_mem_words, fun order ho => ?_, fun other he => ?_, fun h => ?_⟩
  · refine Option.ext fun s => ?_
    rw [find?_words_eq_some_iff fun s => ho.mem_iff.mpr (mem_all s), ofText?, find?_words_eq_some_iff mem_all]
  · refine Option.ext fun s => ?_
    rw [ofText?_eq_some_iff, ofText?_eq_some_iff]
    exact ⟨fun hs => hs.of_asciiLower_eq he.symm, fun hs => hs.of_asciiLower_eq he⟩
  · refine ⟨?_, not_mem_words_of_not_ascii h⟩
    rw [Option.eq_none_iff_forall_ne_some]
    exact fun s hs => h (ofText?_eq_some_iff.mp hs).ascii

end Scalar

end ModelStubs
