import ModelStubs.Proofs.Text
import ModelStubs.Scalar

/-!
# Pieces that no scalar word has

Lower case works character by character, but for a capital sigma. A piece of a text without one is therefore found again,
in lower case, in the lower case of the text (`infix_lower`), and a text stands for no scalar as soon as one of its
pieces is in no word of the table (`ofText?_eq_none_of_infix`).
-/

namespace ModelStubs

namespace Text

/-- The lower case of a text ends in the lower case of each of its ends, read after what comes before it. -/
theorem exists_lowerAfter_append (seen a b : Text) :
    ∃ lowered, lowerAfter seen (a ++ b) = lowered ++ lowerAfter (a.reverse ++ seen) b := by
  induction a generalizing seen with
  | nil => exact ⟨[], rfl⟩
  | cons c a ih =>
    obtain ⟨lowered, h⟩ := ih (c :: seen)
    rw [List.cons_append, lowerAfter, h, List.reverse_cons, List.append_assoc, ← List.append_assoc]
    exact ⟨_, rfl⟩

/-- A piece without a capital sigma is lowered character by character. -/
theorem lowerAfter_append_of_not_mem (seen b : Text) {a : Text} (ha : 'Σ' ∉ a) :
    lowerAfter seen (a ++ b) = a.flatMap lowerChar ++ lowerAfter (a.reverse ++ seen) b := by
  induction a generalizing seen with
  | nil => rfl
  | cons c a ih =>
    rw [List.mem_cons, not_or] at ha
    rw [List.cons_append, lowerAfter, if_neg (Ne.symm ha.1), ih (c :: seen) ha.2]
    simp

/-- A piece without a capital sigma is lowered on its own. -/
theorem infix_lower {piece t : Text} (h : piece <:+: t) (hs : 'Σ' ∉ piece) :
    piece.flatMap lowerChar <:+: lower t := by
  obtain ⟨a, b, rfl⟩ := h
  obtain ⟨lowered, ha⟩ := exists_lowerAfter_append [] a (piece ++ b)
  rw [lower, List.append_assoc, ha, lowerAfter_append_of_not_mem _ b hs]
  exact ⟨lowered, _, List.append_assoc _ _ _⟩

end Text

namespace Scalar

/-- Every scalar is among those that are tried. -/
theorem mem_all (s : Scalar) : s ∈ all := by cases s <;> decide

/-- A text that stands for a scalar is one of its words in lower case. -/
theorem lower_mem_words {t : Text} {s : Scalar} (h : ofText? t = some s) : Text.lower t ∈ s.words := by
  have := List.find?_some h
  simpa using this

/-- Whether a piece, in lower case, is in no word of the table. -/
def IsForeign (piece : Text) : Prop :=
  'Σ' ∉ piece ∧ ∀ s ∈ all, ∀ word ∈ s.words, Text.occursIn (piece.flatMap Text.lowerChar) word = false

instance (piece : Text) : Decidable (IsForeign piece) := inferInstanceAs (Decidable (_ ∧ _))

/-- A text with a piece that is in no word stands for no scalar. -/
theorem ofText?_eq_none_of_infix {piece t : Text} (hp : IsForeign piece) (h : piece <:+: t) : ofText? t = none := by
  rw [Option.eq_none_iff_forall_ne_some]
  intro s hs
  have hw := hp.2 s (mem_all s) _ (lower_mem_words hs)
  rw [(Text.occursIn_iff _ _).mpr (Text.infix_lower h hp.1)] at hw
  exact Bool.noConfusion hw

/-- A text with a character that is in no word stands for no scalar. -/
theorem ofText?_eq_none_of_mem {c : Char} {t : Text} (hc : IsForeign [c]) (h : c ∈ t) : ofText? t = none := by
  obtain ⟨a, b, rfl⟩ := List.append_of_mem h
  exact ofText?_eq_none_of_infix hc ⟨a, b, by simp⟩

/-! ## Pieces that are in no word -/

/-- No word has a mark of nullability in it. -/
theorem isForeign_nullable : IsForeign ['?'] := by decide

theorem isForeign_opening : IsForeign ['<'] := by decide

theorem isForeign_closing : IsForeign ['>'] := by decide

theorem isForeign_brackets : IsForeign "[]".toList := by decide

theorem isForeign_namespace : IsForeign "System.Collections".toList := by decide

theorem isForeign_array : IsForeign "Array".toList := by decide

end Scalar

end ModelStubs
