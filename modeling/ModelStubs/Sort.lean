/-!
# Sorting

A list is sorted by insertion, a recursion on it, so that sorted lists can be computed. Elements of which neither stands
before the other keep their order.
-/

namespace ModelStubs

variable {α : Type} (before : α → α → Bool)

/-- A list with an element put in where the elements that stand before it end. -/
def insertBy (a : α) : List α → List α
  | [] => [a]
  | b :: rest => if before b a then b :: insertBy a rest else a :: b :: rest

/-- A list in the order in which one element stands before another. -/
def sortBy : List α → List α
  | [] => []
  | a :: rest => insertBy before a (sortBy rest)

/-- Inserting an element adds it to the list and leaves the others in it. -/
theorem perm_insertBy (a : α) (l : List α) : (insertBy before a l).Perm (a :: l) := by
  induction l with
  | nil => exact List.Perm.refl _
  | cons b rest ih =>
    rw [insertBy]
    split
    · exact (ih.cons b).trans (List.Perm.swap a b rest)
    · exact List.Perm.refl _

/-- A sorted list has the elements of the list, each as often. -/
theorem perm_sortBy (l : List α) : (sortBy before l).Perm l := by
  induction l with
  | nil => exact List.Perm.refl _
  | cons a rest ih => exact (perm_insertBy before a _).trans (ih.cons a)

@[simp] theorem mem_sortBy {a : α} {l : List α} : a ∈ sortBy before l ↔ a ∈ l := (perm_sortBy before l).mem_iff

variable {before}

/-- Inserting an element into a list in order keeps it in order. -/
theorem pairwise_insertBy (hasymm : ∀ a b, before a b = true → before b a = false)
    (htrans : ∀ a b c, before b a = false → before c b = false → before c a = false) (a : α) {l : List α}
    (hl : l.Pairwise fun a b => before b a = false) : (insertBy before a l).Pairwise fun a b => before b a = false := by
  induction l with
  | nil => exact List.pairwise_singleton _ _
  | cons b rest ih =>
    obtain ⟨hb, hrest⟩ := List.pairwise_cons.mp hl
    rw [insertBy]
    split
    · rename_i hba
      refine List.pairwise_cons.mpr ⟨fun c hc => ?_, ih hrest⟩
      rcases List.mem_cons.mp ((perm_insertBy before a rest).mem_iff.mp hc) with rfl | hc
      · exact hasymm b c hba
      · exact hb c hc
    · rename_i hba
      rw [Bool.not_eq_true] at hba
      refine List.pairwise_cons.mpr ⟨fun c hc => ?_, hl⟩
      rcases List.mem_cons.mp hc with rfl | hc
      · exact hba
      · exact htrans a b c hba (hb c hc)

/-- No element of a sorted list stands before an earlier one. -/
theorem pairwise_sortBy (hasymm : ∀ a b, before a b = true → before b a = false)
    (htrans : ∀ a b c, before b a = false → before c b = false → before c a = false) (l : List α) :
    (sortBy before l).Pairwise fun a b => before b a = false := by
  induction l with
  | nil => exact List.Pairwise.nil
  | cons a rest ih => exact pairwise_insertBy hasymm htrans a ih

/-- A sorted list stays as it is. -/
theorem sortBy_of_pairwise {l : List α} (h : l.Pairwise fun a b => before b a = false) : sortBy before l = l := by
  induction l with
  | nil => rfl
  | cons a rest ih =>
    obtain ⟨ha, hrest⟩ := List.pairwise_cons.mp h
    rw [sortBy, ih hrest]
    cases rest with
    | nil => rfl
    | cons b rest => rw [insertBy, ha b List.mem_cons_self, if_neg (by decide)]

end ModelStubs
