import Mathlib.Data.List.Lex
import OpnsensePlugin.Python.Text

/-!
# The order of texts

Python compares texts code point by code point: the lexicographic order, which
is linear. Sorting forgets the order of the items and nothing else.
-/

namespace Python

variable {first second : Str}

theorem strLe_eq_true_iff : strLe first second = true ↔ first ≤ second := by
  induction first generalizing second with
  | nil => simp [strLe, ← not_lt]
  | cons a first ih =>
      cases second with
      | nil => simp [strLe, ← not_lt]
      | cons b second =>
          rw [← not_lt, List.cons_lt_cons_iff, not_or, not_and, not_lt, not_lt, ← ih, strLe]
          simp only [Bool.or_eq_true, Bool.and_eq_true, decide_eq_true_eq, beq_iff_eq]
          constructor
          · rintro (less | ⟨rfl, below⟩)
            · exact ⟨less.le, fun same => absurd same less.ne'⟩
            · exact ⟨le_rfl, fun _ => below⟩
          · rintro ⟨least, below⟩
            rcases least.lt_or_eq with less | rfl
            · exact Or.inl less
            · exact Or.inr ⟨rfl, below rfl⟩

instance : Std.Total fun first second : Str => strLe first second = true := by
  simp only [strLe_eq_true_iff]
  infer_instance

instance : Std.Antisymm fun first second : Str => strLe first second = true := by
  simp only [strLe_eq_true_iff]
  infer_instance

instance : IsTrans Str fun first second => strLe first second = true := by
  simp only [strLe_eq_true_iff]
  infer_instance

/-- Two lists are sorted alike if and only if they have the same items. -/
theorem sorted_eq_iff_perm {items others : List Str} :
    items.insertionSort (fun a b => strLe a b = true) =
      others.insertionSort (fun a b => strLe a b = true) ↔ items.Perm others := by
  have front := List.perm_insertionSort (fun a b => strLe a b = true) items
  have back := List.perm_insertionSort (fun a b => strLe a b = true) others
  constructor
  · intro same
    rw [← same] at back
    exact front.symm.trans back
  · intro same
    exact (front.trans (same.trans back.symm)).eq_of_pairwise'
      (List.pairwise_insertionSort _ items) (List.pairwise_insertionSort _ others)

/-! ## Sorting -/

section Sorting

variable {α : Type} {r : α → α → Prop} [DecidableRel r] {front back other : List α}

theorem insertionSort_append (same : back.insertionSort r = other.insertionSort r) :
    (front ++ back).insertionSort r = (front ++ other).insertionSort r := by
  induction front with
  | nil => exact same
  | cons item rest ih =>
      rw [List.cons_append, List.cons_append, List.insertionSort_cons, ih,
        List.insertionSort_cons]

/-- Items that the order tells apart are sorted alike in whatever order they come. -/
theorem insertionSort_of_perm [Std.Total r] [IsTrans α r] (perm : back.Perm other)
    (apart : ∀ first ∈ back, ∀ second ∈ back, r first second → r second first → first = second) :
    back.insertionSort r = other.insertionSort r := by
  have left := List.perm_insertionSort r back
  have right := List.perm_insertionSort r other
  refine (left.trans (perm.trans right.symm)).eq_of_pairwise ?_
    (List.pairwise_insertionSort r back) (List.pairwise_insertionSort r other)
  intro first second member listed
  exact apart first (left.mem_iff.mp member) second (perm.mem_iff.mpr (right.mem_iff.mp listed))

end Sorting

end Python
