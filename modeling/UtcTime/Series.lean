/-
Module: UtcTime.Series
Purpose: Lists of spans or of instants: putting them in order, and counting the different ones. The
  order is total and tells different values apart, so a list has one arrangement in order, and it
  does not depend on how the list stood before.
Trusted boundary: none
Main exports: Series.sorted, Series.distinct, Series.eq_sorted_iff, Series.distinct_eq_length
-/
import UtcTime.Instant.Basic

namespace UtcTime

/-! ### The orders of spans and of instants

Both are compared by an integer that no two of them share. -/

namespace Span

instance : Std.TransOrd Span := inferInstanceAs (Std.TransCmp (compareOn rank))

instance : Std.LawfulEqOrd Span where
  eq_of_compare h := rank_injective (Std.LawfulEqOrd.eq_of_compare (α := Int) h)

end Span

namespace Instant

instance : Std.TransOrd Instant := inferInstanceAs (Std.TransCmp (compareOn nanos))

instance : Std.LawfulEqOrd Instant where
  eq_of_compare h := Instant.ext (Std.LawfulEqOrd.eq_of_compare (α := Nat) h)

end Instant

namespace Series

variable {α : Type}

/-- The values in ascending order. Equal values stay. -/
def sorted [Ord α] (values : List α) : List α :=
  values.mergeSort fun a b => (compare a b).isLE

/-- The number of different values. -/
def distinct [DecidableEq α] (values : List α) : Nat :=
  values.eraseDups.length

/-! ### Order

Of values that compare equal there is only one, so that it does not matter in which order a sort
leaves those. -/

section

variable [Ord α] [Std.TransOrd α]

/-- Sorting leaves a list in ascending order. -/
theorem pairwise_sorted (values : List α) :
    (sorted values).Pairwise fun a b => (compare a b).isLE = true := by
  apply List.pairwise_mergeSort
  · intro a b c hab hbc
    exact Std.TransCmp.isLE_trans hab hbc
  · intro a b
    rw [Std.OrientedOrd.eq_swap (a := b)]
    cases compare a b <;> rfl

/-- Sorting gives the one arrangement of the values that is in ascending order. -/
theorem eq_sorted_iff [Std.LawfulEqOrd α] {values result : List α} :
    result = sorted values ↔
      result.Perm values ∧ result.Pairwise fun a b => (compare a b).isLE = true := by
  constructor
  · rintro rfl
    exact ⟨List.mergeSort_perm values _, pairwise_sorted values⟩
  · rintro ⟨hperm, hpairwise⟩
    apply List.Perm.eq_of_pairwise _ hpairwise (pairwise_sorted values)
    · exact hperm.trans (List.mergeSort_perm values _).symm
    · intro a b _ _ hab hba
      exact Std.LawfulEqOrd.eq_of_compare (Std.OrientedCmp.isLE_antisymm hab hba)

end

/-! ### Different values

Of each value the first occurrence is kept, and what is kept is counted. -/

section

variable [DecidableEq α]

/-- No value is kept twice. -/
theorem nodup_eraseDups : (values : List α) → values.eraseDups.Nodup
  | [] => List.nodup_nil
  | a :: values => by
      -- What is kept after the first value comes from the others that differ from it.
      rw [List.eraseDups_cons, List.nodup_cons]
      constructor
      · rw [List.mem_eraseDups, List.mem_filter, beq_self_eq_true]
        rintro ⟨-, hne⟩
        cases hne
      · exact nodup_eraseDups _
termination_by values => values.length
decreasing_by exact Nat.lt_succ_of_le (List.length_filter_le _ _)

/-- The count is the length of any list that has the same values, each of them once. -/
theorem distinct_eq_length {values different : List α} (hnodup : different.Nodup)
    (hmem : ∀ a, a ∈ different ↔ a ∈ values) : distinct values = different.length := by
  apply List.Perm.length_eq
  rw [List.perm_ext_iff_of_nodup (nodup_eraseDups values) hnodup]
  intro a
  rw [List.mem_eraseDups, hmem a]

end

end Series

end UtcTime
