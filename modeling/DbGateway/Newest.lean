import Mathlib.Data.Finset.Sort

/-!
# DbGateway.Newest

The greatest elements of a finite set.

What stands in front of the last `k` of the sorted elements are the elements with
`k` greater ones (`mem_take_sorted_iff`).
-/

namespace DbGateway.Newest

variable {α : Type*} [LinearOrder α]

/-- The elements of a set, in order. -/
def sorted (s : Finset α) : List α := s.sort (· ≤ ·)

theorem length_sorted (s : Finset α) : (sorted s).length = s.card := Finset.length_sort _

theorem mem_sorted {s : Finset α} {x : α} : x ∈ sorted s ↔ x ∈ s := Finset.mem_sort _

theorem pairwise_sorted (s : Finset α) : (sorted s).Pairwise (· < ·) := s.sortedLT_sort.pairwise

/-- In a sorted list, `k` elements or more are greater than one that stands in
front of the last `k`. -/
theorem mem_take_iff {xs : List α} (h : xs.Pairwise (· < ·)) {k n : Nat} (hk : n + k = xs.length)
    {x : α} : x ∈ xs.take n ↔ x ∈ xs ∧ k ≤ (xs.filter (x < ·)).length := by
  induction xs generalizing n with
  | nil =>
      rw [List.take_nil]
      exact iff_of_false List.not_mem_nil fun h => List.not_mem_nil h.1
  | cons y xs ih =>
      obtain ⟨hy, hxs⟩ := List.pairwise_cons.mp h
      cases n with
      | zero =>
          rw [List.take_zero]
          refine iff_of_false List.not_mem_nil fun ⟨hx, hle⟩ => ?_
          have hlt : ((y :: xs).filter (x < ·)).length < (y :: xs).length := by
            rw [List.length_filter_lt_length_iff_exists]
            exact ⟨x, hx, by simp⟩
          omega
      | succ n =>
          have hk' : n + k = xs.length := by
            rw [List.length_cons] at hk
            omega
          rw [List.take_succ_cons, List.mem_cons, List.mem_cons]
          by_cases hxy : x = y
          · have hgreater : xs.filter (x < ·) = xs :=
              List.filter_eq_self.mpr fun z hz => decide_eq_true (hxy ▸ hy z hz)
            have hle : k ≤ ((y :: xs).filter (x < ·)).length := by
              rw [hxy, List.filter_cons_of_neg (by simp), ← hxy, hgreater]
              omega
            exact iff_of_true (.inl hxy) ⟨.inl hxy, hle⟩
          · by_cases hx : x ∈ xs
            · have hfirst : ¬ x < y := (hy x hx).asymm
              rw [ih hxs hk', List.filter_cons_of_neg (by simpa using hfirst)]
              simp [hxy]
            · refine iff_of_false ?_ ?_
              · rintro (h | h)
                · exact hxy h
                · exact hx (List.mem_of_mem_take h)
              · rintro ⟨h | h, -⟩
                · exact hxy h
                · exact hx h

/-- What is left out of the sorted elements for the last `k` of them. -/
theorem mem_take_sorted_iff {s : Finset α} {k : Nat} {x : α} :
    x ∈ (sorted s).take (s.card - k) ↔ x ∈ s ∧ k ≤ (s.filter (x < ·)).card := by
  have hgreater : (s.filter (x < ·)).card = ((sorted s).filter (x < ·)).length := by
    rw [Finset.card_def, Finset.filter_val, ← Finset.sort_eq s (· ≤ ·), Multiset.filter_coe,
      Multiset.coe_card]
    rfl
  rcases le_total k s.card with hle | hle
  · have hlength : s.card - k + k = (sorted s).length := by
      rw [length_sorted]
      omega
    rw [mem_take_iff (pairwise_sorted s) hlength, mem_sorted, hgreater]
  · rw [Nat.sub_eq_zero_of_le hle, List.take_zero]
    refine iff_of_false List.not_mem_nil fun ⟨hx, hk⟩ => ?_
    have hall := Finset.filter_card_eq (le_antisymm (Finset.card_filter_le _ _) (hle.trans hk)) x hx
    exact lt_irrefl x hall

end DbGateway.Newest
