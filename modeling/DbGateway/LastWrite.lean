import Mathlib.Data.List.Induction
import Mathlib.Data.Set.Defs
import Mathlib.Logic.Function.Basic

/-!
# DbGateway.LastWrite

A store of cells that only ever change by being overwritten.

What a cell holds is what the last write to it put there (`store_apply`).  Who
writes where is given by a function from writes to cells; the writers are told
apart by a second function, and where no two of them share a cell, a cell holds
the last write of its owner (`store_of_separate`).
-/

namespace DbGateway.LastWrite

/-! ## The last element satisfying a predicate -/

section Last

variable {ω : Type*}

/-- The last write satisfying `p`. -/
def last (p : ω → Bool) (writes : List ω) : Option ω := (writes.filter p).getLast?

theorem last_concat (p : ω → Bool) (writes : List ω) (w : ω) :
    last p (writes ++ [w]) = if p w then some w else last p writes := by
  cases hp : p w with
  | false => simp [last, List.filter_append, hp]
  | true => simp [last, List.filter_append, hp]

theorem last_congr {p q : ω → Bool} {writes : List ω} (h : ∀ w ∈ writes, p w = q w) :
    last p writes = last q writes := by
  rw [last, last, List.filter_congr h]

theorem last_filter (p q : ω → Bool) (writes : List ω) :
    last p (writes.filter q) = last (fun w => q w && p w) writes := by
  rw [last, last, List.filter_filter]
  simp only [Bool.and_comm]

theorem last_eq_none_iff {p : ω → Bool} {writes : List ω} :
    last p writes = none ↔ ∀ w ∈ writes, p w = false := by
  simp [last]

theorem last_eq_some {p : ω → Bool} {writes : List ω} {w : ω} (h : last p writes = some w) :
    w ∈ writes ∧ p w = true := by
  exact List.mem_filter.mp (List.mem_of_getLast? h)

end Last

/-! ## The store -/

section Store

variable {ω κ ι α : Type*} [DecidableEq κ] [DecidableEq ι]

/-- The cells after some writes. -/
def store (cell : ω → κ) (content : ω → α) (writes : List ω) : κ → Option α :=
  writes.foldl (fun cells w => Function.update cells (cell w) (some (content w))) fun _ => none

theorem store_concat (cell : ω → κ) (content : ω → α) (writes : List ω) (w : ω) :
    store cell content (writes ++ [w]) =
      Function.update (store cell content writes) (cell w) (some (content w)) := by
  rw [store, List.foldl_append]
  rfl

/-- A cell holds what was last written to it. -/
theorem store_apply (cell : ω → κ) (content : ω → α) (writes : List ω) (k : κ) :
    store cell content writes k = (last (fun w => cell w = k) writes).map content := by
  induction writes using List.reverseRecOn with
  | nil => rfl
  | append_singleton writes w ih =>
      rw [store_concat, last_concat]
      by_cases hk : cell w = k
      · subst hk
        simp
      · rw [Function.update_of_ne (Ne.symm hk), ih, if_neg (by simpa using hk)]

/-- Two writes to the same cell have the same owner. -/
def Separate (cell : ω → κ) (owner : ω → ι) (S : Set ω) : Prop :=
  ∀ w ∈ S, ∀ w' ∈ S, cell w = cell w' → owner w = owner w'

/-- **A cell nobody shares** holds the last write of its owner. -/
theorem store_of_separate {cell : ω → κ} {owner : ω → ι} {S : Set ω}
    (hseparate : Separate cell owner S) (hcell : ∀ w ∈ S, ∀ w' ∈ S, owner w = owner w' →
      cell w = cell w') (content : ω → α) {writes : List ω} (hwrites : ∀ w ∈ writes, w ∈ S)
    {w : ω} (hw : w ∈ S) :
    store cell content writes (cell w) =
      (last (fun w' => owner w' = owner w) writes).map content := by
  rw [store_apply]
  refine congrArg _ (last_congr fun w' hw' => ?_)
  have hiff : cell w' = cell w ↔ owner w' = owner w :=
    ⟨hseparate w' (hwrites w' hw') w hw, hcell w' (hwrites w' hw') w hw⟩
  simp only [hiff]

end Store

end DbGateway.LastWrite
