import Mathlib.Data.List.Forall2
import Mathlib.Data.List.Sort

/-!
# DbGateway.Rows

Relational operators on lists of rows: outer joins, duplicate elimination,
grouping and sorting, over arbitrary row types.

Two families of facts.  *Parametricity*: every operator carries a relation
between the rows of two inputs over to its outputs, as soon as what it looks at
(the condition, the key) is the same on related rows.  *Guards*: a join whose
result is filtered afterwards depends only on the rows of its inputs that pass
their part of the filter (`filter_join_congr`), whichever sides it keeps.
-/

namespace DbGateway.Rows

open List

variable {α α' β β' γ γ' κ : Type}

/-! ## Operators -/

/-- A join: the pairs that satisfy the condition; with `keepLeft`, the left
rows without a partner against the null row, and with `keepRight` the right
ones. -/
def join (combine : α → β → γ) (holds : γ → Bool) (keepLeft keepRight : Bool) (nullLeft : α)
    (nullRight : β) (left : List α) (right : List β) : List γ :=
  (left.flatMap fun l =>
    let partners := (right.map (combine l)).filter holds
    if partners.isEmpty && keepLeft then [combine l nullRight] else partners) ++
  if keepRight then
    (right.filter fun r => left.all fun l => !holds (combine l r)).map (combine nullLeft)
  else []

/-- The first row of each key. -/
def dedupOn [DecidableEq κ] (key : α → κ) : List α → List α
  | [] => []
  | x :: xs => x :: (dedupOn key xs).filter (key · ≠ key x)

/-- The rows of each key, keys in the order they first occur. -/
def groupOn [DecidableEq κ] (key : α → κ) (rows : List α) : List (List α) :=
  (dedupOn key rows).map fun r => rows.filter (key · = key r)

/-- Stable sorting by a key. -/
def sortOn (le : κ → κ → Bool) (key : α → κ) (rows : List α) : List α :=
  rows.insertionSort fun x y => le (key x) (key y) = true

/-! ## Parametricity -/

section Parametricity

variable {R : α → α' → Prop} {S : β → β' → Prop} {T : γ → γ' → Prop}
  {xs : List α} {ys : List α'}

/-- Filtering by conditions that agree on related rows. -/
theorem forall₂_filter {p : α → Bool} {q : α' → Bool} (h : Forall₂ R xs ys)
    (hpq : ∀ x y, R x y → p x = q y) : Forall₂ R (xs.filter p) (ys.filter q) :=
  rel_filter (fun _ _ hr => Bool.eq_iff_iff.mp (hpq _ _ hr)) h

theorem forall₂_map {f : α → γ} {g : α' → γ'} (h : Forall₂ R xs ys)
    (hfg : ∀ x y, R x y → T (f x) (g y)) : Forall₂ T (xs.map f) (ys.map g) :=
  rel_map (fun x y hr => hfg x y hr) h

theorem forall₂_append {xs' : List α} {ys' : List α'} (h : Forall₂ R xs ys)
    (h' : Forall₂ R xs' ys') : Forall₂ R (xs ++ xs') (ys ++ ys') :=
  rel_append h h'

theorem forall₂_isEmpty (h : Forall₂ R xs ys) : xs.isEmpty = ys.isEmpty := by
  cases h <;> rfl

theorem forall₂_all {p : α → Bool} {q : α' → Bool} (h : Forall₂ R xs ys)
    (hpq : ∀ x y, R x y → p x = q y) : xs.all p = ys.all q := by
  induction h with
  | nil => rfl
  | cons hr _ ih => simp only [List.all_cons, hpq _ _ hr, ih]

/-- A condition only matters on the members. -/
theorem all_congr_mem {p q : α → Bool} (h : ∀ x ∈ xs, p x = q x) : xs.all p = xs.all q :=
  forall₂_all (R := fun x y => p x = q y) (forall₂_same.mpr h) fun _ _ => id

/-- A key that is the same on related rows. -/
theorem forall₂_map_eq {f : α → κ} {g : α' → κ} (h : Forall₂ R xs ys)
    (hfg : ∀ x y, R x y → f x = g y) : xs.map f = ys.map g :=
  forall₂_eq_eq_eq ▸ forall₂_map h hfg

/-- Related inputs under a condition that agrees have related joins. -/
theorem forall₂_join {combine : α → β → γ} {combine' : α' → β' → γ'} {holds : γ → Bool}
    {holds' : γ' → Bool} {keepLeft keepRight : Bool} {nullLeft : α} {nullLeft' : α'}
    {nullRight : β} {nullRight' : β'} {left : List α} {left' : List α'} {right : List β}
    {right' : List β'} (hleft : Forall₂ R left left') (hright : Forall₂ S right right')
    (hnullLeft : R nullLeft nullLeft') (hnullRight : S nullRight nullRight')
    (hcombine : ∀ l l' r r', R l l' → S r r' → T (combine l r) (combine' l' r'))
    (hholds : ∀ x y, T x y → holds x = holds' y) :
    Forall₂ T (join combine holds keepLeft keepRight nullLeft nullRight left right)
      (join combine' holds' keepLeft keepRight nullLeft' nullRight' left' right') := by
  refine forall₂_append (rel_flatMap hleft fun l l' hl => ?_) ?_
  · have hpartners : Forall₂ T ((right.map (combine l)).filter holds)
        ((right'.map (combine' l')).filter holds') :=
      forall₂_filter (forall₂_map hright fun r r' hr => hcombine l l' r r' hl hr) hholds
    dsimp only
    rw [forall₂_isEmpty hpartners]
    split
    · exact .cons (hcombine _ _ _ _ hl hnullRight) .nil
    · exact hpartners
  · split
    · refine forall₂_map (forall₂_filter hright fun r r' hr => ?_)
        fun r r' hr => hcombine _ _ _ _ hnullLeft hr
      exact forall₂_all hleft fun l l' hl => by rw [hholds _ _ (hcombine l l' r r' hl hr)]
    · exact .nil

theorem forall₂_dedupOn [DecidableEq κ] {key : α → κ} {key' : α' → κ} (h : Forall₂ R xs ys)
    (hkey : ∀ x y, R x y → key x = key' y) : Forall₂ R (dedupOn key xs) (dedupOn key' ys) := by
  induction h with
  | nil => exact .nil
  | cons hr _ ih =>
      exact .cons hr (forall₂_filter ih fun x y hxy => by rw [hkey _ _ hxy, hkey _ _ hr])

theorem forall₂_groupOn [DecidableEq κ] {key : α → κ} {key' : α' → κ} (h : Forall₂ R xs ys)
    (hkey : ∀ x y, R x y → key x = key' y) :
    Forall₂ (Forall₂ R) (groupOn key xs) (groupOn key' ys) :=
  forall₂_map (forall₂_dedupOn h hkey) fun x y hr =>
    forall₂_filter h fun x' y' hr' => by rw [hkey _ _ hr, hkey _ _ hr']

theorem forall₂_sortOn {le : κ → κ → Bool} {key : α → κ} {key' : α' → κ} (h : Forall₂ R xs ys)
    (hkey : ∀ x y, R x y → key x = key' y) : Forall₂ R (sortOn le key xs) (sortOn le key' ys) := by
  have hinsert : ∀ {x y xs ys}, R x y → Forall₂ R xs ys →
      Forall₂ R (xs.orderedInsert (fun x y => le (key x) (key y) = true) x)
        (ys.orderedInsert (fun x y => le (key' x) (key' y) = true) y) := by
    intro x y xs ys hr hxs
    induction hxs with
    | nil => exact .cons hr .nil
    | cons hr' hrest ih =>
        simp only [List.orderedInsert, hkey _ _ hr, hkey _ _ hr']
        split
        · exact .cons hr (.cons hr' hrest)
        · exact .cons hr' ih
  induction h with
  | nil => exact .nil
  | cons hr _ ih => exact hinsert hr ih

end Parametricity

/-! ## Guards -/

section Guards

variable {combine : α → β → γ} {holds guard : γ → Bool} {guardLeft : α → Bool}
  {guardRight : β → Bool}

theorem filter_map_combine (hguard : ∀ l r, guard (combine l r) = (guardLeft l && guardRight r))
    (right : List β) (l : α) :
    (right.map (combine l)).filter guard =
      if guardLeft l then (right.filter guardRight).map (combine l) else [] := by
  rw [List.filter_map]
  by_cases hl : guardLeft l = true
  · rw [if_pos hl]
    congr 1
    exact List.filter_congr fun r _ => by simp [hguard, hl]
  · rw [if_neg hl, List.map_eq_nil_iff, List.filter_eq_nil_iff]
    exact fun r _ => by simp [hguard, hl]

/-- **Guarded joins.** A join that is filtered by a conjunction of a left and a
right guard only depends on the rows passing their own guard; where a null row
passes a guard, that side has to be the same altogether. -/
theorem filter_join_congr {keepLeft keepRight : Bool} {nullLeft : α} {nullRight : β}
    {left left' : List α} {right right' : List β}
    (hguard : ∀ l r, guard (combine l r) = (guardLeft l && guardRight r))
    (hleft : left.filter guardLeft = left'.filter guardLeft)
    (hright : right.filter guardRight = right'.filter guardRight)
    (hnullLeft : guardLeft nullLeft = true → left = left')
    (hnullRight : guardRight nullRight = true → right = right') :
    (join combine holds keepLeft keepRight nullLeft nullRight left right).filter guard =
      (join combine holds keepLeft keepRight nullLeft nullRight left' right').filter guard := by
  -- what is left of the partners of one left row
  have hpartners : ∀ (right : List β) (l : α), guardLeft l = true →
      ((right.map (combine l)).filter holds).filter guard =
        ((right.filter guardRight).map (combine l)).filter holds := by
    intro right l hl
    rw [List.filter_comm, filter_map_combine hguard, if_pos hl]
  let rows (right : List β) (l : α) : List γ :=
    if ((right.map (combine l)).filter holds).isEmpty && keepLeft then [combine l nullRight]
    else (right.map (combine l)).filter holds
  -- a left row outside its guard leaves nothing
  have houtside : ∀ (right : List β) (l : α), guardLeft l = false →
      (rows right l).filter guard = [] := by
    intro right l hl
    simp only [rows]
    split
    · simp [hguard, hl]
    · rw [List.filter_comm, filter_map_combine hguard]
      simp [hl]
  -- a left row inside its guard leaves the same on both sides
  have hinside : ∀ l, guardLeft l = true →
      (rows right l).filter guard = (rows right' l).filter guard := by
    intro l hl
    by_cases hnull : guardRight nullRight = true
    · rw [hnullRight hnull]
    · have hdrop : ∀ right : List β, (rows right l).filter guard =
          ((right.filter guardRight).map (combine l)).filter holds := by
        intro right
        rw [← hpartners right l hl]
        simp only [rows]
        split
        · next hempty =>
            rw [Bool.and_eq_true, List.isEmpty_iff] at hempty
            simp [hempty.1, hguard, hnull]
        · rfl
      rw [hdrop, hdrop, hright]
  have hfirst : ∀ (left : List α) (right : List β), (left.flatMap (rows right)).filter guard =
      (left.filter guardLeft).flatMap fun l => (rows right l).filter guard := by
    intro left right
    rw [List.filter_flatMap]
    induction left with
    | nil => rfl
    | cons l left ih =>
        rw [List.flatMap_cons, ih]
        by_cases hl : guardLeft l = true
        · rw [List.filter_cons_of_pos hl, List.flatMap_cons]
        · rw [List.filter_cons_of_neg hl, houtside right l (by simpa using hl), List.nil_append]
  have hsecond : ∀ (left : List α) (right : List β),
      ((right.filter fun r => left.all fun l => !holds (combine l r)).map
          (combine nullLeft)).filter guard =
        if guardLeft nullLeft then
          ((right.filter guardRight).filter fun r => left.all fun l => !holds (combine l r)).map
            (combine nullLeft)
        else [] := by
    intro left right
    rw [filter_map_combine hguard, List.filter_comm]
  have hmain : ((left.flatMap (rows right)).filter guard) =
      ((left'.flatMap (rows right')).filter guard) := by
    rw [hfirst, hfirst, hleft]
    refine List.flatMap_congr fun l hl => hinside l (List.mem_filter.mp hl).2
  unfold join
  rw [List.filter_append, List.filter_append]
  refine congrArg₂ (· ++ ·) hmain ?_
  split
  · rw [hsecond, hsecond, hright]
    by_cases hnull : guardLeft nullLeft = true
    · rw [hnullLeft hnull]
    · rw [if_neg hnull, if_neg hnull]
  · rfl

end Guards

end DbGateway.Rows
