import Mathlib.Data.Set.Lattice
import Mathlib.Data.Finset.Image

/-!
# DbGateway.AccessControl

Deny-overrides access control over arbitrary resources, and whitelists in
which "no list" means "no restriction".

A rule grants a set of resources and denies a set of resources.  A rule set
*permits* a resource when some rule grants it and no rule denies it; a request
for several resources is admitted when each of them is.  Whitelists are lists
of finite sets: the empty ones do not count, and when none is left everything
is admitted.

The module knows nothing of policies, principals or SQL.
-/

namespace DbGateway.AccessControl

universe u v w

variable {α : Type u} {β : Type u} {ρ : Type v} {κ : Type w}

/-! ## Rules inserted into a list -/

/-- `zs` is `xs` with the rules `ys` inserted, in this order, anywhere. -/
inductive Inserted : List α → List α → List α → Prop
  | nil : Inserted [] [] []
  | keep {xs ys zs : List α} (x : α) : Inserted xs ys zs → Inserted (x :: xs) ys (x :: zs)
  | insert {xs ys zs : List α} (y : α) : Inserted xs ys zs → Inserted xs (y :: ys) (y :: zs)

theorem Inserted.refl (xs : List α) : Inserted xs [] xs := by
  induction xs with
  | nil => exact .nil
  | cons x xs ih => exact .keep x ih

/-- One rule inserted at some position. -/
theorem inserted_singleton (pre post : List α) (y : α) :
    Inserted (pre ++ post) [y] (pre ++ y :: post) := by
  induction pre with
  | nil => exact .insert y (.refl post)
  | cons x pre ih => exact .keep x ih

theorem Inserted.mem_iff {xs ys zs : List α} (h : Inserted xs ys zs) {x : α} :
    x ∈ zs ↔ x ∈ xs ∨ x ∈ ys := by
  induction h with
  | nil => simp
  | keep y _ ih => rw [List.mem_cons, List.mem_cons, ih, or_assoc]
  | insert y _ ih => rw [List.mem_cons, List.mem_cons, ih, or_left_comm]

theorem Inserted.eq_of_nil {xs zs : List α} (h : Inserted xs [] zs) : zs = xs := by
  induction xs generalizing zs with
  | nil =>
      cases h
      rfl
  | cons x xs ih =>
      cases h with
      | keep _ h => rw [ih h]

theorem Inserted.filter {xs ys zs : List α} (h : Inserted xs ys zs) (p : α → Bool) :
    Inserted (xs.filter p) (ys.filter p) (zs.filter p) := by
  induction h with
  | nil => exact .nil
  | keep x _ ih =>
      rw [List.filter_cons, List.filter_cons]
      split
      · exact .keep x ih
      · exact ih
  | insert y _ ih =>
      rw [List.filter_cons, List.filter_cons]
      split
      · exact .insert y ih
      · exact ih

theorem Inserted.map {xs ys zs : List α} (h : Inserted xs ys zs) (f : α → β) :
    Inserted (xs.map f) (ys.map f) (zs.map f) := by
  induction h with
  | nil => exact .nil
  | keep x _ ih => exact .keep (f x) ih
  | insert y _ ih => exact .insert (f y) ih

/-- A test the inserted rules fail does not see them. -/
theorem Inserted.filter_eq {xs ys zs : List α} (h : Inserted xs ys zs) {p : α → Bool}
    (hp : ∀ y ∈ ys, p y = false) : zs.filter p = xs.filter p := by
  have hnone : ys.filter p = [] := List.filter_eq_nil_iff.mpr fun y hy => by simp [hp y hy]
  have hfilter := h.filter p
  rw [hnone] at hfilter
  exact hfilter.eq_of_nil

/-- Inserted rules that change nothing leave what is gathered from the list. -/
theorem Inserted.foldl_eq {σ : Type w} {f : σ → α → σ} {xs ys zs : List α}
    (h : Inserted xs ys zs) (hf : ∀ y ∈ ys, ∀ s, f s y = s) (s : σ) :
    zs.foldl f s = xs.foldl f s := by
  induction h generalizing s with
  | nil => rfl
  | keep x _ ih => exact ih hf (f s x)
  | insert y _ ih =>
      rw [List.foldl_cons, hf y List.mem_cons_self]
      exact ih (fun y' hy' => hf y' (List.mem_cons_of_mem _ hy')) s

/-! ## Deny-overrides -/

/-- The resources some rule of the list reaches. -/
def reached (covers : α → Set ρ) (rules : List α) : Set ρ := {x | ∃ r ∈ rules, x ∈ covers r}

/-- The resources granted by some rule and denied by none. -/
def permitted (grants denies : α → Set ρ) (rules : List α) : Set ρ :=
  reached grants rules \ reached denies rules

@[simp] theorem mem_reached {covers : α → Set ρ} {rules : List α} {x : ρ} :
    x ∈ reached covers rules ↔ ∃ r ∈ rules, x ∈ covers r := Iff.rfl

theorem mem_permitted {grants denies : α → Set ρ} {rules : List α} {x : ρ} :
    x ∈ permitted grants denies rules ↔
      (∃ r ∈ rules, x ∈ grants r) ∧ ∀ r ∈ rules, x ∉ denies r := by
  simp [permitted]

theorem Inserted.reached_eq {covers : α → Set ρ} {xs ys zs : List α} (h : Inserted xs ys zs) :
    reached covers zs = reached covers xs ∪ reached covers ys := by
  ext x
  simp only [mem_reached, h.mem_iff, or_and_right, exists_or, Set.mem_union]

/-- Rules that grant nothing only take away, and what they take is what they
deny. -/
theorem Inserted.mem_permitted_of_denying {grants denies : α → Set ρ} {xs ys zs : List α}
    (h : Inserted xs ys zs) (hy : ∀ y ∈ ys, grants y = ∅) {x : ρ} :
    x ∈ permitted grants denies zs ↔
      x ∈ permitted grants denies xs ∧ ∀ y ∈ ys, x ∉ denies y := by
  have hgrants : x ∉ reached grants ys := by
    intro ⟨y, hmem, hx⟩
    rw [hy y hmem] at hx
    exact hx
  have hdenies : x ∉ reached denies ys ↔ ∀ y ∈ ys, x ∉ denies y := by
    simp only [mem_reached, not_exists, not_and]
  simp only [permitted, h.reached_eq, Set.mem_sdiff, Set.mem_union, hgrants, or_false, not_or,
    hdenies, and_assoc]

/-- Rules that deny nothing only add. -/
theorem Inserted.permitted_subset_of_granting {grants denies : α → Set ρ} {xs ys zs : List α}
    (h : Inserted xs ys zs) (hy : ∀ y ∈ ys, denies y = ∅) :
    permitted grants denies xs ⊆ permitted grants denies zs := by
  intro x hx
  obtain ⟨⟨r, hr, hgrant⟩, hdeny⟩ := mem_permitted.mp hx
  refine mem_permitted.mpr ⟨⟨r, h.mem_iff.mpr (.inl hr), hgrant⟩, fun r' hr' => ?_⟩
  cases h.mem_iff.mp hr' with
  | inl hr' => exact hdeny r' hr'
  | inr hr' => simp [hy r' hr']

/-! ## Whitelists -/

/-- What a collection of whitelists admits: everything when no list has an
entry, the union of the lists otherwise. -/
def Admits (lists : List (Finset κ)) (c : κ) : Prop :=
  (∀ l ∈ lists, l = ∅) ∨ ∃ l ∈ lists, c ∈ l

/-- The union of a list of finite sets. -/
def unionAll [DecidableEq κ] : List (Finset κ) → Finset κ
  | [] => ∅
  | l :: ls => l ∪ unionAll ls

@[simp] theorem mem_unionAll [DecidableEq κ] {lists : List (Finset κ)} {c : κ} :
    c ∈ unionAll lists ↔ ∃ l ∈ lists, c ∈ l := by
  induction lists with
  | nil => simp [unionAll]
  | cons l ls ih => simp [unionAll, ih]

/-- A set of references passes exactly when it is empty, when there is no
list to check it against, or when it lies inside the union. -/
theorem forall_admits_iff [DecidableEq κ] {lists : List (Finset κ)} {refs : Finset κ} :
    (∀ c ∈ refs, Admits lists c) ↔
      refs = ∅ ∨ (∀ l ∈ lists, l = ∅) ∨ refs ⊆ unionAll lists := by
  constructor
  · intro h
    by_cases hall : ∀ l ∈ lists, l = ∅
    · exact .inr (.inl hall)
    · refine .inr (.inr fun c hc => ?_)
      rcases h c hc with h | h
      · exact absurd h hall
      · exact mem_unionAll.mpr h
  · rintro (h | h | h) c hc
    · rw [h] at hc
      exact absurd hc (Finset.notMem_empty c)
    · exact .inl h
    · exact .inr (mem_unionAll.mp (h hc))

/-- What a further whitelist does to references that passed without it: it
must admit them, unless it is empty or there was a whitelist before. -/
theorem Inserted.forall_admits_iff {lists lists' : List (Finset κ)} {l : Finset κ}
    (h : Inserted lists [l] lists') {refs : Finset κ} (hrefs : ∀ c ∈ refs, Admits lists c) :
    (∀ c ∈ refs, Admits lists' c) ↔ l = ∅ ∨ refs ⊆ l ∨ ∃ l' ∈ lists, l' ≠ ∅ := by
  have hmem : ∀ {l'}, l' ∈ lists' ↔ l' ∈ lists ∨ l' = l := by
    intro l'
    rw [h.mem_iff, List.mem_singleton]
  constructor
  · intro hadmits
    by_contra hcon
    simp only [not_or, not_exists, not_and, not_not] at hcon
    obtain ⟨hne, hsub, hempty⟩ := hcon
    refine hsub fun c hc => ?_
    cases hadmits c hc with
    | inl hall => exact absurd (hall l (hmem.mpr (.inr rfl))) hne
    | inr hsome =>
        obtain ⟨l', hl', hcl'⟩ := hsome
        cases hmem.mp hl' with
        | inl hold =>
            rw [hempty l' hold] at hcl'
            exact absurd hcl' (Finset.notMem_empty c)
        | inr hnew => exact hnew ▸ hcl'
  · intro hcond c hc
    cases hrefs c hc with
    | inr hsome =>
        obtain ⟨l', hl', hcl'⟩ := hsome
        exact .inr ⟨l', hmem.mpr (.inl hl'), hcl'⟩
    | inl hall =>
        rcases hcond with hempty | hsub | ⟨l', hl', hne⟩
        · refine .inl fun l' hl' => ?_
          cases hmem.mp hl' with
          | inl hold => exact hall l' hold
          | inr hnew => rw [hnew, hempty]
        · exact .inr ⟨l, hmem.mpr (.inr rfl), hsub hc⟩
        · exact absurd (hall l' hl') hne

end DbGateway.AccessControl
