import Mathlib.Data.List.Forall2

/-!
# DbGateway.Fallible

Going through a list with a function that can fail, up to the first failure.
-/

namespace DbGateway.Fallible

variable {ε : Type*} {α β γ : Type _} {f : α → Except ε β} {xs : List α}

theorem bind_eq_ok_iff {x : Except ε α} {g : α → Except ε β} {b : β} :
    (x >>= g) = .ok b ↔ ∃ a, x = .ok a ∧ g a = .ok b := by
  cases x with
  | ok a => simp [bind, Except.bind]
  | error e => simp [bind, Except.bind]

theorem unit_bind_eq_ok_iff {x : Except ε Unit} {g : Unit → Except ε β} {b : β} :
    (x >>= g) = .ok b ↔ x = .ok () ∧ g () = .ok b := by
  rw [bind_eq_ok_iff]
  exact ⟨fun ⟨_, hx, hg⟩ => ⟨hx, hg⟩, fun ⟨hx, hg⟩ => ⟨(), hx, hg⟩⟩

theorem pure_eq_ok_iff {a b : α} : (pure a : Except ε α) = .ok b ↔ a = b := by
  change Except.ok a = .ok b ↔ a = b
  rw [Except.ok.injEq]

theorem map_eq_ok_iff {x : Except ε α} {g : α → β} {b : β} :
    x.map g = .ok b ↔ ∃ a, x = .ok a ∧ g a = b := by
  cases x with
  | ok a => simp [Except.map]
  | error e => simp [Except.map]

/-- A check before the rest. -/
theorem check_eq_ok_iff {c : Bool} {e : ε} {x : Except ε α} {a : α} :
    (if !c then .error e else x) = .ok a ↔ c = true ∧ x = .ok a := by
  cases c with
  | true => simp
  | false => simp

/-- It gets to the end when every element gives something. -/
theorem mapM_eq_ok_iff {ys : List β} :
    xs.mapM f = .ok ys ↔ List.Forall₂ (fun x y => f x = .ok y) xs ys := by
  induction xs generalizing ys with
  | nil => rw [List.mapM_nil, pure_eq_ok_iff, List.forall₂_nil_left_iff, eq_comm]
  | cons x xs ih =>
      rw [List.mapM_cons, bind_eq_ok_iff, List.forall₂_cons_left_iff]
      simp only [bind_eq_ok_iff, pure_eq_ok_iff, ih]
      constructor
      · intro ⟨y, hy, ys', hys, hcons⟩
        exact ⟨y, ys', hy, hys, hcons.symm⟩
      · intro ⟨y, ys', hy, hys, hcons⟩
        exact ⟨y, hy, ys', hys, hcons.symm⟩

/-- It gives what is wanted when every element does. -/
theorem exists_mapM_forall_iff (f : α → Except ε β) (xs : List α) (P : β → Prop) :
    (∃ ys, xs.mapM f = .ok ys ∧ ∀ y ∈ ys, P y) ↔ ∀ x ∈ xs, ∃ y, f x = .ok y ∧ P y := by
  simp only [mapM_eq_ok_iff]
  induction xs with
  | nil => simp
  | cons x xs ih =>
      simp only [List.forall₂_cons_left_iff, List.forall_mem_cons, ← ih]
      constructor
      · intro ⟨_, ⟨y, ys, hy, hys, rfl⟩, hP⟩
        rw [List.forall_mem_cons] at hP
        exact ⟨⟨y, hy, hP.1⟩, ys, hys, hP.2⟩
      · intro ⟨⟨y, hy, hPy⟩, ys, hys, hP⟩
        exact ⟨y :: ys, ⟨y, ys, hy, hys, rfl⟩, List.forall_mem_cons.mpr ⟨hPy, hP⟩⟩

theorem exists_mapM_eq_ok_iff (f : α → Except ε β) (xs : List α) :
    (∃ ys, xs.mapM f = .ok ys) ↔ ∀ x ∈ xs, ∃ y, f x = .ok y := by
  simpa using exists_mapM_forall_iff f xs fun _ => True

/-- Lists that go together, element by element. -/
theorem forall₂_flatMap {R : β → γ → Prop} {g : α → List β} {yss : List (List γ)}
    (h : List.Forall₂ (fun x ys => List.Forall₂ R (g x) ys) xs yss) :
    List.Forall₂ R (xs.flatMap g) yss.flatten := by
  rw [List.flatMap_def]
  exact List.rel_flatten (List.forall₂_map_left_iff.mpr h)

theorem sublist_flatMap {f : β → List γ} {g : α → List γ} {ys : List β}
    (h : List.Forall₂ (fun x y => (f y).Sublist (g x)) xs ys) :
    (ys.flatMap f).Sublist (xs.flatMap g) := by
  induction h with
  | nil => exact .slnil
  | cons hxy _ ih => exact hxy.append ih

/-- What is said of either list of a pair can be said of the other. -/
theorem forall_mem_iff_of_forall₂ {R : α → β → Prop} {P : β → Prop} {Q : α → Prop} {ys : List β}
    (h : List.Forall₂ R xs ys) (hiff : ∀ x y, R x y → (P y ↔ Q x)) :
    (∀ y ∈ ys, P y) ↔ ∀ x ∈ xs, Q x := by
  induction h with
  | nil => simp
  | cons hxy _ ih => rw [List.forall_mem_cons, List.forall_mem_cons, hiff _ _ hxy, ih]

theorem exists_mem_of_forall₂ {R : α → β → Prop} {ys : List β} (h : List.Forall₂ R xs ys) {x : α}
    (hx : x ∈ xs) : ∃ y ∈ ys, R x y := by
  induction h with
  | nil => exact absurd hx List.not_mem_nil
  | cons hxy _ ih =>
      cases hx with
      | head => exact ⟨_, List.mem_cons_self, hxy⟩
      | tail _ hx =>
          obtain ⟨y, hy, hR⟩ := ih hx
          exact ⟨y, List.mem_cons_of_mem _ hy, hR⟩

end DbGateway.Fallible
