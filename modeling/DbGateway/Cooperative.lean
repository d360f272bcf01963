import Mathlib.Algebra.BigOperators.Group.List.Basic
import Mathlib.Algebra.Group.Nat.Defs
import Mathlib.Algebra.Group.Prod
import Mathlib.Logic.Relation

/-!
# DbGateway.Cooperative

Cooperative tasks over a shared state.  A task runs undisturbed from one
suspension to the next, so a run of the system is a sequence of such segments,
each taken by some task, with new tasks arriving at any time.

What every segment preserves of its own task holds of every task in every
interleaving (`Reachable.forall_task`).  Where tasks hold shares of something
shared, a relation between the shared state and the sum of the shares holds in
every interleaving as soon as each segment keeps it with whatever the other
tasks hold (`Reachable.accounting`).  Where what a task knows is about the shared
state, and what any segment does to the shared state cannot undo it, it holds in
every interleaving too (`Reachable.guarantee`).  What tasks record besides can be
forgotten (`Reachable.map`).

Where some tasks leave alone all that the others depend on, what the others do is an
interleaving without them (`Reachable.project`).
-/

namespace DbGateway.Cooperative

/-- A shared state and the tasks started so far. -/
structure System (σ τ : Type) where
  shared : σ
  tasks : List τ

section

variable {σ τ : Type}

/-- One segment of one task, or the arrival of a task. -/
inductive Step (fresh : τ → Prop) (segment : σ → τ → σ → τ → Prop) :
    System σ τ → System σ τ → Prop
  | arrive {s : σ} {ts : List τ} {t : τ} (ht : fresh t) : Step fresh segment ⟨s, ts⟩ ⟨s, ts ++ [t]⟩
  | run {s s' : σ} {t t' : τ} (before after : List τ) (h : segment s t s' t') :
      Step fresh segment ⟨s, before ++ t :: after⟩ ⟨s', before ++ t' :: after⟩

/-- The systems reached from a shared state with no task yet. -/
def Reachable (fresh : τ → Prop) (segment : σ → τ → σ → τ → Prop) (s₀ : σ) (S : System σ τ) :
    Prop :=
  Relation.ReflTransGen (Step fresh segment) ⟨s₀, []⟩ S

variable {fresh : τ → Prop} {segment : σ → τ → σ → τ → Prop}

/-- One step keeps what arriving tasks have and segments preserve. -/
theorem Step.forall_task {I : τ → Prop} (hfresh : ∀ t, fresh t → I t)
    (hsegment : ∀ s t s' t', segment s t s' t' → I t → I t') {S S' : System σ τ}
    (h : Step fresh segment S S') (hS : ∀ t ∈ S.tasks, I t) : ∀ t ∈ S'.tasks, I t := by
  cases h with
  | arrive ht =>
      intro t hmem
      rcases List.mem_append.mp hmem with hmem | hmem
      · exact hS t hmem
      · rw [List.mem_singleton.mp hmem]
        exact hfresh _ ht
  | run before after hrun =>
      have hself := hsegment _ _ _ _ hrun (hS _ (by simp))
      intro t hmem
      rcases List.mem_append.mp hmem with hmem | hmem
      · exact hS t (List.mem_append_left _ hmem)
      · rcases List.mem_cons.mp hmem with rfl | hmem
        · exact hself
        · exact hS t (List.mem_append_right _ (List.mem_cons_of_mem _ hmem))

/-- **Interleaving rule**: what arriving tasks have and every segment preserves
holds of every task of every reachable system. -/
theorem Reachable.forall_task {I : τ → Prop} (hfresh : ∀ t, fresh t → I t)
    (hsegment : ∀ s t s' t', segment s t s' t' → I t → I t') {s₀ : σ} {S : System σ τ}
    (h : Reachable fresh segment s₀ S) : ∀ t ∈ S.tasks, I t := by
  induction h with
  | refl => exact fun t hmem => absurd hmem List.not_mem_nil
  | tail _ hstep ih => exact hstep.forall_task hfresh hsegment ih

/-- A step of the system is a step of what `f` shows of its tasks. -/
theorem Step.map {τ' : Type} {fresh' : τ' → Prop} {segment' : σ → τ' → σ → τ' → Prop} {f : τ → τ'}
    (hfresh : ∀ t, fresh t → fresh' (f t))
    (hsegment : ∀ s t s' t', segment s t s' t' → segment' s (f t) s' (f t')) {S S' : System σ τ}
    (h : Step fresh segment S S') :
    Step fresh' segment' ⟨S.shared, S.tasks.map f⟩ ⟨S'.shared, S'.tasks.map f⟩ := by
  cases h with
  | arrive ht =>
      rw [List.map_append]
      exact .arrive (hfresh _ ht)
  | run before after hrun =>
      rw [List.map_append, List.map_append]
      exact .run _ _ (hsegment _ _ _ _ hrun)

/-- **Forgetting rule**: with less of each task, a run is a run of what remains. -/
theorem Reachable.map {τ' : Type} {fresh' : τ' → Prop} {segment' : σ → τ' → σ → τ' → Prop}
    (f : τ → τ') (hfresh : ∀ t, fresh t → fresh' (f t))
    (hsegment : ∀ s t s' t', segment s t s' t' → segment' s (f t) s' (f t')) {s₀ : σ}
    {S : System σ τ} (h : Reachable fresh segment s₀ S) :
    Reachable fresh' segment' s₀ ⟨S.shared, S.tasks.map f⟩ := by
  induction h with
  | refl => exact .refl
  | tail _ hstep ih => exact ih.tail (hstep.map hfresh hsegment)

/-! ## Knowledge of the shared state -/

/-- What tasks know of the shared state: no segment undoes what another task
knows. -/
structure Guarantee (fresh : τ → Prop) (segment : σ → τ → σ → τ → Prop) (Sound : σ → Prop)
    (Knows : σ → τ → Prop) (Rely : σ → σ → Prop) : Prop where
  fresh : ∀ s t, Sound s → fresh t → Knows s t
  sound : ∀ s t s' t', Sound s → Knows s t → segment s t s' t' → Sound s'
  knows : ∀ s t s' t', Sound s → Knows s t → segment s t s' t' → Knows s' t'
  rely : ∀ s t s' t', Sound s → Knows s t → segment s t s' t' → Rely s s'
  stable : ∀ s s' t, Sound s → Rely s s' → Knows s t → Knows s' t

variable {Sound : σ → Prop} {Knows : σ → τ → Prop} {Rely : σ → σ → Prop}

/-- One step keeps the shared state sound, and what every task knows of it. -/
theorem Step.guarantee (G : Guarantee fresh segment Sound Knows Rely) {S S' : System σ τ}
    (h : Step fresh segment S S') (hS : Sound S.shared ∧ ∀ t ∈ S.tasks, Knows S.shared t) :
    Sound S'.shared ∧ ∀ t ∈ S'.tasks, Knows S'.shared t := by
  obtain ⟨hsound, hknows⟩ := hS
  cases h with
  | arrive ht =>
      refine ⟨hsound, fun t hmem => ?_⟩
      rcases List.mem_append.mp hmem with hmem | hmem
      · exact hknows t hmem
      · rw [List.mem_singleton.mp hmem]
        exact G.fresh _ _ hsound ht
  | run before after hrun =>
      have hself := hknows _ (List.mem_append_right _ List.mem_cons_self)
      have hrely := G.rely _ _ _ _ hsound hself hrun
      refine ⟨G.sound _ _ _ _ hsound hself hrun, fun t hmem => ?_⟩
      rcases List.mem_append.mp hmem with hmem | hmem
      · exact G.stable _ _ _ hsound hrely (hknows t (List.mem_append_left _ hmem))
      · rcases List.mem_cons.mp hmem with rfl | hmem
        · exact G.knows _ _ _ _ hsound hself hrun
        · refine G.stable _ _ _ hsound hrely (hknows t (List.mem_append_right _ ?_))
          exact List.mem_cons_of_mem _ hmem

/-- **Knowledge rule**: in every reachable system the shared state is sound, and
every task knows what it should of it. -/
theorem Reachable.guarantee (G : Guarantee fresh segment Sound Knows Rely) {s₀ : σ}
    (hstart : Sound s₀) {S : System σ τ} (h : Reachable fresh segment s₀ S) :
    Sound S.shared ∧ ∀ t ∈ S.tasks, Knows S.shared t := by
  induction h with
  | refl => exact ⟨hstart, fun t hmem => absurd hmem List.not_mem_nil⟩
  | tail _ hstep ih => exact hstep.guarantee G ih

/-! ## Tasks on their own -/

/-- Some tasks keep to themselves: all others leave alone what they depend on, and they
do the same in every shared state that is the same to them. -/
structure Projection (fresh : τ → Prop) (segment : σ → τ → σ → τ → Prop) (I : τ → Prop)
    (mine : τ → Bool) (Same : σ → σ → Prop) : Prop where
  fresh : ∀ t, fresh t → I t
  keeps : ∀ s t s' t', segment s t s' t' → I t → I t'
  kind : ∀ s t s' t', segment s t s' t' → I t → mine t' = mine t
  other : ∀ s t s' t' s₁, segment s t s' t' → I t → mine t = false → Same s s₁ → Same s' s₁
  own : ∀ s t s' t' s₁, segment s t s' t' → I t → mine t = true → Same s s₁ →
    ∃ s₁', segment s₁ t s₁' t' ∧ Same s' s₁'

variable {I : τ → Prop} {mine : τ → Bool} {Same : σ → σ → Prop}

/-- One step is none or one of the tasks on their own. -/
theorem Step.project (P : Projection fresh segment I mine Same) {S S' : System σ τ}
    (h : Step fresh segment S S') (hI : ∀ t ∈ S.tasks, I t) {s₁ : σ} (hsame : Same S.shared s₁) :
    ∃ s₁', Relation.ReflTransGen (Step fresh segment) ⟨s₁, S.tasks.filter mine⟩
      ⟨s₁', S'.tasks.filter mine⟩ ∧ Same S'.shared s₁' := by
  cases h with
  | @arrive s ts t ht =>
      refine ⟨s₁, ?_, hsame⟩
      cases hmine : mine t with
      | false =>
          rw [List.filter_append, List.filter_singleton, hmine]
          simp only [cond_false, List.append_nil]
          exact .refl
      | true =>
          rw [List.filter_append, List.filter_singleton, hmine]
          exact .single (.arrive ht)
  | @run s s' t t' before after hrun =>
      have hself := hI t (List.mem_append_right _ List.mem_cons_self)
      have hkind := P.kind s t s' t' hrun hself
      simp only [List.filter_append, List.filter_cons, hkind]
      cases hmine : mine t with
      | false => exact ⟨s₁, .refl, P.other s t s' t' s₁ hrun hself hmine hsame⟩
      | true =>
          obtain ⟨s₁', hrun₁, hsame'⟩ := P.own s t s' t' s₁ hrun hself hmine hsame
          exact ⟨s₁', .single (.run _ _ hrun₁), hsame'⟩

/-- **Projection rule**: without the other tasks, the tasks that keep to themselves could
have done the same. -/
theorem Reachable.project (P : Projection fresh segment I mine Same) {s₀ : σ}
    (hsame : Same s₀ s₀) {S : System σ τ} (h : Reachable fresh segment s₀ S) :
    ∃ s₁, Reachable fresh segment s₀ ⟨s₁, S.tasks.filter mine⟩ ∧ Same S.shared s₁ := by
  induction h with
  | refl => exact ⟨s₀, .refl, hsame⟩
  | tail hbefore hstep ih =>
      obtain ⟨s₁, hreached, hsame⟩ := ih
      have hI := Reachable.forall_task P.fresh P.keeps hbefore
      obtain ⟨s₁', hstep₁, hsame'⟩ := hstep.project P hI hsame
      exact ⟨s₁', hreached.trans hstep₁, hsame'⟩

/-! ## Shares of the shared state -/

variable {M : Type} [AddCommMonoid M]

/-- What all tasks hold together. -/
def System.total (share : τ → M) (S : System σ τ) : M := (S.tasks.map share).sum

/-- The total is the share of one task and that of all others. -/
theorem System.total_split (share : τ → M) (s : σ) (before after : List τ) (t : τ) :
    System.total share ⟨s, before ++ t :: after⟩ =
      share t + System.total share ⟨s, before ++ after⟩ := by
  simp only [System.total, List.map_append, List.map_cons, List.sum_append, List.sum_cons]
  rw [add_left_comm]

/-- Shares of nothing or one: the tasks having them, counted. -/
theorem System.total_count (p q : τ → Bool) (S : System σ τ) :
    S.total (fun t => ((p t).toNat, (q t).toNat)) = (S.tasks.countP p, S.tasks.countP q) := by
  obtain ⟨s, tasks⟩ := S
  simp only [System.total]
  induction tasks with
  | nil => rfl
  | cons t tasks ih =>
      rw [List.map_cons, List.sum_cons, ih, List.countP_cons, List.countP_cons]
      cases p t <;> cases q t <;> simp [add_comm]

/-- A step keeps the balance between the shared state and the total. -/
theorem Step.accounting {share : τ → M} {Balance : σ → M → Prop}
    (hfresh : ∀ t, fresh t → share t = 0)
    (hsegment : ∀ s t s' t' others, segment s t s' t' → Balance s (share t + others) →
      Balance s' (share t' + others)) {S S' : System σ τ} (h : Step fresh segment S S')
    (hS : Balance S.shared (S.total share)) : Balance S'.shared (S'.total share) := by
  cases h with
  | arrive ht =>
      rw [System.total_split, hfresh _ ht, zero_add, List.append_nil]
      exact hS
  | run before after hrun =>
      rw [System.total_split] at hS ⊢
      exact hsegment _ _ _ _ _ hrun hS

/-- **Accounting rule**: a balance between the shared state and what the tasks
hold together, kept by every segment whatever the other tasks hold, holds in
every reachable system. -/
theorem Reachable.accounting (share : τ → M) (Balance : σ → M → Prop) {s₀ : σ}
    (hstart : Balance s₀ 0) (hfresh : ∀ t, fresh t → share t = 0)
    (hsegment : ∀ s t s' t' others, segment s t s' t' → Balance s (share t + others) →
      Balance s' (share t' + others)) {S : System σ τ} (h : Reachable fresh segment s₀ S) :
    Balance S.shared (S.total share) := by
  induction h with
  | refl => exact hstart
  | tail _ hstep ih => exact hstep.accounting hfresh hsegment ih

end

end DbGateway.Cooperative
