import DbGateway.Gateway.Mediation
import Mathlib.Algebra.Ring.Nat

/-!
# DbGateway.Gateway.Quota

The quota of each organisation and database: `current_queued` counts the
admitted requests that have not finished, and the permits they hold and the
permits of the semaphore add up to `max_concurrent`.

`Effect` says once what a segment of a request does to the quotas.  Each of its
cases keeps the `Balanced` relation between one quota and what the requests
hold of it, whatever the others hold, so the accounting rule carries it to every
interleaving.
-/

namespace DbGateway.Gateway

open Cooperative

/-! ## What a request holds -/

namespace Stage

/-- The request is admitted under a key and has not finished. -/
def queued (key : String × String) : Stage → Bool
  | .waiting r | .deciding r _ | .running r _ => r.key = key
  | _ => false

/-- The request holds a permit of a key's semaphore. -/
def holding (key : String × String) : Stage → Bool
  | .deciding r _ | .running r _ => r.key = key
  | _ => false

/-- A request's part of its key's queue and of its permits. -/
def share (key : String × String) (stage : Stage) : Nat × Nat :=
  ((stage.queued key).toNat, (stage.holding key).toNat)

/-- The request is past the semaphore and has not finished. -/
inductive Holds (r : Resolved) : Stage → Prop
  | deciding (s : Submission) : Holds r (.deciding r s)
  | running (e : Execution) : Holds r (.running r e)

theorem Holds.share_self {r : Resolved} {stage : Stage} (h : Holds r stage) :
    stage.share r.key = (1, 1) := by
  cases h <;> simp [share, queued, holding]

theorem Holds.share_other {r : Resolved} {stage : Stage} (h : Holds r stage)
    {key : String × String} (hkey : r.key ≠ key) : stage.share key = 0 := by
  cases h <;> simp [share, queued, holding, hkey, Prod.mk_zero_zero]

/-- Only an admitted request holds a permit. -/
theorem holding_eq_false {key : String × String} {stage : Stage}
    (h : stage.queued key = false) : stage.holding key = false := by
  cases stage with
  | deciding r s => exact h
  | running r e => exact h
  | _ => rfl

@[simp] theorem share_start (key : String × String) : Stage.start.share key = 0 := rfl

@[simp] theorem share_finished (key : String × String) (result : Except Exn (List Row)) :
    (Stage.finished result).share key = 0 := rfl

@[simp] theorem share_waiting_self (r : Resolved) : (Stage.waiting r).share r.key = (1, 0) := by
  simp [share, queued, holding]

theorem share_waiting_other {r : Resolved} {key : String × String} (hkey : r.key ≠ key) :
    (Stage.waiting r).share key = 0 := by
  simp [share, queued, holding, hkey]

end Stage

/-! ## What a segment does to a quota -/

/-- What happens to the quotas once a request holds its permit: it keeps it, or
finishes and gives it back. -/
inductive Held (config : Config) (r : Resolved) (quotas : Quotas) : Quotas → Stage → Prop
  | keep {stage : Stage} (h : stage.Holds r) : Held config r quotas quotas stage
  | finish (result : Except Exn (List Row)) :
      Held config r quotas (release config quotas r true) (.finished result)

/-- What a segment does to the quotas and to the stage of its request. -/
inductive Effect (config : Config) (quotas : Quotas) : Stage → Quotas → Stage → Prop
  | refused (result : Except Exn (List Row)) : Effect config quotas .start quotas (.finished result)
  | rejected (r : Resolved) (result : Except Exn (List Row)) :
      Effect config quotas .start
        (Function.update quotas r.key (some (getTenantQuota config quotas r.key)))
        (.finished result)
  | admitted (r : Resolved)
      (hroom : ((getTenantQuota config quotas r.key).currentQueued : Int) <
        (getTenantQuota config quotas r.key).queueLimit) :
      Effect config quotas .start (enter config quotas r) (.waiting r)
  | acquired (r : Resolved) (hfree : (getTenantQuota config quotas r.key).available ≠ 0)
      {quotas' : Quotas} {stage' : Stage}
      (h : Held config r (acquire config quotas r) quotas' stage') :
      Effect config quotas (.waiting r) quotas' stage'
  | left (r : Resolved) (result : Except Exn (List Row)) :
      Effect config quotas (.waiting r) (release config quotas r false) (.finished result)
  | continued (r : Resolved) {stage : Stage} (hholds : stage.Holds r) {quotas' : Quotas}
      {stage' : Stage} (h : Held config r quotas quotas' stage') :
      Effect config quotas stage quotas' stage'

/-- `dispatch` keeps the permit or gives it back. -/
theorem dispatch_held {config : Config} {quotas quotas' : Quotas} {request : Request}
    {r : Resolved} {outcome : Except Exn Execution × List Event} {t : Task}
    (h : dispatch config quotas request r outcome = (quotas', t)) :
    Held config r quotas quotas' t.stage := by
  obtain ⟨result, log⟩ := outcome
  cases result with
  | ok e =>
      obtain ⟨rfl, rfl⟩ := Prod.mk.inj h
      exact .keep (.running e)
  | error e =>
      obtain ⟨rfl, rfl⟩ := Prod.mk.inj h
      exact .finish (.error e)

/-- **Every segment has one of these effects.** -/
theorem Task.advance_effect {config : Config} {quotas quotas' : Quotas} {t t' : Task}
    {wake : Wake} (h : t.advance config quotas wake = some (quotas', t')) :
    Effect config quotas t.stage quotas' t'.stage := by
  have hadvances := t.advances h
  obtain ⟨request, stage, log⟩ := t
  cases hadvances with
  | refused o _ => exact .refused _
  | full o _ => exact .rejected _ _
  | admitted o _ hroom => exact .admitted _ hroom
  | failed o r hfree _ => exact .acquired _ hfree (.finish _)
  | suspended o r hfree _ => exact .acquired _ hfree (.keep (.deciding _))
  | submitted o r answer hfree _ ht => exact .acquired _ hfree (dispatch_held ht)
  | timedOut o r => exact .left r _
  | cancelled r => exact .left r _
  | decided o r s answer ht => exact .continued r (.deciding s) (dispatch_held ht)
  | answered o r e answer => exact .continued r (.running e) (.finish _)

/-! ## One quota -/

@[simp] theorem getTenantQuota_update_self (config : Config) (quotas : Quotas)
    (key : String × String) (quota : TenantQuota) :
    getTenantQuota config (Function.update quotas key (some quota)) key = quota := by
  rw [getTenantQuota, Function.update_self, Option.getD_some]

theorem getTenantQuota_update_other (config : Config) (quotas : Quotas)
    {key key' : String × String} (hkey : key ≠ key') (quota : TenantQuota) :
    getTenantQuota config (Function.update quotas key (some quota)) key' =
      getTenantQuota config quotas key' := by
  rw [getTenantQuota, getTenantQuota, Function.update_of_ne hkey.symm]

/-- A quota agrees with the requests admitted under its key and the permits they
hold. -/
structure Balanced (config : Config) (quota : TenantQuota) (held : Nat × Nat) : Prop where
  maxConcurrent : quota.maxConcurrent = config.tenantConcurrentLimit
  queueLimit : quota.queueLimit = config.tenantQueueLimit
  currentQueued : quota.currentQueued = held.1
  bounded : (quota.currentQueued : Int) ≤ max 0 quota.queueLimit
  permits : held.2 + quota.available = quota.maxConcurrent

namespace Balanced

/-- A new quota, no request. -/
theorem initial (config : Config) (key : String × String) :
    Balanced config (getTenantQuota config (fun _ => none) key) 0 where
  maxConcurrent := rfl
  queueLimit := rfl
  currentQueued := rfl
  bounded := le_max_left 0 _
  permits := Nat.zero_add _

variable {config : Config} {quota : TenantQuota} {others : Nat × Nat}

/-- A request enters a queue with room. -/
theorem enter (h : Balanced config quota others)
    (hroom : (quota.currentQueued : Int) < quota.queueLimit) :
    Balanced config { quota with currentQueued := quota.currentQueued + 1 }
      ((1, 0) + others) where
  maxConcurrent := h.maxConcurrent
  queueLimit := h.queueLimit
  currentQueued := by
    have hqueued := h.currentQueued
    show quota.currentQueued + 1 = 1 + others.1
    omega
  bounded := by
    show ((quota.currentQueued + 1 : Nat) : Int) ≤ max 0 quota.queueLimit
    omega
  permits := by
    have hpermits := h.permits
    show 0 + others.2 + quota.available = quota.maxConcurrent
    omega

/-- An admitted request takes a free permit. -/
theorem acquire (h : Balanced config quota ((1, 0) + others)) (hfree : quota.available ≠ 0) :
    Balanced config { quota with available := quota.available - 1 } ((1, 1) + others) where
  maxConcurrent := h.maxConcurrent
  queueLimit := h.queueLimit
  currentQueued := h.currentQueued
  bounded := h.bounded
  permits := by
    have hpermits : 0 + others.2 + quota.available = quota.maxConcurrent := h.permits
    show 1 + others.2 + (quota.available - 1) = quota.maxConcurrent
    omega

/-- An admitted request leaves, giving back the permit it holds. -/
theorem leave (held : Bool) (h : Balanced config quota ((1, held.toNat) + others)) :
    Balanced config
      { quota with
        available := if held then quota.available + 1 else quota.available
        currentQueued := quota.currentQueued - 1 } others where
  maxConcurrent := h.maxConcurrent
  queueLimit := h.queueLimit
  currentQueued := by
    have hqueued : quota.currentQueued = 1 + others.1 := h.currentQueued
    show quota.currentQueued - 1 = others.1
    omega
  bounded := by
    have hbounded := h.bounded
    show ((quota.currentQueued - 1 : Nat) : Int) ≤ max 0 quota.queueLimit
    omega
  permits := by
    have hpermits : held.toNat + others.2 + quota.available = quota.maxConcurrent := h.permits
    cases held with
    | false =>
        show others.2 + quota.available = quota.maxConcurrent
        rw [Bool.toNat_false] at hpermits
        omega
    | true =>
        show others.2 + (quota.available + 1) = quota.maxConcurrent
        rw [Bool.toNat_true] at hpermits
        omega

end Balanced

/-! ## Every interleaving -/

section

variable {config : Config} {quotas quotas' : Quotas} {r : Resolved} {stage stage' : Stage}
  {others : Nat × Nat}

/-- The quotas agree with the requests under one key. -/
def BalancedAt (config : Config) (key : String × String) (quotas : Quotas) (held : Nat × Nat) :
    Prop :=
  Balanced config (getTenantQuota config quotas key) held

/-- What a request does under its own key is not seen under another. -/
theorem BalancedAt.release_other {key : String × String} (hkey : r.key ≠ key) (held : Bool)
    (h : BalancedAt config key quotas others) :
    BalancedAt config key (release config quotas r held) others := by
  rw [BalancedAt, release, getTenantQuota_update_other config quotas hkey]
  exact h

theorem BalancedAt.release_self (held : Bool)
    (h : BalancedAt config r.key quotas ((1, held.toNat) + others)) :
    BalancedAt config r.key (release config quotas r held) others := by
  rw [BalancedAt, release, getTenantQuota_update_self]
  exact Balanced.leave held h

/-- A request with a permit keeps the balance. -/
theorem Held.balanced (h : Held config r quotas quotas' stage') (key : String × String)
    (hbalanced : BalancedAt config key quotas
      ((if r.key = key then (1, 1) else 0) + others)) :
    BalancedAt config key quotas' (stage'.share key + others) := by
  by_cases hkey : r.key = key
  · subst hkey
    rw [if_pos rfl] at hbalanced
    cases h with
    | keep hholds => rwa [hholds.share_self]
    | finish result =>
        rw [Stage.share_finished, zero_add]
        exact BalancedAt.release_self true hbalanced
  · rw [if_neg hkey] at hbalanced
    cases h with
    | keep hholds => rwa [hholds.share_other hkey]
    | finish result =>
        rw [Stage.share_finished]
        exact BalancedAt.release_other hkey true hbalanced

/-- **Each effect keeps the balance**, whatever the other requests hold. -/
theorem Effect.balanced (h : Effect config quotas stage quotas' stage') (key : String × String)
    (hbalanced : BalancedAt config key quotas (stage.share key + others)) :
    BalancedAt config key quotas' (stage'.share key + others) := by
  cases h with
  | refused result => exact hbalanced
  | rejected r result =>
      by_cases hkey : r.key = key
      · subst hkey
        rw [BalancedAt, getTenantQuota_update_self]
        exact hbalanced
      · rw [BalancedAt, getTenantQuota_update_other config quotas hkey]
        exact hbalanced
  | admitted r hroom =>
      by_cases hkey : r.key = key
      · subst hkey
        rw [BalancedAt, enter, getTenantQuota_update_self, Stage.share_waiting_self]
        rw [Stage.share_start, zero_add] at hbalanced
        exact Balanced.enter hbalanced hroom
      · rw [BalancedAt, enter, getTenantQuota_update_other config quotas hkey,
          Stage.share_waiting_other hkey]
        exact hbalanced
  | acquired r hfree hheld =>
      refine hheld.balanced key ?_
      by_cases hkey : r.key = key
      · subst hkey
        rw [Stage.share_waiting_self] at hbalanced
        rw [if_pos rfl, BalancedAt, acquire, getTenantQuota_update_self]
        exact Balanced.acquire hbalanced hfree
      · rw [Stage.share_waiting_other hkey] at hbalanced
        rw [if_neg hkey, BalancedAt, acquire, getTenantQuota_update_other config quotas hkey]
        exact hbalanced
  | left r result =>
      rw [Stage.share_finished]
      by_cases hkey : r.key = key
      · subst hkey
        rw [Stage.share_waiting_self] at hbalanced
        rw [zero_add]
        exact BalancedAt.release_self false hbalanced
      · rw [Stage.share_waiting_other hkey] at hbalanced
        exact BalancedAt.release_other hkey false hbalanced
  | continued r hholds hheld =>
      refine hheld.balanced key ?_
      by_cases hkey : r.key = key
      · subst hkey
        rw [hholds.share_self] at hbalanced
        rwa [if_pos rfl]
      · rwa [if_neg hkey, ← hholds.share_other hkey]

end

/-- **Quota invariant**: in every interleaving and for every key, the queue
counter is the number of admitted requests that have not finished and stays
within the limit, the permits held and the permits left make up the
semaphore, and both are back to their start once no request is in flight. -/
theorem quota_invariant {config : Config} {S : System Quotas Task}
    (h : Reachable config (fun _ => none) S) (key : String × String) :
    (getTenantQuota config S.shared key).currentQueued =
        S.tasks.countP (fun t => t.stage.queued key) ∧
      ((getTenantQuota config S.shared key).currentQueued : Int) ≤
        max 0 (getTenantQuota config S.shared key).queueLimit ∧
      S.tasks.countP (fun t => t.stage.holding key) ≤
        (getTenantQuota config S.shared key).maxConcurrent ∧
      S.tasks.countP (fun t => t.stage.holding key) +
          (getTenantQuota config S.shared key).available =
        (getTenantQuota config S.shared key).maxConcurrent ∧
      ((∀ t ∈ S.tasks, t.stage.queued key = false) →
        (getTenantQuota config S.shared key).currentQueued = 0 ∧
          (getTenantQuota config S.shared key).available =
            (getTenantQuota config S.shared key).maxConcurrent) := by
  have hbalanced : BalancedAt config key S.shared (S.total fun t => t.stage.share key) := by
    refine Reachable.accounting (fun t => t.stage.share key) (BalancedAt config key) ?_ ?_ ?_ h
    · exact Balanced.initial config key
    · intro t ht
      rw [ht.1, Stage.share_start]
    · intro quotas t quotas' t' others ⟨wake, ha⟩ hbalanced
      exact (Task.advance_effect ha).balanced key hbalanced
  have hcount : (S.total fun t => t.stage.share key) =
      (S.tasks.countP (fun t => t.stage.queued key),
        S.tasks.countP (fun t => t.stage.holding key)) :=
    System.total_count _ _ S
  rw [hcount] at hbalanced
  have hqueued := hbalanced.currentQueued
  have hpermits := hbalanced.permits
  refine ⟨hqueued, hbalanced.bounded, by omega, hpermits, fun hidle => ?_⟩
  have hnone : S.tasks.countP (fun t => t.stage.queued key) = 0 := by
    rw [List.countP_eq_zero]
    intro t ht
    simp [hidle t ht]
  have hheld : S.tasks.countP (fun t => t.stage.holding key) = 0 := by
    rw [List.countP_eq_zero]
    intro t ht
    simp [Stage.holding_eq_false (hidle t ht)]
  exact ⟨hqueued.trans hnone, by omega⟩

/-- Of two requests at a database with one permit, one holds it, the other waits, and
both count. -/
theorem quota_invariant_title : ∃ S : System Quotas Task,
    S.tasks.length = 2 ∧ S.tasks.countP (fun t => t.stage.holding ("tenant-a", "db-a")) = 1 ∧
      (getTenantQuota ⟨1, 10, 10000⟩ S.shared ("tenant-a", "db-a")).currentQueued = 2 ∧
      1 + (getTenantQuota ⟨1, 10, 10000⟩ S.shared ("tenant-a", "db-a")).available = 1 := by
  have harrive : Reachable ⟨1, 10, 10000⟩ (fun _ => none)
      ⟨fun _ => none, [⟨titleRequest, .start, []⟩]⟩ :=
    .tail .refl (.arrive ⟨rfl, rfl⟩)
  have hsecond : Reachable ⟨1, 10, 10000⟩ (fun _ => none)
      ⟨fun _ => none, [⟨titleRequest, .start, []⟩, ⟨titleRequest, .start, []⟩]⟩ :=
    harrive.tail (.arrive ⟨rfl, rfl⟩)
  have hbegin := hsecond.tail (.run [] _ ⟨.begin allReturn, rfl⟩)
  have hboth := hbegin.tail (.run [_] [] ⟨.begin allReturn, rfl⟩)
  have hacquired := hboth.tail (.run [] _ ⟨.acquired allReturn, rfl⟩)
  have hquota := quota_invariant hacquired ("tenant-a", "db-a")
  exact ⟨_, rfl, rfl, hquota.1, hquota.2.2.2.1⟩

/-- A negative limit rejects every request, and the counter is above it from
the start. -/
theorem negative_limit_exceeded : ¬ ∀ (config : Config) (S : System Quotas Task),
    Reachable config (fun _ => none) S → ∀ key,
      ((getTenantQuota config S.shared key).currentQueued : Int) ≤
        (getTenantQuota config S.shared key).queueLimit := by
  intro hinvariant
  have harrive : Reachable ⟨5, -1, 10000⟩ (fun _ => none)
      ⟨fun _ => none, [⟨titleRequest, .start, []⟩]⟩ :=
    .tail .refl (.arrive ⟨rfl, rfl⟩)
  have hrejected := harrive.tail (.run [] [] ⟨.begin allReturn, rfl⟩)
  have hbounded := hinvariant _ _ hrejected ("tenant-a", "db-a")
  exact absurd hbounded (by decide)

end DbGateway.Gateway
