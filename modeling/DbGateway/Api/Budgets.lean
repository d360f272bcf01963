import DbGateway.Api.Stack

/-!
# DbGateway.Api.Budgets

The budgets a request counts against: one for each dimension with a limit, or
the one of the legacy mode.

A request is recorded in all of them if it is allowed (`allow_check`), is refused
only where one of them is used up (`exists_full_of_refused`), leaves all others
alone (`allow_of_not_charges`), and is decided by what is in its own
(`allow_congr`).
-/

namespace DbGateway.Api

open RateLimit (Dimension Keys Storage RateLimitMiddleware dimensions)
open SlidingWindow (Check)

/-- What a queue of time stamps is kept for. -/
inductive Budget where
  | layered (dimension : Dimension) (key : String)
  | legacy (key : String)

/-- How many requests a budget is for. -/
def Budget.limit (limits : RateLimitMiddleware) : Budget → Int
  | layered dimension _ => limits.maxRequests dimension
  | legacy _ => limits.legacyMax

/-- The queue of a budget. -/
def Limits.queue (self : Limits) : Budget → List Rat
  | .layered dimension key => self.storage dimension key
  | .legacy key => self.legacy key

/-! ## One dimension after another -/

section

variable {limits : RateLimitMiddleware} {request : RateLimit.Request}
  {storage storage' : Storage}

/-- A queue that does not limit the request is left alone. -/
theorem checkDimension_of_not_limits_key {dimension dimension' : Dimension} {key' : String}
    (h : ¬ limits.Limits request.keys dimension' key') :
    (limits.checkDimension request dimension storage).2 dimension' key' =
      storage dimension' key' := by
  by_cases hlimits : ∃ key, limits.Limits request.keys dimension key
  · obtain ⟨key, hlimits⟩ := hlimits
    have hne : ¬ (dimension' = dimension ∧ key' = key) := by
      rintro ⟨rfl, rfl⟩
      exact h hlimits
    rw [RateLimitMiddleware.checkDimension_of_limits hlimits]
    split
    · exact Storage.set_apply_of_ne _ hne _
    · exact Storage.set_apply_of_ne _ hne _
  · rw [RateLimitMiddleware.checkDimension_of_not_limits fun key hkey => hlimits ⟨key, hkey⟩]

theorem checkDimensions_of_not_limits_key {rest : List Dimension} {dimension : Dimension}
    {key : String} (h : ¬ limits.Limits request.keys dimension key) (storage : Storage) :
    (limits.checkDimensions request rest storage).2 dimension key = storage dimension key := by
  induction rest generalizing storage with
  | nil => rfl
  | cons first rest ih =>
      rw [RateLimitMiddleware.checkDimensions]
      dsimp only
      split
      · rw [ih, checkDimension_of_not_limits_key h]
      · exact checkDimension_of_not_limits_key h

/-- The queues that limit a request are the same. -/
def AgreeFor (limits : RateLimitMiddleware) (keys : Keys) (storage storage' : Storage) : Prop :=
  ∀ dimension key, limits.Limits keys dimension key → storage dimension key = storage' dimension key

/-- One check depends on the queue that limits the request. -/
theorem checkDimension_congr (dimension : Dimension)
    (h : AgreeFor limits request.keys storage storage') :
    (limits.checkDimension request dimension storage).1 =
        (limits.checkDimension request dimension storage').1 ∧
      AgreeFor limits request.keys (limits.checkDimension request dimension storage).2
        (limits.checkDimension request dimension storage').2 := by
  by_cases hlimits : ∃ key, limits.Limits request.keys dimension key
  swap
  · have hnone : ∀ key, ¬ limits.Limits request.keys dimension key := fun key hkey =>
      hlimits ⟨key, hkey⟩
    rw [RateLimitMiddleware.checkDimension_of_not_limits hnone,
      RateLimitMiddleware.checkDimension_of_not_limits hnone]
    exact ⟨rfl, h⟩
  obtain ⟨key, hlimits⟩ := hlimits
  have hset : ∀ deque, AgreeFor limits request.keys (storage.set dimension key deque)
      (storage'.set dimension key deque) := by
    intro deque dimension' key' hlimits'
    by_cases hsame : dimension' = dimension ∧ key' = key
    · obtain ⟨rfl, rfl⟩ := hsame
      rw [Storage.set_apply_self, Storage.set_apply_self]
    · rw [Storage.set_apply_of_ne _ hsame, Storage.set_apply_of_ne _ hsame]
      exact h dimension' key' hlimits'
  rw [RateLimitMiddleware.checkDimension_of_limits hlimits,
    RateLimitMiddleware.checkDimension_of_limits hlimits, h dimension key hlimits]
  split
  · exact ⟨rfl, hset _⟩
  · exact ⟨rfl, hset _⟩

theorem checkDimensions_congr {rest : List Dimension}
    (h : AgreeFor limits request.keys storage storage') :
    (limits.checkDimensions request rest storage).1 =
        (limits.checkDimensions request rest storage').1 ∧
      AgreeFor limits request.keys (limits.checkDimensions request rest storage).2
        (limits.checkDimensions request rest storage').2 := by
  induction rest generalizing storage storage' with
  | nil => exact ⟨rfl, h⟩
  | cons first rest ih =>
      obtain ⟨hallowed, hagree⟩ := checkDimension_congr first h
      simp only [RateLimitMiddleware.checkDimensions, hallowed]
      split
      · exact ih hagree
      · exact ⟨rfl, hagree⟩

end

/-! ## The limiter -/

namespace RateLimiter

variable {limiter : RateLimiter} {s s' : Limits} {scope : Scope}
  {principal : Option Principal} {now : Rat}

/-- The request counts against the budget. -/
def Charges (self : RateLimiter) (scope : Scope) (principal : Option Principal) : Budget → Prop
  | .layered dimension key => self.limits.layeredMode = true ∧
      self.limits.Limits (self.getRateLimitKeys scope principal) dimension key
  | .legacy key => self.limits.layeredMode = false ∧ self.getRateLimitKey scope principal = key

instance (self : RateLimiter) (scope : Scope) (principal : Option Principal) (budget : Budget) :
    Decidable (self.Charges scope principal budget) :=
  match budget with
  | .layered dimension key =>
      inferInstanceAs (Decidable (_ ∧ (self.getRateLimitKeys scope principal).key? dimension =
        some key ∧ 0 < self.limits.maxRequests dimension))
  | .legacy _ => inferInstanceAs (Decidable (_ ∧ _))

/-- `_allow_request` -/
theorem allow_layered (hmode : limiter.limits.layeredMode = true) :
    limiter.allow s scope principal now =
      let result := limiter.limits.checkDimensions
        { keys := limiter.getRateLimitKeys scope principal, now } dimensions s.storage
      (result.1.1, { s with storage := result.2, now }) := by
  rw [allow, if_pos hmode]
  rfl

/-- `_allow_legacy_request` -/
theorem allow_legacy (hmode : limiter.limits.layeredMode = false) :
    limiter.allow s scope principal now =
      let result := limiter.limits.allowLegacyRequest s.legacy
        (limiter.getRateLimitKey scope principal) now
      (result.1, { s with legacy := result.2, now }) := by
  rw [allow, if_neg (by simp [hmode])]

/-- What a request does to a queue: it is checked at most once, and recorded where
it counts if it is allowed. -/
theorem allow_check (limiter : RateLimiter) (s : Limits) (scope : Scope)
    (principal : Option Principal) (now : Rat) (budget : Budget) :
    ∃ recorded, Check (budget.limit limiter.limits) (limiter.limits.cutoff now) now
        (s.queue budget) recorded ((limiter.allow s scope principal now).2.queue budget) ∧
      ((limiter.allow s scope principal now).1 = true →
        limiter.Charges scope principal budget → recorded = true) := by
  unfold allow
  cases hmode : limiter.limits.layeredMode with
  | true =>
      cases budget with
      | layered dimension key =>
          obtain ⟨recorded, hcheck, hrecorded⟩ := limiter.limits.allowRequest_check s.storage
            { keys := limiter.getRateLimitKeys scope principal, now } dimension key
          exact ⟨recorded, hcheck, fun hallowed hcharges => hrecorded hallowed hcharges.2⟩
      | legacy key =>
          refine ⟨false, .skipped, fun _ hcharges => ?_⟩
          exact absurd (hmode.symm.trans hcharges.1) (by decide)
  | false =>
      cases budget with
      | layered dimension key =>
          refine ⟨false, .skipped, fun _ hcharges => ?_⟩
          exact absurd (hmode.symm.trans hcharges.1) (by decide)
      | legacy key =>
          obtain ⟨recorded, hcheck, hrecorded⟩ := limiter.limits.allowLegacyRequest_check s.legacy
            (limiter.getRateLimitKey scope principal) now key
          exact ⟨recorded, hcheck, fun hallowed hcharges => hrecorded hallowed hcharges.2.symm⟩

/-- The budget is used up: the queue has no fewer time stamps left than it is for. -/
def Full (self : RateLimiter) (s : Limits) (now : Rat) (budget : Budget) : Prop :=
  budget.limit self.limits ≤
    (SlidingWindow.evict (self.limits.cutoff now) (s.queue budget)).length

/-- A request that is refused has found one of its budgets used up. -/
theorem exists_full_of_refused (h : (limiter.allow s scope principal now).1 = false) :
    ∃ budget, limiter.Charges scope principal budget ∧ limiter.Full s now budget := by
  cases hmode : limiter.limits.layeredMode with
  | true =>
      rw [allow_layered hmode] at h
      obtain ⟨dimension, -, key, hlimits, hfull⟩ :=
        RateLimitMiddleware.checkDimensions_full (by decide : dimensions.Nodup) h
      exact ⟨.layered dimension key, ⟨hmode, hlimits⟩, hfull⟩
  | false =>
      rw [allow_legacy hmode] at h
      refine ⟨.legacy (limiter.getRateLimitKey scope principal), ⟨hmode, rfl⟩, ?_⟩
      by_contra hroom
      have hallowed : (limiter.limits.allowLegacyRequest s.legacy
          (limiter.getRateLimitKey scope principal) now).1 = true := by
        rw [RateLimitMiddleware.allowLegacyRequest]
        exact congrArg Prod.fst (if_neg hroom)
      rw [hallowed] at h
      exact absurd h (by simp)

@[simp] theorem allow_now : (limiter.allow s scope principal now).2.now = now := by
  unfold allow
  split
  · rfl
  · rfl

/-- The other queues are left alone. -/
theorem allow_of_not_charges {budget : Budget}
    (h : ¬ limiter.Charges scope principal budget) :
    (limiter.allow s scope principal now).2.queue budget = s.queue budget := by
  cases hmode : limiter.limits.layeredMode with
  | true =>
      rw [allow_layered hmode]
      cases budget with
      | layered dimension key =>
          have hlimits : ¬ limiter.limits.Limits (limiter.getRateLimitKeys scope principal) dimension
              key := fun hlimits => h ⟨hmode, hlimits⟩
          exact @checkDimensions_of_not_limits_key limiter.limits
            { keys := limiter.getRateLimitKeys scope principal, now } _ _ _ hlimits s.storage
      | legacy key => rfl
  | false =>
      rw [allow_legacy hmode]
      cases budget with
      | layered dimension key => rfl
      | legacy key =>
          have hne : key ≠ limiter.getRateLimitKey scope principal := fun hkey =>
            h ⟨hmode, hkey.symm⟩
          simp only [RateLimitMiddleware.allowLegacyRequest, Limits.queue]
          split
          · exact Function.update_of_ne hne _ _
          · exact Function.update_of_ne hne _ _

/-- A request is decided by the queues it counts against. -/
theorem allow_congr
    (h : ∀ budget, limiter.Charges scope principal budget → s.queue budget = s'.queue budget) :
    (limiter.allow s scope principal now).1 = (limiter.allow s' scope principal now).1 ∧
      ∀ budget, limiter.Charges scope principal budget →
        (limiter.allow s scope principal now).2.queue budget =
          (limiter.allow s' scope principal now).2.queue budget := by
  cases hmode : limiter.limits.layeredMode with
  | true =>
      have hagree : AgreeFor limiter.limits (limiter.getRateLimitKeys scope principal) s.storage
          s'.storage := fun dimension key hlimits => h (.layered dimension key) ⟨hmode, hlimits⟩
      obtain ⟨hallowed, hagree⟩ := @checkDimensions_congr limiter.limits
        { keys := limiter.getRateLimitKeys scope principal, now } _ _ dimensions hagree
      have hfirst := congrArg Prod.fst hallowed
      rw [allow_layered hmode, allow_layered hmode]
      refine ⟨hfirst, fun budget hcharges => ?_⟩
      cases budget with
      | layered dimension key => exact hagree dimension key hcharges.2
      | legacy key => exact absurd (hmode.symm.trans hcharges.1) (by decide)
  | false =>
      have hqueue : s.legacy (limiter.getRateLimitKey scope principal) =
          s'.legacy (limiter.getRateLimitKey scope principal) := h (.legacy _) ⟨hmode, rfl⟩
      rw [allow_legacy hmode, allow_legacy hmode]
      simp only [RateLimitMiddleware.allowLegacyRequest, hqueue]
      split
      · refine ⟨rfl, fun budget hcharges => ?_⟩
        cases budget with
        | layered dimension key => exact absurd (hmode.symm.trans hcharges.1) (by decide)
        | legacy key => simp [Limits.queue, ← hcharges.2]
      · refine ⟨rfl, fun budget hcharges => ?_⟩
        cases budget with
        | layered dimension key => exact absurd (hmode.symm.trans hcharges.1) (by decide)
        | legacy key => simp [Limits.queue, ← hcharges.2]

end RateLimiter

end DbGateway.Api
