import DbGateway.RateLimit.Limiter
import DbGateway.RateLimit.Window

/-!
# DbGateway.RateLimit.Budget

What a rejected request costs.  The dimensions are checked and charged one after
another, so a request rejected by its first limit costs nothing, and one
rejected by a later limit has been charged by the limits before it.
-/

namespace DbGateway.RateLimit

open SlidingWindow RateLimitMiddleware

namespace RateLimitMiddleware

/-- The first dimension that limits a request with these keys. -/
def firstLimit (self : RateLimitMiddleware) (keys : Keys) : Option (Dimension × String) :=
  dimensions.findSome? fun dimension =>
    if 0 < self.maxRequests dimension then (keys.key? dimension).map (dimension, ·) else none

/-- The request leaves what is not due in the deques as it is. -/
def BudgetsKept (self : RateLimitMiddleware) (storage : Storage) (request : Request) : Prop :=
  ∀ dimension key,
    unexpired (self.cutoff request.now) ((self.allowRequest storage request).2 dimension key) =
      unexpired (self.cutoff request.now) (storage dimension key)

/-- The first dimension that limits the request is at its budget. -/
def FirstExhausted (self : RateLimitMiddleware) (storage : Storage) (request : Request) : Prop :=
  ∃ dimension key, self.firstLimit request.keys = some (dimension, key) ∧
    self.maxRequests dimension ≤
      (unexpired (self.cutoff request.now) (storage dimension key)).length

end RateLimitMiddleware

/-- A tenant of one request a minute: the second user's request is rejected,
and charged to that user. -/
theorem not_budgetsKept_tenant :
    ¬ ∀ (limiter : RateLimitMiddleware) (run : List Request) (request : Request),
      Clocked (run ++ [request]) →
        (limiter.allowRequest (limiter.storageAfter run) request).1.1 = false →
          limiter.BudgetsKept (limiter.storageAfter run) request := by
  intro h
  have hkept := h { tenantMaxRequests := 1 }
    [⟨{ principal := some "alice", tenant := some "tenant-a" }, 0⟩]
    ⟨{ principal := some "bob", tenant := some "tenant-a" }, 1⟩ (by decide +kernel)
    (by decide +kernel) .principal "bob"
  revert hkept
  decide +kernel

variable {limiter : RateLimitMiddleware} {request : Request} {storage : Storage}

theorem limitOf_eq_some_iff {keys : Keys} {dimension : Dimension} {found : Dimension × String} :
    (if 0 < limiter.maxRequests dimension then (keys.key? dimension).map (dimension, ·)
      else none) = some found ↔
        found.1 = dimension ∧ limiter.Limits keys dimension found.2 := by
  obtain ⟨dimension', key⟩ := found
  unfold Limits
  by_cases hbudget : 0 < limiter.maxRequests dimension
  · cases keys.key? dimension with
    | none => simp
    | some k => simp [hbudget, eq_comm]
  · simp [hbudget]

theorem limitOf_eq_none_iff {keys : Keys} {dimension : Dimension} :
    (if 0 < limiter.maxRequests dimension then (keys.key? dimension).map (dimension, ·)
      else none) = none ↔ ∀ key, ¬ limiter.Limits keys dimension key := by
  rw [Option.eq_none_iff_forall_ne_some]
  constructor
  · intro h key hlimits
    exact h (dimension, key) (limitOf_eq_some_iff.mpr ⟨rfl, hlimits⟩)
  · intro h found hfound
    exact h found.2 (limitOf_eq_some_iff.mp hfound).2

theorem firstLimit_eq_some_iff {keys : Keys} {dimension : Dimension} {key : String} :
    limiter.firstLimit keys = some (dimension, key) ↔
      ∃ before rest, dimensions = before ++ dimension :: rest ∧
        limiter.Limits keys dimension key ∧
          ∀ d ∈ before, ∀ k, ¬ limiter.Limits keys d k := by
  simp only [firstLimit, List.findSome?_eq_some_iff, limitOf_eq_some_iff, limitOf_eq_none_iff]
  constructor
  · intro ⟨before, d, rest, hsplit, ⟨hd, hlimits⟩, hbefore⟩
    subst hd
    exact ⟨before, rest, hsplit, hlimits, hbefore⟩
  · intro ⟨before, rest, hsplit, hlimits, hbefore⟩
    exact ⟨before, dimension, rest, hsplit, ⟨rfl, hlimits⟩, hbefore⟩

/-- A request that some dimension limits is limited by a first one. -/
theorem firstLimit_isSome {keys : Keys} {dimension : Dimension} {key : String}
    (h : limiter.Limits keys dimension key) : ∃ found, limiter.firstLimit keys = some found := by
  rw [← Option.isSome_iff_exists, firstLimit, List.findSome?_isSome_iff]
  exact ⟨dimension, by cases dimension <;> decide,
    Option.isSome_iff_exists.mpr ⟨(dimension, key), limitOf_eq_some_iff.mpr ⟨rfl, h⟩⟩⟩

/-- Dimensions that do not limit the request are passed over. -/
theorem checkDimensions_append {before : List Dimension}
    (h : ∀ d ∈ before, ∀ k, ¬ limiter.Limits request.keys d k) (rest : List Dimension) :
    limiter.checkDimensions request (before ++ rest) storage =
      limiter.checkDimensions request rest storage := by
  induction before with
  | nil => rfl
  | cons first before ih =>
      rw [List.cons_append, checkDimensions,
        checkDimension_of_not_limits (h first List.mem_cons_self)]
      exact ih fun d hd => h d (List.mem_cons_of_mem _ hd)

/-- A rejected request found a budget used up. -/
theorem exhausted_of_rejected {rest : List Dimension} (hrest : rest.Nodup)
    (h : (limiter.checkDimensions request rest storage).1.1 = false) :
    ∃ dimension ∈ rest, ∃ key, limiter.Limits request.keys dimension key ∧
      limiter.maxRequests dimension ≤
        (evict (limiter.cutoff request.now) (storage dimension key)).length := by
  induction rest generalizing storage with
  | nil => contradiction
  | cons first rest ih =>
      rw [List.nodup_cons] at hrest
      rw [checkDimensions] at h
      dsimp only at h
      split at h
      · obtain ⟨dimension, hmem, key, hlimits, hfull⟩ := ih hrest.2 h
        have hother : dimension ≠ first := fun hsame => hrest.1 (hsame ▸ hmem)
        rw [checkDimension_other hother] at hfull
        exact ⟨dimension, List.mem_cons_of_mem _ hmem, key, hlimits, hfull⟩
      · next hfirst =>
        by_cases hlimits : ∃ key, limiter.Limits request.keys first key
        · obtain ⟨key, hlimits⟩ := hlimits
          refine ⟨first, List.mem_cons_self, key, hlimits, ?_⟩
          by_contra hroom
          rw [checkDimension_of_limits hlimits, if_neg hroom] at hfirst
          exact hfirst rfl
        · rw [checkDimension_of_not_limits fun key hlimits' => hlimits ⟨key, hlimits'⟩] at hfirst
          exact absurd rfl hfirst

/-- The deques of a run are in order. -/
theorem ordered_after {run : List Request} (hclock : Clocked run) {last : Rat}
    (hlast : ∀ r ∈ run, r.now ≤ last) (dimension : Dimension) (key : String) :
    Ordered last (limiter.storageAfter run dimension key) := by
  induction run using List.reverseRecOn generalizing last with
  | nil => exact ⟨List.Pairwise.nil, fun x hx => absurd hx List.not_mem_nil⟩
  | append_singleton run request ih =>
      obtain ⟨hrun, -, hnow⟩ := List.pairwise_append.mp hclock
      have hordered : Ordered request.now (limiter.storageAfter run dimension key) :=
        ih hrun fun r hr => hnow r hr _ (List.mem_singleton_self _)
      obtain ⟨recorded, hcheck, -⟩ :=
        limiter.allowRequest_check (limiter.storageAfter run) request dimension key
      rw [storageAfter, Runs.after_concat]
      exact (hcheck.ordered hordered le_rfl).later (hlast _ (by simp))

/-- A request whose first limit is at its budget goes no further. -/
theorem allowRequest_of_full {dimension : Dimension} {key : String}
    (hfirst : limiter.firstLimit request.keys = some (dimension, key))
    (hfull : limiter.maxRequests dimension ≤
      (evict (limiter.cutoff request.now) (storage dimension key)).length) :
    (limiter.allowRequest storage request).2 =
      storage.set dimension key (evict (limiter.cutoff request.now) (storage dimension key)) := by
  obtain ⟨before, rest, hsplit, hlimits, hbefore⟩ := firstLimit_eq_some_iff.mp hfirst
  rw [allowRequest, hsplit, checkDimensions_append hbefore, checkDimensions,
    checkDimension_of_limits hlimits, if_pos hfull]
  rfl

/-- A request whose first limit is not at its budget is charged there, whatever
comes after. -/
theorem allowRequest_of_room {dimension : Dimension} {key : String}
    (hfirst : limiter.firstLimit request.keys = some (dimension, key))
    (hroom : ¬ limiter.maxRequests dimension ≤
      (evict (limiter.cutoff request.now) (storage dimension key)).length) :
    (limiter.allowRequest storage request).2 dimension key =
      evict (limiter.cutoff request.now) (storage dimension key) ++ [request.now] := by
  obtain ⟨before, rest, hsplit, hlimits, hbefore⟩ := firstLimit_eq_some_iff.mp hfirst
  have hrest : dimension ∉ rest := by
    have hnodup : dimensions.Nodup := by decide
    rw [hsplit] at hnodup
    exact (List.nodup_cons.mp (List.nodup_append.mp hnodup).2.1).1
  rw [allowRequest, hsplit, checkDimensions_append hbefore, checkDimensions,
    checkDimension_of_limits hlimits, if_neg hroom]
  dsimp only
  rw [if_pos rfl, checkDimensions_other hrest, Storage.set_apply_self]

/-- **What a rejected request costs**: nothing, exactly when the first dimension
that limits it is the one it is rejected for. -/
theorem budgetsKept_iff (limiter : RateLimitMiddleware) (run : List Request) (request : Request)
    (hclock : Clocked (run ++ [request]))
    (hrejected : (limiter.allowRequest (limiter.storageAfter run) request).1.1 = false) :
    limiter.BudgetsKept (limiter.storageAfter run) request ↔
      limiter.FirstExhausted (limiter.storageAfter run) request := by
  obtain ⟨hrun, -, hnow⟩ := List.pairwise_append.mp hclock
  have hordered : ∀ dimension key,
      Ordered request.now (limiter.storageAfter run dimension key) := fun dimension key =>
    ordered_after hrun (fun r hr => hnow r hr _ (List.mem_singleton_self _)) dimension key
  have hevict : ∀ dimension key,
      evict (limiter.cutoff request.now) (limiter.storageAfter run dimension key) =
        unexpired (limiter.cutoff request.now) (limiter.storageAfter run dimension key) :=
    fun dimension key => evict_of_sorted (hordered dimension key).sorted
  constructor
  · intro hkept
    obtain ⟨dimension', -, key', hlimits, hexhausted⟩ :=
      exhausted_of_rejected (by decide : dimensions.Nodup) hrejected
    obtain ⟨⟨dimension, key⟩, hfirst⟩ := firstLimit_isSome hlimits
    refine ⟨dimension, key, hfirst, ?_⟩
    by_contra hroom
    -- The budget used up holds a stamp that is not due, so neither is the reading.
    have hdue : limiter.cutoff request.now < request.now := by
      refine (hordered dimension' key').cutoff_lt (List.ne_nil_of_length_pos ?_)
      have hbudget := hlimits.2
      rw [hevict] at hexhausted
      omega
    have hcharged := hkept dimension key
    rw [← hevict] at hroom
    rw [allowRequest_of_room hfirst hroom, unexpired_append, unexpired_evict] at hcharged
    have hone : unexpired (limiter.cutoff request.now) [request.now] = [request.now] :=
      List.filter_cons_of_pos (decide_eq_true hdue)
    rw [hone] at hcharged
    exact absurd hcharged (by simp)
  · intro ⟨dimension, key, hfirst, hfull⟩ dimension' key'
    rw [← hevict] at hfull
    rw [allowRequest_of_full hfirst hfull]
    by_cases hsame : dimension' = dimension ∧ key' = key
    · obtain ⟨rfl, rfl⟩ := hsame
      rw [Storage.set_apply_self, unexpired_evict]
    · rw [Storage.set_apply_of_ne _ hsame]

/-- A request rejected for its address. -/
theorem budgetsKept_ip :
    RateLimitMiddleware.BudgetsKept { ipMaxRequests := 1 }
      (RateLimitMiddleware.storageAfter { ipMaxRequests := 1 } [⟨{ ip := some "10.0.0.1" }, 0⟩])
      ⟨{ ip := some "10.0.0.1", principal := some "bob" }, 1⟩ :=
  (budgetsKept_iff { ipMaxRequests := 1 } [⟨{ ip := some "10.0.0.1" }, 0⟩]
    ⟨{ ip := some "10.0.0.1", principal := some "bob" }, 1⟩ (by decide +kernel)
    (by decide +kernel)).mpr ⟨.ip, "10.0.0.1", by decide +kernel, by decide +kernel⟩

end DbGateway.RateLimit
