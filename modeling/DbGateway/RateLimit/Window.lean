import DbGateway.RateLimit.Limiter

/-!
# DbGateway.RateLimit.Window

No window of the configured length has more admitted requests of a key than the
key's budget (`windowBound`).  What a deque holds is the stamps of all requests
that reached its check, whether a later dimension rejected them or not; the
admitted ones among them that are not due are all there.
-/

namespace DbGateway.RateLimit

open SlidingWindow RateLimitMiddleware

/-- At most `limit` of the readings lie in any half-open window. -/
def WindowBound (windowSeconds limit : Int) (readings : List Rat) : Prop :=
  ∀ start : Rat,
    ((readings.filter fun now => start ≤ now ∧ now < start + windowSeconds).length : Int) ≤
        limit ∧
      ((readings.filter fun now => start < now ∧ now ≤ start + windowSeconds).length : Int) ≤
        limit

/-- The clock does not go back. -/
def Clocked (run : List Request) : Prop := run.Pairwise fun r r' => r.now ≤ r'.now

instance (run : List Request) : Decidable (Clocked run) :=
  inferInstanceAs (Decidable (run.Pairwise fun r r' => r.now ≤ r'.now))

/-- A request without an address before the first comma of `X-Forwarded-For`
has the empty string for its IP, and as many as like are admitted. -/
theorem not_windowBound_empty :
    ¬ ∀ (limiter : RateLimitMiddleware) (run : List Request), limiter.layeredMode = true →
      Clocked run → ∀ dimension ∈ [Dimension.ip, .principal, .tenant],
        0 < limiter.maxRequests dimension → ∀ key,
          WindowBound limiter.windowSeconds (limiter.maxRequests dimension)
            (limiter.admitted run dimension key) := by
  intro h
  have hbound := h { ipMaxRequests := 1 }
    [⟨{ ip := some "" }, 0⟩, ⟨{ ip := some "" }, 0⟩] (by decide +kernel) (by decide +kernel)
    .ip List.mem_cons_self (by decide) "" 0
  revert hbound
  decide +kernel

variable {limiter : RateLimitMiddleware}

/-- No reading of a half-open window makes another one due. -/
theorem span_of_window {p : Rat → Bool}
    (h : ∀ x y, p x = true → p y = true → y < x + limiter.windowSeconds) :
    Span limiter.cutoff p := by
  intro x y hx hy
  have hxy := h x y hx hy
  unfold cutoff
  linarith

/-- What bounds every span bounds every window. -/
theorem windowBound_of_spans {limit : Int} {readings : List Rat}
    (h : ∀ p, Span limiter.cutoff p → ((readings.filter p).length : Int) ≤ limit) :
    WindowBound limiter.windowSeconds limit readings := by
  intro start
  constructor
  · refine h _ (span_of_window fun x y hx hy => ?_)
    simp only [decide_eq_true_eq] at hx hy
    linarith
  · refine h _ (span_of_window fun x y hx hy => ?_)
    simp only [decide_eq_true_eq] at hx hy
    linarith

theorem key?_of_get {keys : Keys} {dimension : Dimension} {key : String} (hkey : key ≠ "")
    (h : keys.get dimension = some key) : keys.key? dimension = some key := by
  rw [Keys.key?, h, Option.filter_some, if_pos (decide_eq_true hkey)]

/-- **The sliding window bound**: no half-open window has more admitted requests
with a key than its budget, for a key that is not empty and for any key of the
legacy mode. -/
theorem windowBound (limiter : RateLimitMiddleware) :
    (∀ run, Clocked run → ∀ dimension, 0 < limiter.maxRequests dimension → ∀ key, key ≠ "" →
        WindowBound limiter.windowSeconds (limiter.maxRequests dimension)
          (limiter.admitted run dimension key)) ∧
      ∀ run : List LegacyRequest, (run.Pairwise fun r r' => r.2 ≤ r'.2) →
        0 < limiter.legacyMax → ∀ key,
          WindowBound limiter.windowSeconds limiter.legacyMax (limiter.admittedLegacy run key) := by
  constructor
  · intro run hclock dimension hbudget key hkey
    refine windowBound_of_spans fun p hp => length_admitted_le
      (q := fun storage : Storage => storage dimension key)
      limiter.monotone_cutoff hbudget.le rfl (fun storage request => ?_) hclock hp
    obtain ⟨recorded, hcheck, hrecorded⟩ :=
      limiter.allowRequest_check storage request dimension key
    exact ⟨recorded, hcheck, fun hallowed hkeyed =>
      hrecorded hallowed ⟨key?_of_get hkey (of_decide_eq_true hkeyed), hbudget⟩⟩
  · intro run hclock hbudget key
    refine windowBound_of_spans fun p hp => length_admitted_le
      (q := fun storage : Deques => storage key)
      limiter.monotone_cutoff hbudget.le rfl (fun storage request => ?_) hclock hp
    obtain ⟨recorded, hcheck, hrecorded⟩ :=
      limiter.allowLegacyRequest_check storage request.1 request.2 key
    exact ⟨recorded, hcheck, fun hallowed hkeyed =>
      hrecorded hallowed (of_decide_eq_true hkeyed).symm⟩

/-- Two requests within a minute. -/
def tightLimiter : RateLimitMiddleware := { tenantMaxRequests := 2 }

/-- The third of five requests is refused, and the last is admitted again. -/
def busyRun : List Request :=
  [0, 10, 20, 61, 75].map fun now => ⟨{ tenant := some "tenant-a" }, now⟩

theorem windowBound_tenant :
    (tightLimiter.admitted busyRun .tenant "tenant-a").length = 4 ∧
      WindowBound 60 2 (tightLimiter.admitted busyRun .tenant "tenant-a") :=
  ⟨by decide +kernel, (windowBound tightLimiter).1 busyRun (by decide) .tenant (by decide) "tenant-a"
    (by decide)⟩

end DbGateway.RateLimit
