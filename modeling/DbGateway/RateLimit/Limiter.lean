import DbGateway.Runs
import DbGateway.SlidingWindow
import Mathlib.Algebra.Order.Ring.Rat
import Mathlib.Logic.Function.Basic
import Mathlib.Tactic.Linarith

/-!
# DbGateway.RateLimit.Limiter

`middlewares/rate_limit_middleware.py`: the budgets of a request, checked one
after another.

A request is checked under the middleware's lock from beginning to end, without
an `await` that waits, so a run is a list of requests with the readings of
`time.monotonic` they are checked at.  Readings are the rational numbers they
are; taking the window's whole seconds from one is exact (of a reading below
`2 ^ 53` seconds).
-/

namespace DbGateway

open SlidingWindow

namespace RateLimit

/-- What a budget is kept for. -/
inductive Dimension where
  | ip
  | principal
  | tenant
  | database
deriving DecidableEq

/-- The dimensions, in the order `_allow_request` checks them. -/
def dimensions : List Dimension := [.ip, .principal, .tenant, .database]

/-- The name a dimension is reported under. -/
def Dimension.name : Dimension → String
  | .ip => "ip"
  | .principal => "principal"
  | .tenant => "tenant"
  | .database => "database"

/-- The keys of a request (`_get_rate_limit_keys`). -/
structure Keys where
  ip : Option String := none
  principal : Option String := none
  tenant : Option String := none
  database : Option String := none

/-- `keys[dimension]` -/
def Keys.get (self : Keys) : Dimension → Option String
  | .ip => self.ip
  | .principal => self.principal
  | .tenant => self.tenant
  | .database => self.database

/-- `if keys[dimension]:`, with the key. -/
def Keys.key? (self : Keys) (dimension : Dimension) : Option String :=
  (self.get dimension).filter (· ≠ "")

/-- One dimension's `defaultdict(deque)`. -/
abbrev Deques := String → List Rat

/-- The deques of every dimension. -/
abbrev Storage := Dimension → Deques

/-- `storage[key] = deque`, in a dimension. -/
def Storage.set (self : Storage) (dimension : Dimension) (key : String) (deque : List Rat) :
    Storage :=
  Function.update self dimension (Function.update (self dimension) key deque)

@[simp] theorem Storage.set_apply_self (self : Storage) (dimension : Dimension) (key : String)
    (deque : List Rat) : self.set dimension key deque dimension key = deque := by
  simp [set]

theorem Storage.set_apply_of_ne (self : Storage) {dimension dimension' : Dimension}
    {key key' : String} (h : ¬ (dimension' = dimension ∧ key' = key)) (deque : List Rat) :
    self.set dimension key deque dimension' key' = self dimension' key' := by
  unfold set
  by_cases hdim : dimension' = dimension
  · subst hdim
    rw [Function.update_self, Function.update_of_ne fun hkey => h ⟨rfl, hkey⟩]
  · rw [Function.update_of_ne hdim]

/-- `RateLimitMiddleware`, as configured. -/
structure RateLimitMiddleware where
  windowSeconds : Int := 60
  legacyMax : Int := 0
  ipMaxRequests : Int := 120
  principalMaxRequests : Int := 60
  tenantMaxRequests : Int := 200
  databaseMaxRequests : Int := 100

/-- A request, and when it is checked. -/
structure Request where
  keys : Keys
  now : Rat

/-- `_check_limit` -/
def checkLimit (key : String) (maxRequests : Int) (storage : Deques) (cutoff now : Rat) :
    Bool × Deques :=
  if maxRequests ≤ 0 then (true, storage)
  else
    let requests := evict cutoff (storage key)
    if requests.length ≥ maxRequests then (false, Function.update storage key requests)
    else (true, Function.update storage key (requests ++ [now]))

namespace RateLimitMiddleware

/-- The budget of a dimension. -/
def maxRequests (self : RateLimitMiddleware) : Dimension → Int
  | .ip => self.ipMaxRequests
  | .principal => self.principalMaxRequests
  | .tenant => self.tenantMaxRequests
  | .database => self.databaseMaxRequests

/-- `self._layered_mode` -/
def layeredMode (self : RateLimitMiddleware) : Bool :=
  self.legacyMax = 0 && dimensions.any fun dimension => 0 < self.maxRequests dimension

/-- `now - self.window_seconds` -/
def cutoff (self : RateLimitMiddleware) (now : Rat) : Rat := now - self.windowSeconds

/-- One `if keys[dimension]: if not await self._check_limit(…)`. -/
def checkDimension (self : RateLimitMiddleware) (request : Request) (dimension : Dimension)
    (storage : Storage) : Bool × Storage :=
  match request.keys.key? dimension with
  | none => (true, storage)
  | some key =>
      let (allowed, deques) := checkLimit key (self.maxRequests dimension) (storage dimension)
        (self.cutoff request.now) request.now
      (allowed, Function.update storage dimension deques)

/-- The checks one after another, until one fails. -/
def checkDimensions (self : RateLimitMiddleware) (request : Request) :
    List Dimension → Storage → (Bool × String) × Storage
  | [], storage => ((true, ""), storage)
  | dimension :: rest, storage =>
      let (allowed, storage) := self.checkDimension request dimension storage
      if allowed then self.checkDimensions request rest storage
      else ((false, dimension.name), storage)

/-- `_allow_request` -/
def allowRequest (self : RateLimitMiddleware) (storage : Storage) (request : Request) :
    (Bool × String) × Storage :=
  self.checkDimensions request dimensions storage

/-- `_allow_legacy_request` -/
def allowLegacyRequest (self : RateLimitMiddleware) (storage : Deques) (clientKey : String)
    (now : Rat) : Bool × Deques :=
  let requests := evict (self.cutoff now) (storage clientKey)
  if requests.length ≥ self.legacyMax then (false, Function.update storage clientKey requests)
  else (true, Function.update storage clientKey (requests ++ [now]))

/-! ## What a check does -/

variable {limiter : RateLimitMiddleware} {request : Request} {storage : Storage}

theorem monotone_cutoff (self : RateLimitMiddleware) : Monotone self.cutoff := by
  intro x y hxy
  unfold cutoff
  linarith

/-- The dimension limits the request: it has a key there, and there is a
budget. -/
def Limits (self : RateLimitMiddleware) (keys : Keys) (dimension : Dimension) (key : String) :
    Prop :=
  keys.key? dimension = some key ∧ 0 < self.maxRequests dimension

/-- A dimension that does not limit the request is not looked at. -/
theorem checkDimension_of_not_limits {dimension : Dimension}
    (h : ∀ key, ¬ limiter.Limits request.keys dimension key) :
    limiter.checkDimension request dimension storage = (true, storage) := by
  unfold checkDimension
  cases hkey : request.keys.key? dimension with
  | none => rfl
  | some key =>
      have hbudget : limiter.maxRequests dimension ≤ 0 := not_lt.mp fun hpos => h key ⟨hkey, hpos⟩
      simp only [checkLimit, if_pos hbudget, Function.update_eq_self]

/-- A dimension that does is at its budget, or records the request. -/
theorem checkDimension_of_limits {dimension : Dimension} {key : String}
    (h : limiter.Limits request.keys dimension key) :
    let kept := evict (limiter.cutoff request.now) (storage dimension key)
    limiter.checkDimension request dimension storage =
      if limiter.maxRequests dimension ≤ kept.length then
        (false, storage.set dimension key kept)
      else (true, storage.set dimension key (kept ++ [request.now])) := by
  simp only [checkDimension, h.1, checkLimit, if_neg (not_le.mpr h.2), ge_iff_le]
  split
  · rfl
  · rfl

/-- A dimension's check leaves the other dimensions alone. -/
theorem checkDimension_other {dimension dimension' : Dimension} (h : dimension' ≠ dimension) :
    (limiter.checkDimension request dimension storage).2 dimension' = storage dimension' := by
  unfold checkDimension
  cases request.keys.key? dimension with
  | none => rfl
  | some key => exact Function.update_of_ne h _ _

theorem checkDimensions_other {rest : List Dimension} {dimension : Dimension}
    (h : dimension ∉ rest) (storage : Storage) :
    (limiter.checkDimensions request rest storage).2 dimension = storage dimension := by
  induction rest generalizing storage with
  | nil => rfl
  | cons first rest ih =>
      rw [List.mem_cons, not_or] at h
      rw [checkDimensions]
      dsimp only
      split
      · rw [ih h.2, checkDimension_other h.1]
      · exact checkDimension_other h.1

/-- A dimension's check of one of its deques. -/
theorem checkDimension_check (limiter : RateLimitMiddleware) (request : Request)
    (storage : Storage) (dimension : Dimension) (key' : String) :
    ∃ recorded, Check (limiter.maxRequests dimension) (limiter.cutoff request.now) request.now
        (storage dimension key') recorded
        ((limiter.checkDimension request dimension storage).2 dimension key') ∧
      ((limiter.checkDimension request dimension storage).1 = true →
        limiter.Limits request.keys dimension key' → recorded = true) := by
  by_cases hlimits : ∃ key, limiter.Limits request.keys dimension key
  swap
  · rw [checkDimension_of_not_limits fun key h => hlimits ⟨key, h⟩]
    exact ⟨false, .skipped, fun _ h => absurd ⟨key', h⟩ hlimits⟩
  obtain ⟨key, hlimits⟩ := hlimits
  rw [checkDimension_of_limits hlimits]
  by_cases hkey : key' = key
  · subst hkey
    split
    · next hfull => exact ⟨false, by simpa using .full hfull, fun h => absurd h (by simp)⟩
    · next hroom => exact ⟨true, by simpa using .recorded (not_le.mp hroom), fun _ _ => rfl⟩
  · have hother : ∀ deque, storage.set dimension key deque dimension key' =
        storage dimension key' := fun deque => storage.set_apply_of_ne (fun h => hkey h.2) deque
    refine ⟨false, ?_, fun _ h => absurd (Option.some.inj (h.1.symm.trans hlimits.1)) hkey⟩
    split
    · exact (hother _).symm ▸ .skipped
    · exact (hother _).symm ▸ .skipped

/-- **What a request does to a deque**: it is checked at most once, and a
request that is allowed is recorded wherever it is limited. -/
theorem checkDimensions_check (limiter : RateLimitMiddleware) (request : Request)
    {rest : List Dimension} (hrest : rest.Nodup) (storage : Storage) (dimension : Dimension)
    (key : String) :
    ∃ recorded, Check (limiter.maxRequests dimension) (limiter.cutoff request.now) request.now
        (storage dimension key) recorded
        ((limiter.checkDimensions request rest storage).2 dimension key) ∧
      ((limiter.checkDimensions request rest storage).1.1 = true → dimension ∈ rest →
        limiter.Limits request.keys dimension key → recorded = true) := by
  induction rest generalizing storage with
  | nil => exact ⟨false, .skipped, fun _ h => absurd h List.not_mem_nil⟩
  | cons first rest ih =>
      rw [List.nodup_cons] at hrest
      rw [checkDimensions]
      dsimp only
      by_cases hdim : dimension = first
      · subst hdim
        obtain ⟨recorded, hcheck, hrecorded⟩ :=
          checkDimension_check limiter request storage dimension key
        refine ⟨recorded, ?_, fun hallowed _ => hrecorded ?_⟩
        · split
          · rw [checkDimensions_other hrest.1]
            exact hcheck
          · exact hcheck
        · by_contra hfirst
          rw [if_neg hfirst] at hallowed
          exact Bool.false_ne_true hallowed
      · split
        · obtain ⟨recorded, hcheck, hrecorded⟩ :=
            ih hrest.2 (limiter.checkDimension request first storage).2
          rw [checkDimension_other hdim] at hcheck
          exact ⟨recorded, hcheck, fun hallowed hmem =>
            hrecorded hallowed (List.mem_of_ne_of_mem hdim hmem)⟩
        · rw [checkDimension_other hdim]
          exact ⟨false, .skipped, fun h => absurd h (by simp)⟩

/-- A request that is refused has come to a deque with no room for it. -/
theorem checkDimensions_full {rest : List Dimension} (hrest : rest.Nodup)
    (h : (limiter.checkDimensions request rest storage).1.1 = false) :
    ∃ dimension ∈ rest, ∃ key, limiter.Limits request.keys dimension key ∧
      limiter.maxRequests dimension ≤
        (evict (limiter.cutoff request.now) (storage dimension key)).length := by
  induction rest generalizing storage with
  | nil => exact absurd h (by simp [checkDimensions])
  | cons first rest ih =>
      rw [List.nodup_cons] at hrest
      rw [checkDimensions] at h
      dsimp only at h
      cases hallowed : (limiter.checkDimension request first storage).1 with
      | true =>
          rw [if_pos hallowed] at h
          obtain ⟨dimension, hmem, key, hlimits, hfull⟩ := ih hrest.2 h
          have hne : dimension ≠ first := fun heq => hrest.1 (heq ▸ hmem)
          rw [checkDimension_other hne] at hfull
          exact ⟨dimension, List.mem_cons_of_mem _ hmem, key, hlimits, hfull⟩
      | false =>
          by_cases hlimits : ∃ key, limiter.Limits request.keys first key
          · obtain ⟨key, hlimits⟩ := hlimits
            rw [checkDimension_of_limits hlimits] at hallowed
            refine ⟨first, List.mem_cons_self, key, hlimits, ?_⟩
            by_contra hroom
            rw [if_neg hroom] at hallowed
            exact absurd hallowed (by simp)
          · rw [checkDimension_of_not_limits fun key hkey => hlimits ⟨key, hkey⟩] at hallowed
            exact absurd hallowed (by simp)

/-- The legacy check of one deque. -/
theorem allowLegacyRequest_check (limiter : RateLimitMiddleware) (storage : Deques)
    (clientKey : String) (now : Rat) (key : String) :
    ∃ recorded, Check limiter.legacyMax (limiter.cutoff now) now (storage key) recorded
        ((limiter.allowLegacyRequest storage clientKey now).2 key) ∧
      ((limiter.allowLegacyRequest storage clientKey now).1 = true → key = clientKey →
        recorded = true) := by
  unfold allowLegacyRequest
  by_cases hkey : key = clientKey
  · subst hkey
    dsimp only
    split
    · next hfull => exact ⟨false, by simpa using .full hfull, fun h => absurd h (by simp)⟩
    · next hroom => exact ⟨true, by simpa using .recorded (not_le.mp hroom), fun _ _ => rfl⟩
  · have hother : ∀ deque, Function.update storage clientKey deque key = storage key :=
      fun deque => Function.update_of_ne hkey deque storage
    refine ⟨false, ?_, fun _ h => absurd h hkey⟩
    dsimp only
    split
    · exact (hother _).symm ▸ .skipped
    · exact (hother _).symm ▸ .skipped

/-! ## Runs -/

/-- A request of the layered mode as a step of the machine. -/
def decide (self : RateLimitMiddleware) (storage : Storage) (request : Request) : Bool × Storage :=
  let ((allowed, _), storage) := self.allowRequest storage request
  (allowed, storage)

/-- A request of the legacy mode: its key, and when it is checked. -/
abbrev LegacyRequest := String × Rat

/-- A request of the legacy mode as a step of the machine. -/
def decideLegacy (self : RateLimitMiddleware) (storage : Deques) (request : LegacyRequest) :
    Bool × Deques :=
  self.allowLegacyRequest storage request.1 request.2

/-- The storage after a run. -/
def storageAfter (self : RateLimitMiddleware) (run : List Request) : Storage :=
  Runs.after (Runs.next self.decide) (fun _ _ => []) run

/-- **What an allowed request does to a deque**, and what a rejected one may. -/
theorem allowRequest_check (self : RateLimitMiddleware) (storage : Storage) (request : Request)
    (dimension : Dimension) (key : String) :
    ∃ recorded, Check (self.maxRequests dimension) (self.cutoff request.now) request.now
        (storage dimension key) recorded ((self.allowRequest storage request).2 dimension key) ∧
      ((self.allowRequest storage request).1.1 = true →
        self.Limits request.keys dimension key → recorded = true) := by
  obtain ⟨recorded, hcheck, hrecorded⟩ :=
    checkDimensions_check self request (by decide : dimensions.Nodup) storage dimension key
  exact ⟨recorded, hcheck, fun hallowed => hrecorded hallowed (by cases dimension <;> decide)⟩

/-- When the admitted requests with a key were checked. -/
def admitted (self : RateLimitMiddleware) (run : List Request) (dimension : Dimension)
    (key : String) : List Rat :=
  SlidingWindow.admitted self.decide (fun _ _ => []) (·.now)
    (fun request => request.keys.get dimension = some key) run

/-- When the requests with a key admitted in legacy mode were checked. -/
def admittedLegacy (self : RateLimitMiddleware) (run : List LegacyRequest) (key : String) :
    List Rat :=
  SlidingWindow.admitted self.decideLegacy (fun _ => []) (·.2) (fun request => request.1 = key) run

end RateLimitMiddleware

end RateLimit

end DbGateway
