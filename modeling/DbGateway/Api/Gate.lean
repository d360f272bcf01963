import DbGateway.Api.Budgets
import DbGateway.RateLimit.Window
import Mathlib.Algebra.Order.Group.Multiset

/-!
# DbGateway.Api.Gate

What gets past the middlewares of the SQL API, in every interleaving of the
messages of its requests.

A GraphQL request that reaches its route was authenticated, is without the
headers a client could pass for an identity with, and comes with the whole of a
body that is within the limit; no window has more of them than a budget they
count against (`gated`).  Requests that share no budget with others, and those
that are not authenticated at all, do not hold the others up (`undisturbed`).
-/

namespace DbGateway.Api

open Middleware (BodySizeLimitMiddleware Message bodyOf Open Completes)
open RateLimit (WindowBound)
open SlidingWindow (Bounded)
open Sql (startsWith)

section

variable [Python] {stack : Stack} {providers : Auth.Auth0 → Prop} {s s' : Limits} {t t' : Task}
  {wake : Wake}

/-! ## What a segment does -/

/-- What becomes of a request that the body limit lets through. -/
inductive Admits (stack : Stack) (s : Limits) (scope : Scope) (body : Option (List UInt8))
    (auth0 : Auth.Auth0) (now : Rat) : Limits → Stage → Prop
  | unauthenticated {reason : String}
      (h : Auth.rbacMiddleware auth0 scope.request = .unauthorized reason) :
      Admits stack s scope body auth0 now s (.refused (.unauthenticated reason))
  | failed (h : Auth.rbacMiddleware auth0 scope.request = .raised) :
      Admits stack s scope body auth0 now s (.refused .failed)
  | uncounted {principal : Option Principal}
      (h : Auth.rbacMiddleware auth0 scope.request = .forwarded principal)
      (hcounts : RateLimiter.counts scope = false) :
      Admits stack s scope body auth0 now s (.delivered ⟨scope.seen, principal, body, none⟩)
  | limited {principal : Option Principal}
      (h : Auth.rbacMiddleware auth0 scope.request = .forwarded principal)
      (hcounts : RateLimiter.counts scope = true)
      (hallowed : (stack.limiter.allow s scope principal now).1 = false) :
      Admits stack s scope body auth0 now (stack.limiter.allow s scope principal now).2
        (.refused (.limited stack.limiter.limits.windowSeconds))
  | counted {principal : Option Principal}
      (h : Auth.rbacMiddleware auth0 scope.request = .forwarded principal)
      (hcounts : RateLimiter.counts scope = true)
      (hallowed : (stack.limiter.allow s scope principal now).1 = true) :
      Admits stack s scope body auth0 now (stack.limiter.allow s scope principal now).2
        (.delivered ⟨scope.seen, principal, body, some now⟩)

theorem Stack.authenticate_admits (stack : Stack) (s : Limits) (scope : Scope)
    (body : Option (List UInt8)) (auth0 : Auth.Auth0) (now : Rat) :
    Admits stack s scope body auth0 now (stack.authenticate s scope body auth0 now).1
      (stack.authenticate s scope body auth0 now).2 := by
  unfold authenticate
  cases hrbac : Auth.rbacMiddleware auth0 scope.request with
  | unauthorized reason => exact .unauthenticated hrbac
  | raised => exact .failed hrbac
  | forwarded principal =>
      dsimp only
      unfold limit
      cases hcounts : RateLimiter.counts scope with
      | false => exact .uncounted hrbac hcounts
      | true =>
          cases hallowed : (stack.limiter.allow s scope principal now).1 with
          | false =>
              have hallow : stack.limiter.allow s scope principal now =
                  (false, (stack.limiter.allow s scope principal now).2) := Prod.ext hallowed rfl
              rw [if_pos rfl, hallow]
              exact .limited hrbac hcounts hallowed
          | true =>
              have hallow : stack.limiter.allow s scope principal now =
                  (true, (stack.limiter.allow s scope principal now).2) := Prod.ext hallowed rfl
              rw [if_pos rfl, hallow]
              exact .counted hrbac hcounts hallowed

/-- How the body limit goes on in a segment. -/
inductive Drains (stack : Stack) : Task → Wake → Task → Middleware.State → Prop
  | entered {scope : Scope} {id : Option CorrelationId} {received : List Message} {stage : Stage}
      {uuid4 : CorrelationId} {auth0 : Auth.Auth0} {now : Rat} :
      Drains stack ⟨scope, id, received, .arrived⟩ ⟨.inl uuid4, auth0, now⟩
        ⟨scope, if scope.type = "http" then some (scope.correlationId uuid4) else none, received,
          stage⟩
        (stack.body.start stack.int scope.raw)
  | received {scope : Scope} {id : Option CorrelationId} {received : List Message} {stage : Stage}
      {body : List UInt8} {message : Message} {auth0 : Auth.Auth0} {now : Rat} :
      Drains stack ⟨scope, id, received, .draining body⟩ ⟨.inr message, auth0, now⟩
        ⟨scope, id, received ++ [message], stage⟩ (stack.body.step (.receiving body) message)

theorem Task.drains (h : t.advance stack s wake = some (s', t')) :
    ∃ state, Drains stack t wake t' state ∧
      stack.proceed s t.scope wake.auth0 wake.now state = (s', t'.stage) := by
  obtain ⟨scope, id, received, stage⟩ := t
  obtain ⟨event, auth0, now⟩ := wake
  cases stage with
  | arrived =>
      cases event with
      | inl uuid4 =>
          simp only [advance, Option.some.injEq, Prod.mk.injEq] at h
          obtain ⟨hs, ht⟩ := h
          rw [← ht]
          exact ⟨_, .entered, Prod.ext hs rfl⟩
      | inr message => contradiction
  | draining body =>
      cases event with
      | inl uuid4 => contradiction
      | inr message =>
          simp only [advance, Option.some.injEq, Prod.mk.injEq] at h
          obtain ⟨hs, ht⟩ := h
          rw [← ht]
          exact ⟨_, .received, Prod.ext hs rfl⟩
  | closed => contradiction
  | refused refusal => contradiction
  | delivered delivered => contradiction

omit [Python] in
theorem Drains.scope_eq {state : Middleware.State} (h : Drains stack t wake t' state) :
    t'.scope = t.scope := by
  cases h with
  | entered => rfl
  | received => rfl

/-! ## Requests past the gate -/

/-- A GraphQL request, to the body limit. -/
def Scope.Graphql (self : Scope) : Prop :=
  self.type = "http" ∧ startsWith (self.path.getD "") "/graphql" = true

/-- A GraphQL request, to authentication. -/
def Scope.Guarded (self : Scope) : Prop :=
  self.type = "http" ∧ startsWith self.urlPath "/graphql" = true

/-- What a route can rely on. -/
structure Delivered.Sound (stack : Stack) (providers : Auth.Auth0 → Prop) (scope : Scope)
    (received : List Message) (d : Delivered) : Prop where
  /-- No header is left that could pass for an identity. -/
  headers : scope.type = "http" → ∀ header ∈ d.headers,
    Auth.spoofableHeaderPrefixes.any (startsWith (mapChars Char.toLower header.1)) = false
  /-- The principal is the one that the request's own token stands for. -/
  principal : scope.Guarded → ∃ auth0 principal, providers auth0 ∧
    d.principal = some principal ∧ Auth.Authenticates auth0 scope.request principal
  anonymous : ¬ scope.Guarded → d.principal = none
  /-- The body is all that the client sent, and within the limit. -/
  body : scope.Graphql → ∃ payload, d.body = some payload ∧ Completes received payload ∧
    (payload.length : Int) ≤ stack.body.maxBytes
  checked : d.checked.isSome = RateLimiter.counts scope

/-- Why a request is refused. -/
def Refusal.Justified (stack : Stack) (providers : Auth.Auth0 → Prop) (scope : Scope)
    (received : List Message) : Refusal → Prop
  | .tooLarge => (∃ announced, Middleware.contentLength stack.int scope.raw = some announced ∧
      stack.body.maxBytes < announced) ∨ stack.body.maxBytes < (bodyOf received).length
  | .unauthenticated reason => ∃ auth0, providers auth0 ∧
      Auth.rbacMiddleware auth0 scope.request = .unauthorized reason
  | .limited retryAfter => retryAfter = stack.limiter.limits.windowSeconds ∧
      ∃ auth0 principal, providers auth0 ∧ Auth.Authenticates auth0 scope.request principal
  | .failed => ∃ auth0, providers auth0 ∧ Auth.rbacMiddleware auth0 scope.request = .raised

/-- What is known of a request, by where it stands. -/
def Stage.Gated (stack : Stack) (providers : Auth.Auth0 → Prop) (scope : Scope)
    (received : List Message) : Stage → Prop
  | .arrived => received = []
  | .draining body => Open received ∧ body = bodyOf received
  | .closed => True
  | .refused refusal => refusal.Justified stack providers scope received
  | .delivered d => Delivered.Sound stack providers scope received d

/-- What is known of a request.  Its correlation ID is its own where that is safe. -/
structure Task.Gated (stack : Stack) (providers : Auth.Auth0 → Prop) (t : Task) : Prop where
  stage : t.stage.Gated stack providers t.scope t.received
  correlated : t.scope.type = "http" → t.stage = .arrived ∨
    ∃ uuid4, t.correlationId = some (t.scope.correlationId uuid4)

omit [Python] in
theorem spoofable_seen {scope : Scope} (hhttp : scope.type = "http") :
    ∀ header ∈ scope.seen,
      Auth.spoofableHeaderPrefixes.any (startsWith (mapChars Char.toLower header.1)) = false := by
  intro header hmem
  rw [Scope.seen, if_neg (by simp [hhttp]), Auth.stripSpoofableHeaders, List.mem_filter] at hmem
  simpa using hmem.2

/-- Whom authentication forwards for. -/
theorem authenticates_of_forwarded {auth0 : Auth.Auth0} {scope : Scope}
    {principal : Option Principal} (hguarded : scope.Guarded)
    (h : Auth.rbacMiddleware auth0 scope.request = .forwarded principal) :
    ∃ p, principal = some p ∧ Auth.Authenticates auth0 scope.request p := by
  cases principal with
  | some p => exact ⟨p, rfl, Auth.rbacMiddleware_eq_forwarded_iff.mp h⟩
  | none =>
      have htype : scope.request.type = "http" := hguarded.1
      have hpath : startsWith scope.request.path "/graphql" = true := hguarded.2
      simp only [Auth.rbacMiddleware, htype, hpath, ne_eq, not_true_eq_false, if_false,
        if_true] at h
      split at h
      · contradiction
      · contradiction
      · split at h <;> simp at h

/-- Nobody else is told who asks. -/
theorem eq_none_of_forwarded {auth0 : Auth.Auth0} {scope : Scope} {principal : Option Principal}
    (hguarded : ¬ scope.Guarded)
    (h : Auth.rbacMiddleware auth0 scope.request = .forwarded principal) : principal = none := by
  cases principal with
  | none => rfl
  | some p =>
      obtain ⟨hhttp, hgraphql, -⟩ := Auth.rbacMiddleware_eq_forwarded_iff.mp h
      exact absurd ⟨hhttp, hgraphql⟩ hguarded

omit [Python] in
theorem guarded_of_counts {scope : Scope} (h : RateLimiter.counts scope = true) :
    scope.Guarded := by
  simp only [RateLimiter.counts, Bool.and_eq_true, decide_eq_true_eq] at h
  exact h.1

/-- A request that the body limit lets through, with the body it was given. -/
theorem Admits.stage_gated {scope : Scope} {received : List Message} {body : Option (List UInt8)}
    {auth0 : Auth.Auth0} {now : Rat} {stage : Stage} (hauth0 : providers auth0)
    (hbody : scope.Graphql → ∃ payload, body = some payload ∧ Completes received payload ∧
      (payload.length : Int) ≤ stack.body.maxBytes)
    (h : Admits stack s scope body auth0 now s' stage) :
    stage.Gated stack providers scope received := by
  have hsound : ∀ {principal : Option Principal} {checked : Option Rat},
      Auth.rbacMiddleware auth0 scope.request = .forwarded principal →
        checked.isSome = RateLimiter.counts scope →
        Delivered.Sound stack providers scope received ⟨scope.seen, principal, body, checked⟩ := by
    intro principal checked hforwarded hchecked
    refine ⟨fun hhttp => spoofable_seen hhttp, fun hguarded => ?_,
      fun hguarded => eq_none_of_forwarded hguarded hforwarded, hbody, hchecked⟩
    obtain ⟨p, hp, hauthenticates⟩ := authenticates_of_forwarded hguarded hforwarded
    exact ⟨auth0, p, hauth0, hp, hauthenticates⟩
  cases h with
  | unauthenticated hrbac => exact ⟨auth0, hauth0, hrbac⟩
  | failed hrbac => exact ⟨auth0, hauth0, hrbac⟩
  | uncounted hrbac hcounts => exact hsound hrbac hcounts.symm
  | limited hrbac hcounts hallowed =>
      obtain ⟨p, -, hauthenticates⟩ := authenticates_of_forwarded (guarded_of_counts hcounts) hrbac
      exact ⟨rfl, auth0, p, hauth0, hauthenticates⟩
  | counted hrbac hcounts hallowed => exact hsound hrbac hcounts.symm

/-- What the body limit decides of a request, with the messages it has seen. -/
def Drained (stack : Stack) (scope : Scope) (received : List Message) : Middleware.State → Prop
  | .passed => ¬ scope.Graphql
  | .receiving body => Open received ∧ body = bodyOf received
  | .disconnected _ => True
  | .rejected _ => (∃ announced, Middleware.contentLength stack.int scope.raw = some announced ∧
      stack.body.maxBytes < announced) ∨ stack.body.maxBytes < (bodyOf received).length
  | .called replay => Completes received replay.payload ∧
      (replay.payload.length : Int) ≤ stack.body.maxBytes

/-- Whatever a segment reads of the body, what has been drained after it is as
`Drained` says of the state. -/
theorem Drains.justified {state : Middleware.State}
    (h : Drains stack t wake t' state) (ht : t.stage.Gated stack providers t.scope t.received) :
    Drained stack t'.scope t'.received state := by
  cases h with
  | @entered scope id received stage uuid4 auth0 now =>
      have hreceived : received = [] := ht
      subst hreceived
      have hopen : Open ([] : List Message) := fun message hmem => absurd hmem List.not_mem_nil
      change Drained stack scope [] (stack.body.start stack.int scope.raw)
      unfold BodySizeLimitMiddleware.start
      split
      · next hpassed =>
          rintro ⟨hhttp, hpath⟩
          simp [Scope.raw, hpath] at hpassed
          exact absurd hhttp (of_decide_eq_true hpassed)
      · cases hlength : Middleware.contentLength stack.int scope.raw with
        | none => exact ⟨hopen, rfl⟩
        | some announced =>
            dsimp only
            split
            · next hlarge => exact .inl ⟨announced, hlength, hlarge⟩
            · exact ⟨hopen, rfl⟩
  | @received scope id received stage body message auth0 now =>
      obtain ⟨hopen, rfl⟩ : Open received ∧ body = bodyOf received := ht
      have hbody := Middleware.bodyOf_concat received message
      rw [BodySizeLimitMiddleware.step]
      by_cases hdisconnect : message.type = "http.disconnect"
      · rw [if_pos hdisconnect]
        trivial
      rw [if_neg hdisconnect]
      by_cases hrequest : message.type = "http.request"
      · rw [if_pos hrequest] at hbody
        rw [if_neg (by simp [hrequest]), ← hbody]
        split
        · next hlarge => exact .inr hlarge
        · next hfits =>
            cases hmore : message.moreBody with
            | false =>
                exact ⟨⟨received, message, [], rfl, hopen, hrequest, hmore, rfl⟩,
                  Int.not_lt.mp hfits⟩
            | true => exact ⟨Middleware.open_concat.mpr ⟨hopen, hdisconnect, fun _ => hmore⟩, rfl⟩
      · rw [if_neg hrequest] at hbody
        rw [if_pos hrequest]
        exact ⟨Middleware.open_concat.mpr ⟨hopen, hdisconnect, fun h => absurd h hrequest⟩,
          hbody.symm⟩

theorem Task.Gated.fresh (ht : t.Fresh) : t.Gated stack providers := by
  obtain ⟨scope, id, received, stage⟩ := t
  obtain ⟨rfl, rfl⟩ : stage = .arrived ∧ received = [] := ht
  exact ⟨rfl, fun _ => .inl rfl⟩

/-- A segment of a gated request leaves it gated: an answer it ends with, and a place
further down the stack, are given for a reason. -/
theorem Task.Gated.advance (ht : t.Gated stack providers) (hauth0 : providers wake.auth0)
    (h : t.advance stack s wake = some (s', t')) : t'.Gated stack providers := by
  obtain ⟨state, hdrains, hproceed⟩ := Task.drains h
  have hjustified := hdrains.justified ht.stage
  have hscope := hdrains.scope_eq
  have hs : s' = (stack.proceed s t.scope wake.auth0 wake.now state).1 := by rw [hproceed]
  have hstage : t'.stage = (stack.proceed s t.scope wake.auth0 wake.now state).2 := by
    rw [hproceed]
  refine ⟨?_, ?_⟩
  · rw [hstage, ← hscope]
    cases state with
    | passed =>
        exact (stack.authenticate_admits s t'.scope none wake.auth0 wake.now).stage_gated hauth0
          fun hgraphql => absurd hgraphql hjustified
    | receiving body => exact hjustified
    | disconnected body => trivial
    | rejected body => exact hjustified
    | called replay =>
        exact (stack.authenticate_admits s t'.scope (some replay.payload) wake.auth0
          wake.now).stage_gated hauth0 fun _ => ⟨replay.payload, rfl, hjustified⟩
  · cases hdrains with
    | entered => exact fun hhttp => .inr ⟨_, if_pos hhttp⟩
    | received =>
        exact fun hhttp => .inr ((ht.correlated hhttp).resolve_left fun harrived => nomatch harrived)

/-- Every request, in every interleaving. -/
theorem Reachable.forall_gated {start : Rat} {S : Cooperative.System Limits Task}
    (h : Reachable stack providers start S) (ht : t ∈ S.tasks) : t.Gated stack providers :=
  Cooperative.Reachable.forall_task (fun _ ht => .fresh ht)
    (fun _ _ _ _ ⟨_, hauth0, _, hadvance⟩ ht => ht.advance hauth0 hadvance) h t ht

/-! ## What the limiter refuses -/

/-- A request that the limiter refuses, with the budget it found used up. -/
def RefusedFull (stack : Stack) (providers : Auth.Auth0 → Prop) (s : Limits) (scope : Scope) :
    Prop :=
  ∃ auth0 principal now budget, providers auth0 ∧ s.now ≤ now ∧
    Auth.Authenticates auth0 scope.request principal ∧
    stack.limiter.Charges scope (some principal) budget ∧ stack.limiter.Full s now budget

/-- A segment that ends at the limiter has found a budget used up. -/
theorem Segment.refusedFull {retryAfter : Int} (h : Segment stack providers s t s' t')
    (hrefused : t'.stage = .refused (.limited retryAfter)) :
    RefusedFull stack providers s t.scope := by
  obtain ⟨wake, hauth0, hnow, hadvance⟩ := h
  obtain ⟨state, hdrains, hproceed⟩ := Task.drains hadvance
  rw [hrefused] at hproceed
  have hadmits : ∀ body, stack.authenticate s t.scope body wake.auth0 wake.now =
      (s', .refused (.limited retryAfter)) → RefusedFull stack providers s t.scope := by
    intro body hauthenticate
    have hadmits := stack.authenticate_admits s t.scope body wake.auth0 wake.now
    rw [hauthenticate] at hadmits
    cases hadmits with
    | limited hrbac hcounts hallowed =>
        obtain ⟨p, rfl, hauthenticates⟩ :=
          authenticates_of_forwarded (guarded_of_counts hcounts) hrbac
        obtain ⟨budget, hcharges, hfull⟩ := RateLimiter.exists_full_of_refused hallowed
        exact ⟨wake.auth0, p, wake.now, budget, hauth0, hnow, hauthenticates, hcharges, hfull⟩
  cases state with
  | passed => exact hadmits _ hproceed
  | receiving body => exact Stage.noConfusion (congrArg Prod.snd hproceed)
  | disconnected body => exact Stage.noConfusion (congrArg Prod.snd hproceed)
  | rejected body =>
      exact Refusal.noConfusion (Stage.refused.inj (congrArg Prod.snd hproceed))
  | called replay => exact hadmits _ hproceed

/-! ## How many there are -/

/-- When a delivered request was counted against a budget. -/
def Task.readings (stack : Stack) (budget : Budget) (t : Task) : List Rat :=
  match t.stage with
  | .delivered d => d.checked.toList.filter fun _ =>
      stack.limiter.Charges t.scope d.principal budget
  | _ => []

/-- The delivered requests of a budget, in some order, and its queue. -/
def InBudget (stack : Stack) (budget : Budget) (s : Limits) (readings : Multiset Rat) : Prop :=
  ∃ admitted : List Rat, ↑admitted = readings ∧
    Bounded stack.limiter.limits.cutoff (budget.limit stack.limiter.limits) admitted
      (s.queue budget) s.now

theorem Admits.inBudget {budget : Budget} {scope : Scope} {body : Option (List UInt8)}
    {auth0 : Auth.Auth0} {now : Rat} {stage : Stage} {others : Multiset Rat} (hnow : s.now ≤ now)
    (h : Admits stack s scope body auth0 now s' stage) (hs : InBudget stack budget s others)
    (id : Option CorrelationId) (received : List Message) :
    InBudget stack budget s'
      (↑(Task.readings stack budget ⟨scope, id, received, stage⟩) + others) := by
  have hmonotone := stack.limiter.limits.monotone_cutoff
  obtain ⟨admitted, hadmitted, hbounded⟩ := hs
  cases h with
  | unauthenticated hrbac => exact ⟨admitted, by simp [Task.readings, hadmitted], hbounded⟩
  | failed hrbac => exact ⟨admitted, by simp [Task.readings, hadmitted], hbounded⟩
  | uncounted hrbac hcounts => exact ⟨admitted, by simp [Task.readings, hadmitted], hbounded⟩
  | @limited principal hrbac hcounts hallowed =>
      obtain ⟨recorded, hcheck, -⟩ := stack.limiter.allow_check s scope principal now budget
      refine ⟨admitted, by simp [Task.readings, hadmitted], ?_⟩
      rw [RateLimiter.allow_now]
      exact hbounded.keep hmonotone hnow hcheck
  | @counted principal hrbac hcounts hallowed =>
      obtain ⟨recorded, hcheck, hrecorded⟩ :=
        stack.limiter.allow_check s scope principal now budget
      by_cases hcharges : stack.limiter.Charges scope principal budget
      · rw [hrecorded hallowed hcharges] at hcheck
        refine ⟨admitted ++ [now], ?_, ?_⟩
        · rw [← hadmitted, Multiset.coe_add]
          simp [Task.readings, hcharges]
        · rw [RateLimiter.allow_now]
          exact hbounded.record hmonotone hnow hcheck
      · refine ⟨admitted, by simp [Task.readings, hcharges, hadmitted], ?_⟩
        rw [RateLimiter.allow_now]
        exact hbounded.keep hmonotone hnow hcheck

/-- A segment of a request keeps the account of a budget, whatever the other requests have
used of it. -/
theorem Segment.inBudget {budget : Budget} {others : Multiset Rat}
    (h : Segment stack providers s t s' t')
    (hs : InBudget stack budget s (↑(t.readings stack budget) + others)) :
    InBudget stack budget s' (↑(t'.readings stack budget) + others) := by
  obtain ⟨wake, -, hnow, hadvance⟩ := h
  obtain ⟨state, hdrains, hproceed⟩ := Task.drains hadvance
  have hidle : t.readings stack budget = [] := by
    cases hdrains with
    | entered => rfl
    | received => rfl
  rw [hidle, Multiset.coe_nil, zero_add] at hs
  have hscope := hdrains.scope_eq
  have hadmits : ∀ body, stack.authenticate s t.scope body wake.auth0 wake.now = (s', t'.stage) →
      InBudget stack budget s' (↑(t'.readings stack budget) + others) := by
    intro body hauthenticate
    have hadmits := stack.authenticate_admits s t.scope body wake.auth0 wake.now
    rw [hauthenticate] at hadmits
    have := hadmits.inBudget hnow hs t'.correlationId t'.received
    rwa [← hscope] at this
  have hstays : ∀ stage, (s, stage) = (s', t'.stage) → (∀ d, stage ≠ .delivered d) →
      InBudget stack budget s' (↑(t'.readings stack budget) + others) := by
    intro stage hstays hundelivered
    obtain ⟨rfl, hstage⟩ := Prod.mk.inj hstays
    have hnone : t'.readings stack budget = [] := by
      unfold Task.readings
      rw [← hstage]
      cases stage with
      | delivered d => exact absurd rfl (hundelivered d)
      | arrived => rfl
      | draining body => rfl
      | closed => rfl
      | refused refusal => rfl
    rwa [hnone, Multiset.coe_nil, zero_add]
  cases state with
  | passed => exact hadmits _ hproceed
  | receiving body => exact hstays _ hproceed fun _ => Stage.noConfusion
  | disconnected body => exact hstays _ hproceed fun _ => Stage.noConfusion
  | rejected body => exact hstays _ hproceed fun _ => Stage.noConfusion
  | called replay => exact hadmits _ hproceed

/-- **The gate of the SQL API**: in every interleaving, whatever the clients send
and the identity provider says, each request is where it is for a reason: what a
route is called with is sound, what is refused is refused as it should be, by the
limiter only where a budget is used up; and no window has more delivered requests
of a budget than it is for. -/
theorem gated {start : Rat} {S : Cooperative.System Limits Task}
    (h : Reachable stack providers start S) :
    (∀ t ∈ S.tasks, t.Gated stack providers ∧
      ∀ s' t' retryAfter, Segment stack providers S.shared t s' t' →
        t'.stage = .refused (.limited retryAfter) →
        RefusedFull stack providers S.shared t.scope) ∧
      ∀ budget : Budget, 0 ≤ budget.limit stack.limiter.limits →
        WindowBound stack.limiter.limits.windowSeconds (budget.limit stack.limiter.limits)
          (S.tasks.flatMap (Task.readings stack budget)) := by
  constructor
  · exact fun t ht => ⟨Reachable.forall_gated h ht,
      fun s' t' retryAfter hsegment hrefused => hsegment.refusedFull hrefused⟩
  · intro budget hlimit
    have hbudget : InBudget stack budget S.shared
        (S.total fun t => (↑(t.readings stack budget) : Multiset Rat)) := by
      refine Cooperative.Reachable.accounting _ (InBudget stack budget)
        ⟨[], rfl, ?_⟩ (fun t ht => ?_) (fun s t s' t' others hsegment => hsegment.inBudget) h
      · cases budget with
        | layered dimension key => exact .nil hlimit
        | legacy key => exact .nil hlimit
      · simp [Task.readings, ht.1]
    obtain ⟨admitted, hadmitted, hbounded⟩ := hbudget
    have hperm : admitted.Perm (S.tasks.flatMap (Task.readings stack budget)) := by
      rw [← Multiset.coe_eq_coe, hadmitted, Cooperative.System.total, List.flatMap]
      induction S.tasks with
      | nil => rfl
      | cons t tasks ih =>
          rw [List.map_cons, List.sum_cons, ih, List.map_cons, List.flatten_cons, Multiset.coe_add]
    refine RateLimit.windowBound_of_spans fun p hp => ?_
    rw [← (hperm.filter p).length_eq]
    exact hbounded.bounded p hp

/-! ## Requests on their own -/

/-- A request can be counted for the principal. -/
def Scope.CountedFor (providers : Auth.Auth0 → Prop) (scope : Scope)
    (principal : Option Principal) : Prop :=
  RateLimiter.counts scope = true ∧ ∃ auth0, providers auth0 ∧
    Auth.rbacMiddleware auth0 scope.request = .forwarded principal

/-- No two requests, one of these and one of the others, count against the same
budget. -/
def Apart (stack : Stack) (providers : Auth.Auth0 → Prop) (mine : Scope → Bool) : Prop :=
  ∀ scope scope' principal principal' budget, mine scope = true → mine scope' = false →
    scope.CountedFor providers principal → scope'.CountedFor providers principal' →
      stack.limiter.Charges scope principal budget →
        ¬ stack.limiter.Charges scope' principal' budget

/-- The queues that count for these requests are the same. -/
structure SameFor (stack : Stack) (providers : Auth.Auth0 → Prop) (mine : Scope → Bool)
    (s s₁ : Limits) : Prop where
  queue : ∀ scope principal budget, mine scope = true → scope.CountedFor providers principal →
    stack.limiter.Charges scope principal budget → s.queue budget = s₁.queue budget
  now : s₁.now ≤ s.now

variable {mine : Scope → Bool} {s₁ : Limits}

/-- Another request is let through, or not. -/
theorem Admits.other (hapart : Apart stack providers mine) {scope : Scope}
    (hother : mine scope = false) {body : Option (List UInt8)} {auth0 : Auth.Auth0}
    (hauth0 : providers auth0) {now : Rat} (hnow : s.now ≤ now) {stage : Stage}
    (hsame : SameFor stack providers mine s s₁) (h : Admits stack s scope body auth0 now s' stage) :
    SameFor stack providers mine s' s₁ := by
  have hallow : ∀ {principal : Option Principal},
      Auth.rbacMiddleware auth0 scope.request = .forwarded principal →
        RateLimiter.counts scope = true →
        SameFor stack providers mine (stack.limiter.allow s scope principal now).2 s₁ := by
    intro principal hrbac hcounts
    refine ⟨fun scope' principal' budget hmine hcounted hcharges => ?_, ?_⟩
    · rw [RateLimiter.allow_of_not_charges (hapart scope' scope principal' principal budget hmine
        hother hcounted ⟨hcounts, auth0, hauth0, hrbac⟩ hcharges)]
      exact hsame.queue scope' principal' budget hmine hcounted hcharges
    · rw [RateLimiter.allow_now]
      exact hsame.now.trans hnow
  cases h with
  | unauthenticated hrbac => exact hsame
  | failed hrbac => exact hsame
  | uncounted hrbac hcounts => exact hsame
  | limited hrbac hcounts hallowed => exact hallow hrbac hcounts
  | counted hrbac hcounts hallowed => exact hallow hrbac hcounts

/-- One of these requests does the same with the queues that count for it. -/
theorem SameFor.authenticate (hsame : SameFor stack providers mine s s₁) {scope : Scope}
    (hmine : mine scope = true) (body : Option (List UInt8)) {auth0 : Auth.Auth0}
    (hauth0 : providers auth0) (now : Rat) :
    (stack.authenticate s scope body auth0 now).2 = (stack.authenticate s₁ scope body auth0 now).2 ∧
      SameFor stack providers mine (stack.authenticate s scope body auth0 now).1
        (stack.authenticate s₁ scope body auth0 now).1 := by
  unfold Stack.authenticate
  cases hrbac : Auth.rbacMiddleware auth0 scope.request with
  | unauthorized reason => exact ⟨rfl, hsame⟩
  | raised => exact ⟨rfl, hsame⟩
  | forwarded principal =>
      dsimp only
      unfold Stack.limit
      cases hcounts : RateLimiter.counts scope with
      | false => exact ⟨rfl, hsame⟩
      | true =>
          have hcounted : scope.CountedFor providers principal := ⟨hcounts, auth0, hauth0, hrbac⟩
          obtain ⟨hallowed, hqueues⟩ := @RateLimiter.allow_congr stack.limiter s s₁ scope principal
            now fun budget hcharges => hsame.queue scope principal budget hmine hcounted hcharges
          have hafter : SameFor stack providers mine (stack.limiter.allow s scope principal now).2
              (stack.limiter.allow s₁ scope principal now).2 := by
            refine ⟨fun scope' principal' budget hmine' hcounted' hcharges' => ?_, ?_⟩
            · by_cases hcharges : stack.limiter.Charges scope principal budget
              · exact hqueues budget hcharges
              · rw [RateLimiter.allow_of_not_charges hcharges,
                  RateLimiter.allow_of_not_charges hcharges]
                exact hsame.queue scope' principal' budget hmine' hcounted' hcharges'
            · rw [RateLimiter.allow_now, RateLimiter.allow_now]
          rw [if_pos rfl, if_pos rfl]
          generalize stack.limiter.allow s scope principal now = result at hallowed hafter
          generalize stack.limiter.allow s₁ scope principal now = result₁ at hallowed hafter
          obtain ⟨allowed, after⟩ := result
          obtain ⟨allowed₁, after₁⟩ := result₁
          obtain rfl : allowed = allowed₁ := hallowed
          cases allowed with
          | true => exact ⟨rfl, hafter⟩
          | false => exact ⟨rfl, hafter⟩

theorem SameFor.proceed (hsame : SameFor stack providers mine s s₁) {scope : Scope}
    (hmine : mine scope = true) {auth0 : Auth.Auth0} (hauth0 : providers auth0) (now : Rat)
    (state : Middleware.State) :
    (stack.proceed s scope auth0 now state).2 = (stack.proceed s₁ scope auth0 now state).2 ∧
      SameFor stack providers mine (stack.proceed s scope auth0 now state).1
        (stack.proceed s₁ scope auth0 now state).1 := by
  cases state with
  | passed => exact hsame.authenticate hmine none hauth0 now
  | receiving body => exact ⟨rfl, hsame⟩
  | disconnected body => exact ⟨rfl, hsame⟩
  | rejected body => exact ⟨rfl, hsame⟩
  | called replay => exact hsame.authenticate hmine (some replay.payload) hauth0 now

/-- What a segment of another request leaves alone. -/
theorem Segment.other (hapart : Apart stack providers mine) (hother : mine t.scope = false)
    (h : Segment stack providers s t s' t') (hsame : SameFor stack providers mine s s₁) :
    SameFor stack providers mine s' s₁ := by
  obtain ⟨wake, hauth0, hnow, hadvance⟩ := h
  obtain ⟨state, hdrains, hproceed⟩ := Task.drains hadvance
  have hs : s' = (stack.proceed s t.scope wake.auth0 wake.now state).1 := by rw [hproceed]
  rw [hs]
  cases state with
  | passed =>
      exact (stack.authenticate_admits s t.scope none wake.auth0 wake.now).other hapart hother
        hauth0 hnow hsame
  | receiving body => exact hsame
  | disconnected body => exact hsame
  | rejected body => exact hsame
  | called replay =>
      exact (stack.authenticate_admits s t.scope (some replay.payload) wake.auth0 wake.now).other
        hapart hother hauth0 hnow hsame

/-- A segment of a request in question runs alike over limits that agree on what such
requests count against. -/
theorem Segment.own (hmine : mine t.scope = true) (h : Segment stack providers s t s' t')
    (hsame : SameFor stack providers mine s s₁) :
    ∃ s₁', Segment stack providers s₁ t s₁' t' ∧ SameFor stack providers mine s' s₁' := by
  obtain ⟨wake, hauth0, hnow, hadvance⟩ := h
  obtain ⟨scope, id, received, stage⟩ := t
  obtain ⟨event, auth0, now⟩ := wake
  cases stage with
  | arrived =>
      cases event with
      | inl uuid4 =>
          obtain ⟨hstage, hafter⟩ := hsame.proceed hmine hauth0 now
            (stack.body.start stack.int scope.raw)
          simp only [Task.advance, Option.some.injEq, Prod.mk.injEq] at hadvance
          obtain ⟨rfl, rfl⟩ := hadvance
          refine ⟨_, ⟨⟨.inl uuid4, auth0, now⟩, hauth0, hsame.now.trans hnow, ?_⟩, hafter⟩
          simp only [Task.advance, hstage]
      | inr message => contradiction
  | draining body =>
      cases event with
      | inl uuid4 => contradiction
      | inr message =>
          obtain ⟨hstage, hafter⟩ := hsame.proceed hmine hauth0 now
            (stack.body.step (.receiving body) message)
          simp only [Task.advance, Option.some.injEq, Prod.mk.injEq] at hadvance
          obtain ⟨rfl, rfl⟩ := hadvance
          refine ⟨_, ⟨⟨.inr message, auth0, now⟩, hauth0, hsame.now.trans hnow, ?_⟩, hafter⟩
          simp only [Task.advance, hstage]
  | closed => contradiction
  | refused refusal => contradiction
  | delivered d => contradiction

/-- **Requests that share no budget do not disturb each other**: without the
others, these requests could have stood exactly where they stand. -/
theorem undisturbed {start : Rat} {S : Cooperative.System Limits Task}
    (hapart : Apart stack providers mine) (h : Reachable stack providers start S) :
    ∃ s₁, Reachable stack providers start ⟨s₁, S.tasks.filter fun t => mine t.scope⟩ ∧
      SameFor stack providers mine S.shared s₁ := by
  have hprojection : Cooperative.Projection Task.Fresh (Segment stack providers) (fun _ => True)
      (fun t => mine t.scope) (SameFor stack providers mine) := by
    constructor
    · exact fun t _ => trivial
    · exact fun s t s' t' _ _ => trivial
    · intro s t s' t' ⟨wake, _, _, hadvance⟩ _
      obtain ⟨state, hdrains, -⟩ := Task.drains hadvance
      rw [hdrains.scope_eq]
    · exact fun s t s' t' s₁ hsegment _ hother hsame => hsegment.other hapart hother hsame
    · exact fun s t s' t' s₁ hsegment _ hmine hsame => hsegment.own hmine hsame
  exact Cooperative.Reachable.project hprojection ⟨fun _ _ _ _ _ _ => rfl, le_rfl⟩ h

end

/-! ## Two requests, one with a token -/

/-- The bytes of an ASCII text. -/
def asciiBytes (text : String) : List UInt8 := text.toList.map fun c => c.toNat.toUInt8

/-- An identity provider that has given out one token. -/
def titleProvider : Auth.Auth0 where
  domain := "example"
  audience := "api"
  verify token :=
    if token = "token" then .claims [("sub", .str "alice"), (Auth.tenantIdClaim, .str "acme")]
    else .invalid

def titleStack : Stack := ⟨⟨1024⟩, {}, fun _ => none⟩

/-- A request with the token, and with a header that claims another tenant. -/
def titleScope : Scope where
  path := "/graphql"
  urlPath := "/graphql"
  headers := [(asciiBytes "authorization", asciiBytes "Bearer token"),
    (asciiBytes "x-tenant-id", asciiBytes "other")]

/-- A request without a token. -/
def strangerScope : Scope where
  path := "/graphql"
  urlPath := "/graphql"
  headers := []

def titleId : CorrelationId := ⟨"request-1", by decide⟩

def titleMessage : Message := { type := "http.request", body := some [123, 125] }

/-- The body of the request comes in. -/
def titleWake : Wake := ⟨.inr titleMessage, titleProvider, 0⟩

/-- The request when it has arrived, before its body and after it. -/
def titleArrived : Task := { scope := titleScope }

def titleDrained : Task := ⟨titleScope, some titleId, [], .draining []⟩

def titleAfter : Limits × Task :=
  letI := Python.ascii
  (titleDrained.advance titleStack { now := 0 } titleWake).getD ({ now := 0 }, titleDrained)

/-- The request without a token. -/
def strangerArrived : Task := { scope := strangerScope }

def strangerDrained : Task := ⟨strangerScope, some titleId, [], .draining []⟩

def strangerAfter : Task :=
  ⟨strangerScope, some titleId, [titleMessage],
    .refused (.unauthenticated "missing_or_invalid_bearer_token")⟩

theorem reachable_title :
    letI := Python.ascii
    Reachable titleStack (· = titleProvider) 0 ⟨titleAfter.1, [strangerAfter, titleAfter.2]⟩ := by
  let _ := Python.ascii
  have hnow : (0 : Rat) ≤ 0 := le_rfl
  have harrived : Reachable titleStack (· = titleProvider) 0
      ⟨{ now := 0 }, [strangerArrived, titleArrived]⟩ :=
    (Relation.ReflTransGen.single (Cooperative.Step.arrive ⟨rfl, rfl⟩)).tail
      (Cooperative.Step.arrive ⟨rfl, rfl⟩)
  have hstranger : Segment titleStack (· = titleProvider) { now := 0 } strangerArrived { now := 0 }
      strangerDrained := ⟨⟨.inl titleId, titleProvider, 0⟩, rfl, hnow, rfl⟩
  have htitle : Segment titleStack (· = titleProvider) { now := 0 } titleArrived { now := 0 }
      titleDrained := ⟨⟨.inl titleId, titleProvider, 0⟩, rfl, hnow, rfl⟩
  have hentered := (harrived.tail (.run [] [titleArrived] hstranger)).tail
    (.run [strangerDrained] [] htitle)
  exact (hentered.tail (.run [] [titleDrained] ⟨titleWake, rfl, hnow, rfl⟩)).tail
    (.run [strangerAfter] [] ⟨titleWake, rfl, hnow, rfl⟩)

/-- The request is delivered for the principal of its token, and counted. -/
theorem gated_title : ∃ d, titleAfter.2.stage = .delivered d ∧
    d.principal.map (·.orgId) = some "acme" ∧ d.headers = [("authorization", "Bearer token")] ∧
    @Delivered.Sound Python.ascii titleStack (· = titleProvider) titleScope [titleMessage] d ∧
    WindowBound 60 200 (titleAfter.2.readings titleStack (.layered .tenant "acme")) := by
  obtain ⟨hgated, hbound⟩ := @gated Python.ascii titleStack (· = titleProvider) 0 _ reachable_title
  obtain ⟨⟨htitle, -⟩, -⟩ := hgated titleAfter.2 (by simp)
  have htenant := hbound (.layered .tenant "acme") (by decide)
  have hreadings : [strangerAfter, titleAfter.2].flatMap
      (Task.readings titleStack (.layered .tenant "acme")) =
        titleAfter.2.readings titleStack (.layered .tenant "acme") := List.append_nil _
  rw [hreadings] at htenant
  exact ⟨_, rfl, rfl, by decide +kernel, htitle, htenant⟩

/-- Requests that nobody authenticates count against nothing. -/
theorem not_countedFor [Python] {providers : Auth.Auth0 → Prop} {scope : Scope}
    (h : ∀ auth0, providers auth0 → ∀ principal,
      ¬ Auth.Authenticates auth0 scope.request principal) (principal : Option Principal) :
    ¬ scope.CountedFor providers principal := by
  rintro ⟨hcounts, auth0, hauth0, hrbac⟩
  obtain ⟨p, -, hauthenticates⟩ := authenticates_of_forwarded (guarded_of_counts hcounts) hrbac
  exact h auth0 hauth0 p hauthenticates

/-- Without the stranger, the request could have been delivered just so. -/
theorem undisturbed_title :
    letI := Python.ascii
    ∃ s₁, Reachable titleStack (· = titleProvider) 0 ⟨s₁, [titleAfter.2]⟩ := by
  let _ := Python.ascii
  have hapart : Apart titleStack (· = titleProvider) fun scope => scope.headers ≠ [] := by
    intro scope scope' principal principal' budget _ hother _ hcounted
    refine absurd hcounted (not_countedFor (fun auth0 _ p hauthenticates => ?_) principal')
    obtain ⟨token, claims, htoken, -⟩ := hauthenticates.validated
    have hheaders : scope'.headers = [] := by simpa using hother
    simp [Scope.request, Scope.decoded, hheaders, Auth.stripSpoofableHeaders,
      Auth.extractBearerToken] at htoken
  obtain ⟨s₁, hreached, -⟩ := undisturbed hapart reachable_title
  exact ⟨s₁, hreached⟩

end DbGateway.Api
