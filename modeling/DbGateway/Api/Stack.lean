import DbGateway.Auth
import DbGateway.Cooperative
import DbGateway.Middleware.BodySizeLimit
import DbGateway.RateLimit.Limiter

/-!
# DbGateway.Api.Stack

The middlewares of the SQL API around its routes, in the order `app_factory.py`
puts them: the correlation ID, the body limit, authentication, the rate limit.

A request waits for the messages of its body.  Once that is complete, it runs
through authentication and the rate limit without waiting: the token is
validated synchronously, and nobody is suspended with the limiter's lock.  What
the identity provider says of tokens, and the clock, are read at that moment.

Responses are given by what they say; the headers that are the same for all, and
timings, are left out, and so are metrics and logging.
-/

namespace DbGateway.Api

open Middleware (BodySizeLimitMiddleware Message)
open RateLimit (Dimension Keys Storage Deques RateLimitMiddleware)
open Sql (startsWith)

/-! ## Requests -/

/-- An ASGI scope.  `urlPath` is `request.url.path`, which Starlette reads off
the URL it makes of the path and the `Host` header. -/
structure Scope where
  type : String := "http"
  method : String := "POST"
  path : Option String
  urlPath : String
  headers : List (List UInt8 × List UInt8)
  client : Option String := none

/-- `bytes.decode("latin-1")` -/
def latin1 (bytes : List UInt8) : String := String.ofList (bytes.map fun b => Char.ofNat b.toNat)

/-- `request.headers` -/
def Scope.decoded (self : Scope) : Auth.Headers :=
  self.headers.map fun header => (latin1 header.1, latin1 header.2)

/-- The scope, as the body limit reads it. -/
def Scope.raw (self : Scope) : Middleware.Scope where
  type := self.type
  path := self.path
  headers := self.headers

/-- The scope, as authentication reads it. -/
def Scope.request (self : Scope) : Auth.Scope where
  type := self.type
  path := self.urlPath
  headers := self.decoded

/-- The headers a route sees. -/
def Scope.seen (self : Scope) : Auth.Headers :=
  if self.type ≠ "http" then self.decoded else Auth.stripSpoofableHeaders self.decoded

/-- `sanitize_correlation_id` -/
def sanitizeCorrelationId (value : Option String) : Option String :=
  value.filter fun id =>
    1 ≤ id.length && id.length ≤ 128 &&
      id.toList.all fun c => c.isAlphanum || c = '.' || c = '_' || c = '-'

/-- A text that is a correlation ID: every one that `uuid4` draws is. -/
structure CorrelationId where
  text : String
  safe : sanitizeCorrelationId (some text) = some text

theorem sanitizeCorrelationId_eq_some {value : Option String} {id : String}
    (h : sanitizeCorrelationId value = some id) : sanitizeCorrelationId (some id) = some id := by
  have hvalue : value = some id := (Option.filter_eq_some_iff.mp h).1
  rw [hvalue] at h
  exact h

/-- `correlation_id_middleware`, up to `call_next` -/
def Scope.correlationId (self : Scope) (uuid4 : CorrelationId) : CorrelationId :=
  match h : (sanitizeCorrelationId (self.decoded.lookup "x-correlation-id")).or
      (sanitizeCorrelationId (self.decoded.lookup "x-request-id")) with
  | some id =>
      { text := id
        safe := (Option.or_eq_some_iff.mp h).elim sanitizeCorrelationId_eq_some
          fun h => sanitizeCorrelationId_eq_some h.2 }
  | none => uuid4

/-! ## The rate limit -/

/-- `RateLimitMiddleware`, with what it takes for the address of a client. -/
structure RateLimiter where
  limits : RateLimitMiddleware := {}
  trustProxy : Bool := false

/-- The queues of both modes, and the last reading of the clock. -/
structure Limits where
  storage : Storage := fun _ _ => []
  legacy : Deques := fun _ => []
  now : Rat

/-- What a route is called with.  `checked` is when the request was counted. -/
structure Delivered where
  headers : Auth.Headers
  principal : Option Principal
  /-- The body to replay; `none` when the route reads it off the server. -/
  body : Option (List UInt8)
  checked : Option Rat

namespace RateLimiter

/-- `_get_client_ip` -/
def getClientIp (self : RateLimiter) (scope : Scope) : String :=
  match (if self.trustProxy then scope.seen.lookup "x-forwarded-for" else none).filter (· ≠ "") with
  | some forwardedFor => strip (String.ofList (forwardedFor.toList.takeWhile (· ≠ ',')))
  | none => scope.client.getD "unknown"

/-- `_get_rate_limit_keys` -/
def getRateLimitKeys (self : RateLimiter) (scope : Scope) (principal : Option Principal) :
    Keys where
  ip := some (self.getClientIp scope)
  principal := (principal.map (·.userId)).filter (· ≠ "")
  tenant := (principal.map (·.orgId)).filter (· ≠ "")
  -- `_extract_database_id`
  database := none

/-- `_get_rate_limit_key` -/
def getRateLimitKey (self : RateLimiter) (scope : Scope) (principal : Option Principal) :
    String :=
  match (principal.map (·.userId)).filter (· ≠ "") with
  | some userId => "user:" ++ userId
  | none => self.getClientIp scope

/-- The requests that are counted. -/
def counts (scope : Scope) : Bool :=
  scope.type = "http" && startsWith scope.urlPath "/graphql" && scope.method ≠ "OPTIONS"

/-- `_allow_request` or `_allow_legacy_request`, by the mode -/
def allow (self : RateLimiter) (s : Limits) (scope : Scope) (principal : Option Principal)
    (now : Rat) : Bool × Limits :=
  if self.limits.layeredMode then
    let (allowed, storage) := self.limits.decide s.storage
      { keys := self.getRateLimitKeys scope principal, now }
    (allowed, { s with storage, now })
  else
    let (allowed, legacy) := self.limits.allowLegacyRequest s.legacy
      (self.getRateLimitKey scope principal) now
    (allowed, { s with legacy, now })

end RateLimiter

/-! ## The stack -/

/-- The middlewares as they are constructed, and Python's `int` of bytes. -/
structure Stack where
  body : BodySizeLimitMiddleware
  limiter : RateLimiter
  int : List UInt8 → Option Int

/-- A response that no route gave. -/
inductive Refusal where
  | tooLarge
  | unauthenticated (reason : String)
  | limited (retryAfter : Int)
  /-- The correlation middleware's answer to an exception. -/
  | failed

/-- The status of a refusal. -/
def Refusal.status : Refusal → Nat
  | .tooLarge => Middleware.reject.status
  | .unauthenticated _ => 401
  | .limited _ => 429
  | .failed => 500

/-- `{"detail": …}` -/
def Refusal.detail : Refusal → Option String
  | .tooLarge => Middleware.reject.detail
  | .unauthenticated _ => "Authentication required."
  | .limited _ => "Rate limit exceeded. Please try again later."
  | .failed => none

/-- Where a request stands. -/
inductive Stage where
  | arrived
  | draining (body : List UInt8)
  /-- The client has gone away. -/
  | closed
  | refused (refusal : Refusal)
  | delivered (delivered : Delivered)

/-- A request, with the messages received of it. -/
structure Task where
  scope : Scope
  /-- Only what is of the type `http` gets one: the middleware runs for nothing else. -/
  correlationId : Option CorrelationId := none
  received : List Message := []
  stage : Stage := .arrived

/-- What a segment finds: the next message, or what `uuid4` gives when the
request is taken up; what the identity provider says of tokens; the clock. -/
structure Wake where
  event : CorrelationId ⊕ Message
  auth0 : Auth.Auth0
  now : Rat

/-- `RateLimitMiddleware.__call__` -/
def Stack.limit (stack : Stack) (s : Limits) (scope : Scope) (principal : Option Principal)
    (body : Option (List UInt8)) (now : Rat) : Limits × Stage :=
  if RateLimiter.counts scope then
    match stack.limiter.allow s scope principal now with
    | (true, s') => (s', .delivered ⟨scope.seen, principal, body, some now⟩)
    | (false, s') => (s', .refused (.limited stack.limiter.limits.windowSeconds))
  else (s, .delivered ⟨scope.seen, principal, body, none⟩)

variable [Python]

/-- `RBACMiddleware.__call__`, and what it calls -/
def Stack.authenticate (stack : Stack) (s : Limits) (scope : Scope) (body : Option (List UInt8))
    (auth0 : Auth.Auth0) (now : Rat) : Limits × Stage :=
  match Auth.rbacMiddleware auth0 scope.request with
  | .forwarded principal => stack.limit s scope principal body now
  | .unauthorized reason => (s, .refused (.unauthenticated reason))
  | .raised => (s, .refused .failed)

/-- Where the body limit is, and what it calls. -/
def Stack.proceed (stack : Stack) (s : Limits) (scope : Scope) (auth0 : Auth.Auth0) (now : Rat) :
    Middleware.State → Limits × Stage
  | .passed => stack.authenticate s scope none auth0 now
  | .receiving body => (s, .draining body)
  | .disconnected _ => (s, .closed)
  | .rejected _ => (s, .refused .tooLarge)
  | .called replay => stack.authenticate s scope (some replay.payload) auth0 now

/-- A request is taken to its next wait. -/
def Task.advance (stack : Stack) (s : Limits) (t : Task) (wake : Wake) :
    Option (Limits × Task) :=
  match t.stage, wake.event with
  | .arrived, .inl uuid4 =>
      let (s', stage) := stack.proceed s t.scope wake.auth0 wake.now
        (stack.body.start stack.int t.scope.raw)
      -- `app.middleware("http")` passes on what is of another type
      let correlationId :=
        if t.scope.type = "http" then some (t.scope.correlationId uuid4) else none
      some (s', { t with correlationId, stage })
  | .draining body, .inr message =>
      let (s', stage) := stack.proceed s t.scope wake.auth0 wake.now
        (stack.body.step (.receiving body) message)
      some (s', { t with received := t.received ++ [message], stage })
  | _, _ => none

/-- A request that has just arrived. -/
def Task.Fresh (t : Task) : Prop := t.stage = .arrived ∧ t.received = []

/-- A segment of a request: the identity provider is in one of the states it can
be in, and the clock does not go back. -/
def Segment (stack : Stack) (providers : Auth.Auth0 → Prop) (s : Limits) (t : Task) (s' : Limits)
    (t' : Task) : Prop :=
  ∃ wake, providers wake.auth0 ∧ s.now ≤ wake.now ∧ t.advance stack s wake = some (s', t')

/-- The API and its requests, since it was started. -/
abbrev Reachable (stack : Stack) (providers : Auth.Auth0 → Prop) (start : Rat)
    (S : Cooperative.System Limits Task) : Prop :=
  Cooperative.Reachable Task.Fresh (Segment stack providers) { now := start } S

end DbGateway.Api
