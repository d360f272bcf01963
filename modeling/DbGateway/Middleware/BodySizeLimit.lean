import DbGateway.Runs
import DbGateway.Sql.Cleaner

/-!
# DbGateway.Middleware.BodySizeLimit

`middlewares/body_size_limit_middleware.py`: the body of a GraphQL request is
drained up to a budget, and replayed to the application from memory.

How the client cuts the body into messages does not matter: the application is
called exactly with the bodies that fit, once they are complete
(`called_iff`), and the first message that goes beyond the budget is answered
with 413 (`rejected_iff`).
-/

namespace DbGateway.Middleware

open Sql (startsWith)

/-! ## Messages -/

/-- An ASGI scope. -/
structure Scope where
  type : String
  path : Option String := none
  headers : List (List UInt8 × List UInt8) := []

/-- A message of the receive channel.  A field that is absent reads as `None`. -/
structure Message where
  type : String
  body : Option (List UInt8) := none
  moreBody : Bool := false
deriving DecidableEq

/-- `message.get("body") or b""` -/
def Message.chunk (self : Message) : List UInt8 := self.body.getD []

/-- `replay_receive`: the drained body, and whether it was handed out. -/
structure Replay where
  payload : List UInt8
  sent : Bool := false
deriving DecidableEq

/-- A call of `replay_receive`. -/
def Replay.receive (self : Replay) : Message × Replay :=
  if !self.sent then
    ({ type := "http.request", body := some self.payload, moreBody := false },
      { self with sent := true })
  else ({ type := "http.disconnect" }, self)

/-! ## The middleware -/

/-- `BodySizeLimitMiddleware` -/
structure BodySizeLimitMiddleware where
  maxBytes : Int

/-- How far a call has come, with its buffer. -/
inductive State where
  /-- The application is called with the server's own channels. -/
  | passed
  /-- Waiting for the next message. -/
  | receiving (body : List UInt8)
  /-- The client is gone, and nothing was called. -/
  | disconnected (body : List UInt8)
  /-- 413 is sent. -/
  | rejected (body : List UInt8)
  /-- The application is called with `replay_receive`. -/
  | called (replay : Replay)
deriving DecidableEq

/-- A `JSONResponse` with nothing but a `detail`. -/
structure Reply where
  status : Nat
  detail : String
deriving DecidableEq

/-- `_reject` -/
def reject : Reply := ⟨413, "Request body exceeds the maximum allowed size."⟩

/-- What the middleware answers itself. -/
def State.reply : State → Option Reply
  | passed => none
  | receiving _ => none
  | disconnected _ => none
  | rejected _ => some reject
  | called _ => none

/-- The bytes held in memory. -/
def State.buffer : State → List UInt8
  | passed => []
  | receiving body => body
  | disconnected body => body
  | rejected body => body
  | called replay => replay.payload

theorem State.reply_isSome_iff {state : State} :
    state.reply.isSome = true ↔ ∃ body, state = .rejected body := by
  cases state <;> simp [State.reply]

/-- `bytes.lower`, a byte at a time -/
def lowerByte (b : UInt8) : UInt8 := if 65 ≤ b ∧ b ≤ 90 then b + 32 else b

/-- `b"content-length"` -/
def contentLengthName : List UInt8 := "content-length".toList.map fun c => c.toNat.toUInt8

/-- The header is `Content-Length`. -/
def isContentLength (header : List UInt8 × List UInt8) : Bool :=
  header.1.map lowerByte = contentLengthName

/-- `_content_length`; `int` is `None` where Python raises `ValueError`. -/
def contentLength (int : List UInt8 → Option Int) (scope : Scope) : Option Int :=
  (scope.headers.find? isContentLength).bind fun header => int header.2

namespace BodySizeLimitMiddleware

/-- `BodySizeLimitMiddleware(app, max_bytes)`; `environment` is
`GRAPHQL_MAX_BODY_BYTES`. -/
def ofArguments (maxBytes : Option Int) (environment : Int) : BodySizeLimitMiddleware :=
  match maxBytes with
  | some n => ⟨if n ≠ 0 then n else environment⟩
  | none => ⟨environment⟩

/-- `__call__`, up to its first `receive` -/
def start (self : BodySizeLimitMiddleware) (int : List UInt8 → Option Int) (scope : Scope) :
    State :=
  if scope.type ≠ "http" || !startsWith (scope.path.getD "") "/graphql" then .passed
  else
    match contentLength int scope with
    | some announced => if announced > self.maxBytes then .rejected [] else .receiving []
    | none => .receiving []

/-- A round of the loop, on the message received. -/
def step (self : BodySizeLimitMiddleware) : State → Message → State
  | .receiving body, message =>
      if message.type = "http.disconnect" then .disconnected body
      else if message.type ≠ "http.request" then .receiving body
      else if (body ++ message.chunk).length > self.maxBytes then
        .rejected (body ++ message.chunk)
      else if !message.moreBody then .called { payload := body ++ message.chunk }
      else .receiving (body ++ message.chunk)
  -- the loop is left, and nothing more is received
  | state, _ => state

/-- The call after some messages. -/
def after (self : BodySizeLimitMiddleware) (int : List UInt8 → Option Int) (scope : Scope)
    (run : List Message) : State :=
  Runs.after self.step (self.start int scope) run

end BodySizeLimitMiddleware

/-! ## The body of a request -/

/-- The body a client sends in some messages. -/
def bodyOf (run : List Message) : List UInt8 :=
  (run.filter fun message => message.type = "http.request").flatMap Message.chunk

/-- The client is there, and its body is not complete. -/
def Open (run : List Message) : Prop :=
  ∀ message ∈ run, message.type ≠ "http.disconnect" ∧
    (message.type = "http.request" → message.moreBody = true)

/-- The body becomes complete. -/
def Completes (run : List Message) (body : List UInt8) : Prop :=
  ∃ before last rest, run = before ++ last :: rest ∧ Open before ∧
    last.type = "http.request" ∧ last.moreBody = false ∧ body = bodyOf (before ++ [last])

/-- The client goes away first, after what is within the budget. -/
def Disconnects (budget : Int) (run : List Message) (body : List UInt8) : Prop :=
  ∃ before last rest, run = before ++ last :: rest ∧ Open before ∧
    last.type = "http.disconnect" ∧ (bodyOf before).length ≤ budget ∧ body = bodyOf before

/-- The running total goes beyond the budget with a message, the last in `body`. -/
def Exceeds (budget : Int) (run : List Message) (body : List UInt8) : Prop :=
  ∃ before last rest, run = before ++ last :: rest ∧ Open before ∧
    last.type = "http.request" ∧ (bodyOf before).length ≤ budget ∧
      body = bodyOf (before ++ [last]) ∧ budget < body.length

theorem bodyOf_concat (run : List Message) (message : Message) :
    bodyOf (run ++ [message]) =
      if message.type = "http.request" then bodyOf run ++ message.chunk else bodyOf run := by
  rw [bodyOf, List.filter_append, List.flatMap_append, ← bodyOf]
  by_cases h : message.type = "http.request"
  · simp [h]
  · simp [h]

theorem length_bodyOf_le (run : List Message) (message : Message) :
    (bodyOf run).length ≤ (bodyOf (run ++ [message])).length := by
  rw [bodyOf_concat]
  split
  · simp
  · exact Nat.le_refl _

theorem open_concat {run : List Message} {message : Message} :
    Open (run ++ [message]) ↔ Open run ∧ message.type ≠ "http.disconnect" ∧
      (message.type = "http.request" → message.moreBody = true) := by
  simp only [Open, List.forall_mem_append, List.forall_mem_singleton]

/-! ## Draining -/

namespace BodySizeLimitMiddleware

variable {self : BodySizeLimitMiddleware} {int : List UInt8 → Option Int} {scope : Scope}

theorem after_concat (run : List Message) (message : Message) :
    self.after int scope (run ++ [message]) = self.step (self.after int scope run) message :=
  Runs.after_concat _ _ _ _

/-- A GraphQL request that announces no length is drained. -/
theorem start_graphql (hhttp : scope.type = "http")
    (hpath : startsWith (scope.path.getD "") "/graphql" = true)
    (hlength : ∀ header ∈ scope.headers, isContentLength header = false) :
    self.start int scope = .receiving [] := by
  have hnone : contentLength int scope = none := by
    rw [contentLength, List.find?_eq_none.mpr fun header hmem => by simp [hlength header hmem]]
    rfl
  simp [start, hhttp, hpath, hnone]

/-- A call that is decided stays so. -/
theorem after_append_of_ne {run : List Message}
    (h : ∀ body, self.after int scope run ≠ .receiving body) (rest : List Message) :
    self.after int scope (run ++ rest) = self.after int scope run := by
  induction rest using List.reverseRecOn with
  | nil => rw [List.append_nil]
  | append_singleton rest message ih =>
      rw [← List.append_assoc, after_concat, ih]
      cases hstate : self.after int scope run with
      | receiving body => exact absurd hstate (h body)
      | passed => rfl
      | disconnected body => rfl
      | rejected body => rfl
      | called replay => rfl

/-- As long as the body is open and fits, it is in the buffer. -/
theorem after_of_open (hstart : self.start int scope = .receiving []) {run : List Message}
    (hopen : Open run) (hfits : (bodyOf run).length ≤ self.maxBytes) :
    self.after int scope run = .receiving (bodyOf run) := by
  induction run using List.reverseRecOn with
  | nil => exact hstart
  | append_singleton run message ih =>
      obtain ⟨hrun, hconnected, hmore⟩ := open_concat.mp hopen
      have hbefore : (bodyOf run).length ≤ self.maxBytes := by
        have := length_bodyOf_le run message
        omega
      rw [after_concat, ih hrun hbefore, step, if_neg hconnected]
      rw [bodyOf_concat] at hfits ⊢
      by_cases hrequest : message.type = "http.request"
      · rw [if_pos hrequest] at hfits ⊢
        rw [if_neg (by simp [hrequest]), if_neg (by omega), hmore hrequest]
        rfl
      · rw [if_neg hrequest]
        simp [hrequest]

/-- What the state of a call says about the messages so far. -/
def Describes (self : BodySizeLimitMiddleware) (run : List Message) : State → Prop
  | .passed => False
  | .receiving body => Open run ∧ body = bodyOf run ∧ body.length ≤ self.maxBytes
  | .disconnected body => Disconnects self.maxBytes run body
  | .rejected body => Exceeds self.maxBytes run body
  | .called replay =>
      Completes run replay.payload ∧ replay.payload.length ≤ self.maxBytes ∧ replay.sent = false

/-- What has been decided remains true of a longer run. -/
theorem Describes.concat {run : List Message} {state : State} (h : self.Describes run state)
    (hstate : ∀ body, state ≠ .receiving body) (message : Message) :
    self.Describes (run ++ [message]) state := by
  have hsplit : ∀ {before rest : List Message} {last : Message}, run = before ++ last :: rest →
      run ++ [message] = before ++ last :: (rest ++ [message]) := by
    intro before rest last hrun
    rw [hrun, List.append_assoc, List.cons_append]
  cases state with
  | passed => exact h
  | receiving body => exact absurd rfl (hstate body)
  | disconnected body =>
      obtain ⟨before, last, rest, hrun, hrest⟩ := h
      exact ⟨before, last, rest ++ [message], hsplit hrun, hrest⟩
  | rejected body =>
      obtain ⟨before, last, rest, hrun, hrest⟩ := h
      exact ⟨before, last, rest ++ [message], hsplit hrun, hrest⟩
  | called replay =>
      obtain ⟨⟨before, last, rest, hrun, hrest⟩, hfits⟩ := h
      exact ⟨⟨before, last, rest ++ [message], hsplit hrun, hrest⟩, hfits⟩

/-- A round of the loop leaves a state that describes the messages so far. -/
theorem Describes.step {run : List Message} {state : State} (h : self.Describes run state)
    (message : Message) : self.Describes (run ++ [message]) (self.step state message) := by
  cases state with
  | receiving body =>
      obtain ⟨hopen, rfl, hfits⟩ := h
      rw [BodySizeLimitMiddleware.step]
      by_cases hdisconnect : message.type = "http.disconnect"
      · rw [if_pos hdisconnect]
        exact ⟨run, message, [], rfl, hopen, hdisconnect, hfits, rfl⟩
      · rw [if_neg hdisconnect]
        have hbody := bodyOf_concat run message
        by_cases hrequest : message.type = "http.request"
        · rw [if_pos hrequest] at hbody
          rw [if_neg (by simp [hrequest]), ← hbody]
          by_cases hexceeds : ((bodyOf (run ++ [message])).length : Int) > self.maxBytes
          · rw [if_pos hexceeds]
            exact ⟨run, message, [], rfl, hopen, hrequest, hfits, rfl, hexceeds⟩
          · rw [if_neg hexceeds]
            cases hmore : message.moreBody with
            | false =>
                exact ⟨⟨run, message, [], rfl, hopen, hrequest, hmore, rfl⟩,
                  Int.not_lt.mp hexceeds, rfl⟩
            | true =>
                exact ⟨open_concat.mpr ⟨hopen, hdisconnect, fun _ => hmore⟩, rfl, by omega⟩
        · rw [if_neg hrequest] at hbody
          rw [if_pos hrequest]
          refine ⟨open_concat.mpr ⟨hopen, hdisconnect, fun h => absurd h hrequest⟩, hbody.symm,
            hfits⟩
  | passed => exact h.concat (fun _ => State.noConfusion) message
  | disconnected body => exact h.concat (fun _ => State.noConfusion) message
  | rejected body => exact h.concat (fun _ => State.noConfusion) message
  | called replay => exact h.concat (fun _ => State.noConfusion) message

/-- After any messages the state describes them. -/
theorem describes_after (hstart : self.start int scope = .receiving [])
    (hbudget : 1 ≤ self.maxBytes) (run : List Message) :
    self.Describes run (self.after int scope run) := by
  refine Runs.invariant (I := self.Describes) ?_ (fun run message h => h.step message) run
  rw [hstart]
  refine ⟨fun message hmem => absurd hmem List.not_mem_nil, rfl, ?_⟩
  rw [List.length_nil]
  omega

/-- **When the application is called**: exactly when the body becomes complete
within the budget, with the whole body to replay. -/
theorem called_iff (hstart : self.start int scope = .receiving []) (hbudget : 1 ≤ self.maxBytes)
    {run : List Message} {replay : Replay} :
    self.after int scope run = .called replay ↔
      Completes run replay.payload ∧ replay.payload.length ≤ self.maxBytes ∧
        replay.sent = false := by
  constructor
  · intro h
    have hdescribes := describes_after hstart hbudget run
    rwa [h] at hdescribes
  · intro ⟨⟨before, last, rest, hrun, hopen, hrequest, hmore, hbody⟩, hfits, hsent⟩
    obtain ⟨payload, sent⟩ := replay
    simp only at hbody hfits hsent
    subst hbody hsent hrun
    have hbefore := length_bodyOf_le before last
    have hlast : self.after int scope (before ++ [last]) =
        .called { payload := bodyOf (before ++ [last]) } := by
      rw [after_concat, after_of_open hstart hopen (by omega), step, if_neg (by simp [hrequest]),
        if_neg (by simp [hrequest])]
      rw [bodyOf_concat, if_pos hrequest] at hfits ⊢
      rw [if_neg (by omega), hmore]
      rfl
    rw [← List.singleton_append, ← List.append_assoc, after_append_of_ne (by simp [hlast]), hlast]

/-- **When 413 is sent**: exactly from the first message on with which the
running total exceeds the budget. -/
theorem rejected_iff (hstart : self.start int scope = .receiving []) (hbudget : 1 ≤ self.maxBytes)
    {run : List Message} {body : List UInt8} :
    self.after int scope run = .rejected body ↔ Exceeds self.maxBytes run body := by
  constructor
  · intro h
    have hdescribes := describes_after hstart hbudget run
    rwa [h] at hdescribes
  · intro ⟨before, last, rest, hrun, hopen, hrequest, hfits, hbody, hexceeds⟩
    subst hbody hrun
    have hlast : self.after int scope (before ++ [last]) =
        .rejected (bodyOf (before ++ [last])) := by
      rw [after_concat, after_of_open hstart hopen hfits, step, if_neg (by simp [hrequest]),
        if_neg (by simp [hrequest])]
      rw [bodyOf_concat, if_pos hrequest] at hexceeds ⊢
      rw [if_pos hexceeds]
    rw [← List.singleton_append, ← List.append_assoc, after_append_of_ne (by simp [hlast]), hlast]

/-- The middleware answers nothing but the 413, and to nothing else. -/
theorem reply_isSome_iff (hstart : self.start int scope = .receiving [])
    (hbudget : 1 ≤ self.maxBytes) {run : List Message} :
    (self.after int scope run).reply.isSome = true ↔ ∃ body, Exceeds self.maxBytes run body := by
  simp only [State.reply_isSome_iff, rejected_iff hstart hbudget]

theorem disconnected_iff (hstart : self.start int scope = .receiving [])
    (hbudget : 1 ≤ self.maxBytes) {run : List Message} {body : List UInt8} :
    self.after int scope run = .disconnected body ↔ Disconnects self.maxBytes run body := by
  constructor
  · intro h
    have hdescribes := describes_after hstart hbudget run
    rwa [h] at hdescribes
  · intro ⟨before, last, rest, hrun, hopen, hdisconnect, hfits, hbody⟩
    subst hbody hrun
    have hlast : self.after int scope (before ++ [last]) = .disconnected (bodyOf before) := by
      rw [after_concat, after_of_open hstart hopen hfits, step, if_pos hdisconnect]
    rw [← List.singleton_append, ← List.append_assoc, after_append_of_ne (by simp [hlast]), hlast]

/-- The buffer holds the budget and one message at most. -/
theorem length_buffer_le (hstart : self.start int scope = .receiving [])
    (hbudget : 1 ≤ self.maxBytes) (run : List Message) :
    ((self.after int scope run).buffer.length : Int) ≤ self.maxBytes ∨
      ∃ message ∈ run, ((self.after int scope run).buffer.length : Int) ≤
        self.maxBytes + message.chunk.length := by
  have hdescribes := describes_after hstart hbudget run
  cases hstate : self.after int scope run with
  | passed =>
      rw [hstate] at hdescribes
      exact absurd hdescribes id
  | receiving body =>
      rw [hstate] at hdescribes
      exact .inl hdescribes.2.2
  | disconnected body =>
      rw [hstate] at hdescribes
      obtain ⟨before, last, rest, -, -, -, hfits, rfl⟩ := hdescribes
      exact .inl hfits
  | rejected body =>
      rw [hstate] at hdescribes
      obtain ⟨before, last, rest, rfl, -, hrequest, hfits, rfl, -⟩ := hdescribes
      refine .inr ⟨last, by simp, ?_⟩
      rw [State.buffer, bodyOf_concat, if_pos hrequest, List.length_append]
      omega
  | called replay =>
      rw [hstate] at hdescribes
      exact .inl hdescribes.2.1

/-- **Body limiting does not depend on the chunking**: of a GraphQL request
without `Content-Length`, the application is called exactly when the body
becomes complete within the budget, and is handed all of it at once; 413 is sent
with the first message beyond the budget; nothing is called for a client that
goes away; and the buffer never holds more than the budget and one message. -/
theorem drains_graphql (self : BodySizeLimitMiddleware) (int : List UInt8 → Option Int)
    (scope : Scope) (hbudget : 1 ≤ self.maxBytes) (hhttp : scope.type = "http")
    (hpath : startsWith (scope.path.getD "") "/graphql" = true)
    (hlength : ∀ header ∈ scope.headers, isContentLength header = false) (run : List Message) :
    (∀ replay, self.after int scope run = .called replay ↔
        Completes run replay.payload ∧ replay.payload.length ≤ self.maxBytes ∧
          replay.receive.1 =
            { type := "http.request", body := some replay.payload, moreBody := false }) ∧
      self.after int scope run ≠ .passed ∧
      (∀ body, self.after int scope run = .rejected body ↔ Exceeds self.maxBytes run body) ∧
      (∀ body, self.after int scope run = .disconnected body ↔
        Disconnects self.maxBytes run body) ∧
      (((self.after int scope run).buffer.length : Int) ≤ self.maxBytes ∨
        ∃ message ∈ run, ((self.after int scope run).buffer.length : Int) ≤
          self.maxBytes + message.chunk.length) := by
  have hstart : self.start int scope = .receiving [] := start_graphql hhttp hpath hlength
  have hfirst : ∀ replay : Replay, replay.sent = false ↔ replay.receive.1 =
      { type := "http.request", body := some replay.payload, moreBody := false } := by
    intro ⟨payload, sent⟩
    cases sent <;> simp [Replay.receive]
  refine ⟨fun replay => ?_, fun h => ?_, fun _ => rejected_iff hstart hbudget,
    fun _ => disconnected_iff hstart hbudget, length_buffer_le hstart hbudget run⟩
  · rw [called_iff hstart hbudget, hfirst]
  · have hdescribes := describes_after hstart hbudget run
    rwa [h] at hdescribes

/-- A body in two pieces. -/
theorem drains_graphql_two_pieces :
    (⟨4⟩ : BodySizeLimitMiddleware).after (fun _ => none) { type := "http", path := "/graphql" }
        [{ type := "http.request", body := some [1, 2], moreBody := true },
          { type := "http.request", body := some [3] }] = .called { payload := [1, 2, 3] } :=
  ((drains_graphql ⟨4⟩ (fun _ => none) { type := "http", path := "/graphql" } (by decide) rfl
    (by decide) (by decide) _).1 _).mpr
      ⟨⟨[{ type := "http.request", body := some [1, 2], moreBody := true }], _, [], rfl,
        by unfold Open; decide, rfl, rfl, rfl⟩, by decide, rfl⟩

end BodySizeLimitMiddleware

end DbGateway.Middleware
