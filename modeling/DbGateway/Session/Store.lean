import DbGateway.Json.Roundtrip
import DbGateway.Lease
import Mathlib.Algebra.Order.Ring.Unbundled.Rat

/-!
# DbGateway.Session.Store

`auth/session_store.py`: sessions in a dictionary of the process, or in Redis.

The two differ in everything but what they do.  Redis holds the text of a
session under its own deadline and the reader checks `expires_at` again; the
dictionary holds the session itself and forgets it when an expired one is asked
for.  In every run both read as the map of leases does (`backends_agree`): a
session from its creation until it is revoked or its time is up, and never
after that.
-/

namespace DbGateway.Session

open Json (PythonFloat)

/-! ## Sessions -/

/-- `secrets.token_urlsafe(32)` -/
structure Token where
  text : String
  text_ne : text ≠ ""

section

variable [Python] [PythonFloat]

/-- `time.time()` -/
abbrev Time := {q : Rat // PythonFloat.isFloat q}

/-- A `user` that is a JSON object. -/
structure User where
  fields : Dict Json
  proper : Json.Proper (.obj fields)

/-- The `payload` of a session. -/
structure Payload where
  user : User
  accessToken : String
  csrfToken : Token
  expiresAt : Time

/-- The payload as the dictionary it is. -/
def Payload.dict (self : Payload) : Dict Json :=
  [("user", .obj self.user.fields), ("access_token", .str self.accessToken),
    ("csrf_token", .str self.csrfToken.text), ("expires_at", .float self.expiresAt.1)]

/-! ## Redis -/

/-- What the server holds under each key, and until when by the clock of the
process. -/
abbrev Server := String → Option (String × Rat)

/-- `client.get` -/
def Server.get (self : Server) (now : Rat) (key : String) : Option String :=
  match self key with
  | some (text, deadline) => if now < deadline then some text else none
  | none => none

/-- `client.setex`, for a server that keeps the key until `deadline`. -/
def Server.setex (self : Server) (key text : String) (deadline : Rat) : Server :=
  Function.update self key (some (text, deadline))

/-- `client.delete` -/
def Server.delete (self : Server) (key : String) : Server := Function.update self key none

/-- `_redis_key` -/
def redisKey (sessionId : String) : String := "gateway:session:" ++ sessionId

/-! ## The store -/

/-- Whether `_get_redis` returns a client. -/
inductive Backend where
  | memory
  | redis

/-- The clock, `_sessions` and the server. -/
structure World where
  now : Time
  sessions : String → Option Payload
  server : Server

/-- What the store can raise. -/
inductive Error where
  /-- `OverflowError`, for a `ttl_seconds` that is no float -/
  | overflow
  /-- `redis.ResponseError`, for a `ttl_seconds` the server refuses -/
  | response
  /-- `AttributeError`, for a text that is no object -/
  | attribute

/-- A call of `create_session`: its arguments, the tokens it draws, and until
when the server would keep the key, if it takes it. -/
structure Create where
  user : User
  accessToken : String
  ttlSeconds : Int
  sessionId : Token
  csrfToken : Token
  deadline : Option Rat

/-- The payload it makes at a time. -/
def Create.payload (self : Create) (now : Time) : Option Payload :=
  (PythonFloat.addInt now self.ttlSeconds).map fun expiresAt =>
    { user := self.user
      accessToken := self.accessToken
      csrfToken := self.csrfToken
      expiresAt }

/-- `create_session` -/
def createSession (backend : Backend) (world : World) (call : Create) :
    Except Error String × World :=
  match call.payload world.now with
  | none => (.error .overflow, world)
  | some payload =>
      match backend with
      | .redis =>
          match call.deadline with
          | none => (.error .response, world)
          | some deadline =>
              let text := Json.dumps .default (.obj payload.dict)
              (.ok call.sessionId.text,
                { world with
                  server := world.server.setex (redisKey call.sessionId.text) text deadline })
      | .memory =>
          (.ok call.sessionId.text,
            { world with
              sessions := Function.update world.sessions call.sessionId.text (some payload) })

/-- `isinstance(data.get("expires_at"), (int, float)) and data["expires_at"] <= time.time()` -/
def isExpired (data : Dict Json) (now : Rat) : Bool :=
  match data.get? "expires_at" with
  | some (.int n) => n ≤ now
  | some (.float q) => q ≤ now
  | some (.bool b) => (if b then 1 else 0) ≤ now
  | _ => false

/-- `get_session` -/
def getSession (backend : Backend) (world : World) (sessionId : Option String) :
    Except Error (Option (Dict Json)) × World :=
  match sessionId with
  | none => (.ok none, world)
  | some sessionId =>
      if sessionId = "" then (.ok none, world)
      else
        match backend with
        | .redis =>
            let deleted := { world with server := world.server.delete (redisKey sessionId) }
            match world.server.get world.now.1 (redisKey sessionId) with
            | none => (.ok none, world)
            | some raw =>
                match Json.loads raw with
                | none => (.ok none, deleted)
                | some (.obj data) =>
                    if isExpired data world.now.1 then (.ok none, deleted)
                    else (.ok (some data), world)
                | some _ => (.error .attribute, world)
        | .memory =>
            let popped := { world with sessions := Function.update world.sessions sessionId none }
            match world.sessions sessionId with
            | none => (.ok none, popped)
            | some session =>
                if session.expiresAt ≤ world.now then (.ok none, popped)
                else (.ok (some session.dict), world)

/-- `revoke_session` -/
def revokeSession (backend : Backend) (world : World) (sessionId : Option String) : World :=
  match sessionId with
  | none => world
  | some sessionId =>
      if sessionId = "" then world
      else
        { world with
          server :=
            match backend with
            | .redis => world.server.delete (redisKey sessionId)
            | .memory => world.server
          sessions := Function.update world.sessions sessionId none }

/-! ## Runs -/

inductive Event where
  | create (call : Create)
  | get (sessionId : Option String)
  | revoke (sessionId : Option String)
  | advance (now : Time)

def step (backend : Backend) (world : World) : Event → World
  | .create call => (createSession backend world call).2
  | .get sessionId => (getSession backend world sessionId).2
  | .revoke sessionId => revokeSession backend world sessionId
  | .advance now => { world with now }

/-- Before anything is created. -/
def World.initial (start : Time) : World := ⟨start, fun _ => none, fun _ => none⟩

/-- The world after some events. -/
def after (backend : Backend) (start : Time) (run : List Event) : World :=
  Runs.after (step backend) (World.initial start) run

/-- What time it is. -/
def clock (start : Time) (run : List Event) : Time :=
  run.foldl (fun now event => match event with | .advance now' => now' | _ => now) start

/-- What can come next: identifiers are fresh, the clock does not go back, and
the server keeps a session for its time at least. -/
def Allowed (start : Time) (before : List Event) : Event → Prop
  | .create call =>
      (∀ call', Event.create call' ∈ before → call'.sessionId.text ≠ call.sessionId.text) ∧
        ∀ payload, call.payload (clock start before) = some payload →
          ∃ deadline, call.deadline = some deadline ∧ payload.expiresAt.1 ≤ deadline
  | .advance now => clock start before ≤ now
  | _ => True

/-! ## The map of leases -/

/-- What a call puts in the map. -/
def Create.lease (self : Create) (now : Time) : Option (Payload × Time) :=
  (self.payload now).map fun payload => (payload, payload.expiresAt)

/-- What an event is to the map. -/
def Event.lease : Event → Lease.Event String Payload Time
  | .create call => .grant call.sessionId.text call.lease
  | .get sessionId => .read (sessionId.getD "")
  | .revoke sessionId => .revoke (sessionId.getD "")
  | .advance now => .advance now

/-- The map after some events. -/
def leases (start : Time) (run : List Event) : Lease.State String Payload Time :=
  Lease.after start (run.map Event.lease)

theorem clock_concat (start : Time) (run : List Event) (event : Event) :
    clock start (run ++ [event]) =
      match event with
      | .advance now => now
      | _ => clock start run := by
  rw [clock, List.foldl_append]
  rfl

theorem leases_concat (start : Time) (run : List Event) (event : Event) :
    leases start (run ++ [event]) = (leases start run).step event.lease := by
  rw [leases, List.map_append]
  exact Lease.after_concat _ _ _

/-- The map has the time of the run. -/
theorem leases_now (start : Time) (run : List Event) :
    (leases start run).now = clock start run := by
  induction run using List.reverseRecOn with
  | nil => rfl
  | append_singleton run event ih =>
      rw [leases_concat, clock_concat]
      cases event with
      | create call => rwa [Event.lease, Lease.State.now_grant]
      | get sessionId => exact ih
      | revoke sessionId => exact ih
      | advance now => rfl

/-- What is allowed of the store is orderly for the map. -/
theorem orderly_of_allowed {start : Time} {run : List Event}
    (h : Runs.Throughout (Allowed start) run) :
    Runs.Throughout (Lease.Orderly start) (run.map Event.lease) := by
  refine Runs.Throughout.map fun before event rest hrun => ?_
  have hallowed := h before event rest hrun
  cases event with
  | create call =>
      intro lease hmem
      obtain ⟨event, hevent, hlease⟩ := List.mem_map.mp hmem
      cases event with
      | create call' => exact hallowed.1 call' hevent (Lease.Event.grant.inj hlease).1
      | get sessionId => contradiction
      | revoke sessionId => contradiction
      | advance now => contradiction
  | get sessionId => trivial
  | revoke sessionId => trivial
  | advance now =>
      have hnow : (leases start before).now ≤ now := leases_now start before ▸ hallowed
      exact hnow

/-! ## What each backend holds -/

omit [Python] [PythonFloat] in
theorem redisKey_injective : Function.Injective redisKey := fun _ _ h =>
  (String.append_right_inj _).mp h

/-- The cells of the server that sessions are kept in. -/
def Server.sessions (self : Server) (sessionId : String) : Option (String × Rat) :=
  self (redisKey sessionId)

omit [Python] [PythonFloat] in
theorem Server.sessions_setex (self : Server) (sessionId text : String) (deadline : Rat) :
    (self.setex (redisKey sessionId) text deadline).sessions =
      Function.update self.sessions sessionId (some (text, deadline)) :=
  Function.update_comp_eq_of_injective self redisKey_injective sessionId _

omit [Python] [PythonFloat] in
theorem Server.sessions_delete (self : Server) (sessionId : String) :
    (self.delete (redisKey sessionId)).sessions =
      Function.update self.sessions sessionId none :=
  Function.update_comp_eq_of_injective self redisKey_injective sessionId _

/-- A payload is a document. -/
theorem Payload.proper (self : Payload) : Json.Proper (.obj self.dict) := by
  have hkeys : self.dict.map Prod.fst = ["user", "access_token", "csrf_token", "expires_at"] := rfl
  refine ⟨hkeys ▸ by decide, ?_⟩
  rw [Json.properFields_iff, dict]
  simp only [List.forall_mem_cons]
  exact ⟨self.user.proper, trivial, trivial, self.expiresAt.2, List.forall_mem_nil _⟩

/-- The stored deadline is the one checked. -/
theorem isExpired_dict (payload : Payload) (now : Rat) :
    isExpired payload.dict now = decide (payload.expiresAt.1 ≤ now) := rfl

/-- The dictionary keeps the payload. -/
def memoryForm (session : Payload) (lease : Payload × Time) : Prop :=
  lease = (session, session.expiresAt)

/-- The server keeps its text, no shorter than the payload is good for. -/
def redisForm (cell : String × Rat) (lease : Payload × Time) : Prop :=
  cell.1 = Json.dumps .default (.obj lease.1.dict) ∧ lease.2 = lease.1.expiresAt ∧
    lease.2.1 ≤ cell.2

/-- A world keeps what the map holds. -/
structure Simulates (backend : Backend) (world : World)
    (state : Lease.State String Payload Time) : Prop where
  now : world.now = state.now
  keeps :
    match backend with
    | .memory => Lease.Keeps memoryForm world.sessions state
    | .redis => Lease.Keeps redisForm world.server.sessions state
  empty : state.held "" = none

theorem simulates_initial (backend : Backend) (start : Time) :
    Simulates backend (World.initial start) (leases start []) where
  now := rfl
  keeps := by
    cases backend with
    | memory => exact Lease.keeps_initial memoryForm start
    | redis => exact Lease.keeps_initial redisForm start
  empty := rfl

variable {world : World} {state : Lease.State String Payload Time}

theorem Create.lease_eq {call : Create} {now : Time} {payload : Payload}
    (h : call.payload now = some payload) :
    call.lease now = some (payload, payload.expiresAt) := by
  rw [lease, h, Option.map_some]

/-- A session is created. -/
theorem Simulates.create {backend : Backend} (h : Simulates backend world state) {call : Create}
    (hdeadline : ∀ payload, call.payload world.now = some payload →
      ∃ deadline, call.deadline = some deadline ∧ payload.expiresAt.1 ≤ deadline) :
    Simulates backend (createSession backend world call).2
      (state.step (.grant call.sessionId.text call.lease)) := by
  have hempty : (state.step (.grant call.sessionId.text call.lease)).held "" = none := by
    rw [Lease.State.held_grant, if_neg (Ne.symm call.sessionId.text_ne)]
    exact h.empty
  have hnow : world.now = (state.step (.grant call.sessionId.text call.lease)).now := by
    rw [Lease.State.now_grant]
    exact h.now
  have hkeeps := h.keeps
  rw [createSession]
  cases hpayload : call.payload world.now with
  | none =>
      have hlease : call.lease state.now = none := by
        rw [← h.now, Create.lease, hpayload, Option.map_none]
      refine ⟨hnow, ?_, hempty⟩
      cases backend with
      | memory => exact hkeeps.refuse _ hlease
      | redis => exact hkeeps.refuse _ hlease
  | some payload =>
      have hlease := Create.lease_eq hpayload
      rw [h.now] at hlease
      cases backend with
      | memory => exact ⟨hnow, hkeeps.grant _ hlease rfl, hempty⟩
      | redis =>
          obtain ⟨deadline, htaken, hdeadline⟩ := hdeadline payload hpayload
          have hform : redisForm (Json.dumps .default (.obj payload.dict), deadline)
              (payload, payload.expiresAt) := ⟨rfl, rfl, hdeadline⟩
          rw [htaken]
          refine ⟨hnow, ?_, hempty⟩
          show Lease.Keeps redisForm (world.server.setex _ _ _).sessions _
          rw [Server.sessions_setex]
          exact hkeeps.grant _ hlease hform

/-- A session is revoked. -/
theorem Simulates.revoke {backend : Backend} (h : Simulates backend world state)
    (sessionId : Option String) :
    Simulates backend (revokeSession backend world sessionId)
      (state.step (.revoke (sessionId.getD ""))) := by
  have hkeeps := h.keeps
  have hheld : (state.step (.revoke (sessionId.getD ""))).held "" = none := by
    rw [Lease.State.held_revoke, h.empty, ite_self]
  by_cases hempty : sessionId.getD "" = ""
  · have hworld : revokeSession backend world sessionId = world := by
      cases sessionId with
      | none => rfl
      | some sessionId => exact if_pos hempty
    have hstate : state.step (.revoke (sessionId.getD "")) = state := by
      rw [hempty, Lease.State.step, ← h.empty, Function.update_eq_self]
    rwa [hworld, hstate]
  · obtain ⟨id, rfl⟩ : ∃ id, sessionId = some id := by
      cases sessionId with
      | none => exact absurd rfl hempty
      | some id => exact ⟨id, rfl⟩
    have hid : id ≠ "" := hempty
    unfold revokeSession
    simp only [if_neg hid]
    refine ⟨h.now, ?_, hheld⟩
    cases backend with
    | memory => exact hkeeps.revoke id
    | redis =>
        show Lease.Keeps redisForm (world.server.delete _).sessions _
        rw [Server.sessions_delete]
        exact hkeeps.revoke id

theorem Simulates.advance {backend : Backend} (h : Simulates backend world state) {now : Time}
    (hnow : state.now ≤ now) :
    Simulates backend { world with now } (state.step (.advance now)) where
  now := rfl
  keeps := by
    have hkeeps := h.keeps
    cases backend with
    | memory => exact hkeeps.advance hnow
    | redis => exact hkeeps.advance hnow
  empty := h.empty

/-- What cannot be read can be dropped. -/
theorem Simulates.drop {backend : Backend} (h : Simulates backend world state) {sessionId : String}
    (hread : state.read sessionId = none) :
    Simulates backend
      { world with
        server :=
          match backend with
          | .redis => world.server.delete (redisKey sessionId)
          | .memory => world.server
        sessions :=
          match backend with
          | .redis => world.sessions
          | .memory => Function.update world.sessions sessionId none } state where
  now := h.now
  keeps := by
    have hkeeps := h.keeps
    cases backend with
    | memory => exact hkeeps.forget hread
    | redis =>
        show Lease.Keeps redisForm (world.server.delete _).sessions _
        rw [Server.sessions_delete]
        exact hkeeps.forget hread
  empty := h.empty

/-- The dictionary reads as the map does. -/
theorem Simulates.get_memory (h : Simulates .memory world state) {sessionId : String}
    (hid : sessionId ≠ "") :
    (getSession .memory world (some sessionId)).1 =
        .ok ((state.read sessionId).map Payload.dict) ∧
      Simulates .memory (getSession .memory world (some sessionId)).2 state := by
  have hkeeps : Lease.Keeps memoryForm world.sessions state := h.keeps
  unfold getSession
  simp only [if_neg hid]
  cases hstored : world.sessions sessionId with
  | none =>
      have hread := hkeeps.read_none hstored
      rw [hread]
      exact ⟨rfl, h.drop hread⟩
  | some session =>
      obtain ⟨lease, hlease, hread⟩ := hkeeps.read_some hstored
      have hlease' : lease = (session, session.expiresAt) := hlease
      rw [hlease', ← h.now] at hread
      by_cases hexpired : session.expiresAt ≤ world.now
      · rw [if_neg (not_lt.mpr hexpired)] at hread
        simp only [if_pos hexpired]
        rw [hread]
        exact ⟨rfl, h.drop hread⟩
      · rw [if_pos (not_le.mp hexpired)] at hread
        simp only [if_neg hexpired]
        rw [hread]
        exact ⟨rfl, h⟩

/-- The server reads as the map does. -/
theorem Simulates.get_redis (h : Simulates .redis world state) {sessionId : String}
    (hid : sessionId ≠ "") :
    (getSession .redis world (some sessionId)).1 =
        .ok ((state.read sessionId).map Payload.dict) ∧
      Simulates .redis (getSession .redis world (some sessionId)).2 state := by
  have hkeeps : Lease.Keeps redisForm world.server.sessions state := h.keeps
  unfold getSession
  simp only [if_neg hid]
  cases hstored : world.server (redisKey sessionId) with
  | none =>
      have hread := hkeeps.read_none hstored
      have hget : world.server.get world.now.1 (redisKey sessionId) = none := by
        rw [Server.get, hstored]
      rw [hread, hget]
      exact ⟨rfl, h⟩
  | some cell =>
      obtain ⟨⟨payload, ends⟩, ⟨htext, hends, hdeadline⟩, hlease⟩ := hkeeps.read_some hstored
      obtain ⟨text, deadline⟩ := cell
      have hread : state.read sessionId =
          if world.now < payload.expiresAt then some payload else none := by
        rw [hlease, ← h.now, hends]
      have hkept : payload.expiresAt.1 ≤ deadline := hends ▸ hdeadline
      have hloads : Json.loads text = some (.obj payload.dict) := by
        rw [show text = Json.dumps .default (.obj payload.dict) from htext]
        exact Json.loads_dumps .default payload.proper
      by_cases hover : world.now.1 < deadline
      · have hget : world.server.get world.now.1 (redisKey sessionId) = some text := by
          rw [Server.get, hstored]
          exact if_pos hover
        rw [hget]
        simp only [hloads, isExpired_dict, decide_eq_true_eq]
        by_cases hexpired : payload.expiresAt.1 ≤ world.now.1
        · have hlate : ¬world.now < payload.expiresAt := not_lt.mpr hexpired
          rw [if_neg hlate] at hread
          simp only [if_pos hexpired]
          rw [hread]
          exact ⟨rfl, h.drop hread⟩
        · have hearly : world.now < payload.expiresAt := not_le.mp hexpired
          rw [if_pos hearly] at hread
          simp only [if_neg hexpired]
          rw [hread]
          exact ⟨rfl, h⟩
      · -- the server has forgotten it, no sooner than its time was up
        have hget : world.server.get world.now.1 (redisKey sessionId) = none := by
          rw [Server.get, hstored]
          exact if_neg hover
        have hpast : payload.expiresAt.1 ≤ world.now.1 := le_trans hkept (not_lt.mp hover)
        have hlate : ¬world.now < payload.expiresAt := not_lt.mpr hpast
        rw [if_neg hlate] at hread
        rw [hread, hget]
        exact ⟨rfl, h⟩

/-- A read agrees with the map, and changes nothing in it. -/
theorem Simulates.get {backend : Backend} (h : Simulates backend world state)
    (sessionId : Option String) :
    (getSession backend world sessionId).1 =
        .ok ((state.read (sessionId.getD "")).map Payload.dict) ∧
      Simulates backend (getSession backend world sessionId).2 state := by
  by_cases hempty : sessionId.getD "" = ""
  · have hget : getSession backend world sessionId = (.ok none, world) := by
      cases sessionId with
      | none => rfl
      | some sessionId => exact if_pos hempty
    have hread : state.read "" = none := by
      rw [Lease.State.read, h.empty]
    rw [hget, hempty, hread]
    exact ⟨rfl, h⟩
  · obtain ⟨id, rfl⟩ : ∃ id, sessionId = some id := by
      cases sessionId with
      | none => exact absurd rfl hempty
      | some id => exact ⟨id, rfl⟩
    cases backend with
    | memory => exact h.get_memory hempty
    | redis => exact h.get_redis hempty

/-- **Simulation**: after every run, each backend keeps what the map holds. -/
theorem simulates_after (backend : Backend) {start : Time} {run : List Event}
    (h : Runs.Throughout (Allowed start) run) :
    Simulates backend (after backend start run) (leases start run) := by
  refine h.invariant (I := fun run world => Simulates backend world (leases start run))
    (simulates_initial backend start) ?_
  intro run event hallowed hbefore
  rw [leases_concat]
  have hclock : (after backend start run).now = clock start run :=
    hbefore.now.trans (leases_now start run)
  cases event with
  | create call =>
      have hdeadline := hallowed.2
      rw [← hclock] at hdeadline
      exact hbefore.create hdeadline
  | get sessionId => exact (hbefore.get sessionId).2
  | revoke sessionId => exact hbefore.revoke sessionId
  | advance now => exact hbefore.advance (leases_now start run ▸ hallowed)

/-! ## Agreement -/

/-- The map is told of a revocation as often as it is called for. -/
theorem revoke_mem_map {sessionId : String} (hid : sessionId ≠ "") {run : List Event} :
    Lease.Event.revoke sessionId ∈ run.map Event.lease ↔ Event.revoke (some sessionId) ∈ run := by
  rw [List.mem_map]
  constructor
  · intro hmem
    obtain ⟨event, hevent, hlease⟩ := hmem
    cases event with
    | create call => contradiction
    | get sessionId' => contradiction
    | revoke sessionId' =>
        have hsame : sessionId'.getD "" = sessionId := Lease.Event.revoke.inj hlease
        cases sessionId' with
        | none => exact absurd hsame.symm hid
        | some sessionId' =>
            rw [Option.getD_some] at hsame
            rwa [← hsame]
    | advance now => contradiction
  · intro hmem
    exact ⟨.revoke (some sessionId), hmem, rfl⟩

/-- What the map reads, in terms of the calls. -/
theorem read_leases_iff {start : Time} {run : List Event}
    (h : Runs.Throughout (Allowed start) run) {sessionId : String} {payload : Payload} :
    (leases start run).read sessionId = some payload ↔
      ∃ before call rest, run = before ++ .create call :: rest ∧ call.sessionId.text = sessionId ∧
        call.payload (clock start before) = some payload ∧
        Event.revoke (some sessionId) ∉ rest ∧ clock start run < payload.expiresAt := by
  rw [leases, Lease.read_after_iff (orderly_of_allowed h), ← leases, leases_now]
  constructor
  · intro hread
    obtain ⟨before', lease, rest', ends, hrun, hlease, hrevoked, hends⟩ := hread
    obtain ⟨before, tail, hsplit, rfl, htail⟩ := List.map_eq_append_iff.mp hrun
    obtain ⟨event, rest, rfl, hevent, rfl⟩ := List.map_eq_cons_iff.mp htail
    rw [← leases, leases_now] at hlease
    cases event with
    | create call =>
        obtain ⟨hid, rfl⟩ := Lease.Event.grant.inj hevent
        obtain ⟨payload', hpayload, hsame⟩ := Option.map_eq_some_iff.mp hlease
        obtain ⟨rfl, rfl⟩ := Prod.mk.inj hsame
        rw [revoke_mem_map (hid ▸ call.sessionId.text_ne)] at hrevoked
        exact ⟨before, call, rest, hsplit, hid, hpayload, hrevoked, hends⟩
    | get sessionId' => contradiction
    | revoke sessionId' => contradiction
    | advance now => contradiction
  · intro hread
    obtain ⟨before, call, rest, hrun, hid, hpayload, hrevoked, hexpires⟩ := hread
    rw [← revoke_mem_map (hid ▸ call.sessionId.text_ne)] at hrevoked
    refine ⟨before.map Event.lease, call.lease, rest.map Event.lease, payload.expiresAt, ?_, ?_,
      hrevoked, hexpires⟩
    · rw [hrun, List.map_append, List.map_cons, Event.lease, hid]
    · rw [← leases, leases_now]
      exact Create.lease_eq hpayload

/-- **Session backends agree**: after every run, a session is read from the
dictionary and from Redis as it is from the map.  That is the payload made by
the call that created it, unless it has been revoked since or its time is up;
and once it is not read, it never is again. -/
theorem backends_agree (backend : Backend) {start : Time} {run : List Event}
    (h : Runs.Throughout (Allowed start) run) :
    (∀ sessionId, (getSession backend (after backend start run) sessionId).1 =
      .ok (((leases start run).read (sessionId.getD "")).map Payload.dict)) ∧
    (∀ sessionId data,
      (getSession backend (after backend start run) (some sessionId)).1 = .ok (some data) ↔
        ∃ before call rest payload, run = before ++ .create call :: rest ∧
          call.sessionId.text = sessionId ∧ call.payload (clock start before) = some payload ∧
          Event.revoke (some sessionId) ∉ rest ∧ clock start run < payload.expiresAt ∧
          data = payload.dict) ∧
    ∀ before rest call, run = before ++ rest → Event.create call ∈ before →
      (getSession backend (after backend start before) (some call.sessionId.text)).1 = .ok none →
      (getSession backend (after backend start run) (some call.sessionId.text)).1 = .ok none := by
  have hread : ∀ sessionId, (getSession backend (after backend start run) sessionId).1 =
      .ok (((leases start run).read (sessionId.getD "")).map Payload.dict) :=
    fun sessionId => ((simulates_after backend h).get sessionId).1
  refine ⟨hread, ?_, ?_⟩
  · intro sessionId data
    rw [hread, Except.ok.injEq, Option.map_eq_some_iff, Option.getD_some]
    constructor
    · intro hsome
      obtain ⟨payload, hsome, hdata⟩ := hsome
      obtain ⟨before, call, rest, hrun, hid, hpayload, hrevoked, hexpires⟩ :=
        (read_leases_iff h).mp hsome
      exact ⟨before, call, rest, payload, hrun, hid, hpayload, hrevoked, hexpires, hdata.symm⟩
    · intro hsome
      obtain ⟨before, call, rest, payload, hrun, hid, hpayload, hrevoked, hexpires, hdata⟩ := hsome
      refine ⟨payload, (read_leases_iff h).mpr ?_, hdata.symm⟩
      exact ⟨before, call, rest, hrun, hid, hpayload, hrevoked, hexpires⟩
  · intro before rest call hrun hcall hnone
    subst hrun
    rw [((simulates_after backend h.of_append).get _).1, Except.ok.injEq,
      Option.map_eq_none_iff] at hnone
    rw [hread, Except.ok.injEq, Option.map_eq_none_iff]
    have horderly := orderly_of_allowed h
    rw [List.map_append] at horderly
    show (Lease.after start ((before ++ rest).map Event.lease)).read _ = none
    rw [List.map_append]
    exact Lease.read_after_append horderly (List.mem_map_of_mem hcall) hnone

/-- A user with nothing known about it. -/
def User.anonymous : User := ⟨[], List.nodup_nil, trivial⟩

/-- A session of a minute. -/
def Create.minute : Create where
  user := .anonymous
  accessToken := "token"
  ttlSeconds := 60
  sessionId := ⟨"id", by decide⟩
  csrfToken := ⟨"csrf", by decide⟩
  deadline := some 1060

end

/-- A session of a minute is read from Redis after 59 seconds. -/
theorem backends_agree_minute :
    letI := Json.whole
    letI := Json.wholeFloat
    ∃ payload, Create.minute.payload ⟨1000, rfl⟩ = some payload ∧
      (getSession .redis (after .redis ⟨1000, rfl⟩ [.create .minute, .advance ⟨1059, rfl⟩])
        (some "id")).1 = .ok (some payload.dict) := by
  let _ := Json.whole
  let _ := Json.wholeFloat
  have hallowed : Runs.Throughout (Allowed ⟨1000, rfl⟩)
      ([] ++ [.create .minute] ++ [.advance ⟨1059, rfl⟩]) := by
    refine Runs.throughout_concat.mpr ⟨Runs.throughout_concat.mpr ⟨Runs.throughout_nil _, ?_⟩, ?_⟩
    · refine ⟨fun call' h => absurd h List.not_mem_nil, fun payload hpayload => ⟨1060, rfl, ?_⟩⟩
      rw [← Option.some_inj.mp hpayload]
      decide
    · show (1000 : Rat) ≤ 1059
      decide
  have hread := ((backends_agree .redis hallowed).2.1 "id" _).mpr
    ⟨[], .minute, [.advance ⟨1059, rfl⟩], _, rfl, rfl, rfl, by simp, ?_, rfl⟩
  · exact ⟨_, rfl, hread⟩
  · show (1059 : Rat) < ((1000 + 60 : Int) : Rat)
    decide

end DbGateway.Session
