import DbGateway.Incident.Redis
import DbGateway.Runs

/-!
# DbGateway.Incident.Blocking

`block_ip` and `unblock_ip` of `services/incident_response.py`, called
concurrently for one IP.

`block_ip` looks first and sets the key in a second command.  What it promises
holds in a run where, whenever a call sets the key, the IP is not blocked, and
in no other (`exclusive_and_keepsExpiry_iff`).
-/

namespace DbGateway.Incident.Blocking

/-! ## One IP -/

/-- `IncidentResponseConfig`, as far as blocking goes. -/
structure BlockingConfig where
  blockDuration : Int := 3600
  blocklistKey : String := "security:blocklist:ip"

/-- `f"{self._config.blocklist_key}:{ip}"` -/
def BlockingConfig.key (self : BlockingConfig) (ip : String) : String :=
  self.blocklistKey ++ ":" ++ ip

/-- Record of a blocked IP address. -/
structure BlockedIP where
  ip : String
  reason : String
  blockedAt : Rat
  expiresAt : Rat
  blockedBy : String

/-- `blocked.__repr__()` -/
def BlockedIP.repr [Python] (self : BlockedIP) : String :=
  "BlockedIP(ip=" ++ (Python.repr self.ip ++ ", reason=" ++ Python.repr self.reason ++
    ", blocked_at=" ++ Python.floatRepr self.blockedAt ++ ", expires_at=" ++
    Python.floatRepr self.expiresAt ++ ", blocked_by=" ++ Python.repr self.blockedBy ++ ")")

/-- The arguments of `block_ip`. -/
structure Request where
  reason : String
  blockedBy : String
  duration : Option Int

/-- `duration or self._config.block_duration` -/
def Request.seconds (config : BlockingConfig) (self : Request) : Int :=
  match self.duration with
  | some duration => if duration ≠ 0 then duration else config.blockDuration
  | none => config.blockDuration

/-! ## Round trips -/

/-- A round trip of a call to Redis.  The times are those of the process that
makes the call. -/
inductive RoundTrip (Call : Type*) where
  /-- `block_ip` asks for the key, having computed `expires_at`. -/
  | check (call : Call) (request : Request) (expiresAt : Rat)
  /-- `block_ip` sets the key, if it has found none. -/
  | set (call : Call) (blockedAt : Rat)
  | unblock
  /-- Time passes on the server. -/
  | elapse (milliseconds : Nat)

/-- A round trip of `block_ip`. -/
def RoundTrip.IsBlockIp {Call : Type*} : RoundTrip Call → Prop
  | .check _ _ _ => True
  | .set _ _ => True
  | .unblock => False
  | .elapse _ => False

/-- What comes of a round trip: a call goes on, returns or raises. -/
inductive Outcome where
  | running
  | blockIp (result : Bool)
  | unblockIp (result : Bool)
  | raised

/-- The store, and the calls of `block_ip` that have found no key, with their
`expires_at`. -/
structure World (server : Server) (Call : Type*) where
  store : server.State
  waiting : Call → Option (Request × Rat)

/-- Nothing is blocked, and nothing is called. -/
def World.start {server : Server} {Call : Type*} (now : Nat) : World server Call where
  store := server.start now
  waiting _ := none

section

variable {Call : Type*} [DecidableEq Call] [Python]

/-- What a round trip comes to, and what it leaves. -/
def respond (config : BlockingConfig) (server : Server) (ip : String)
    (world : World server Call) : RoundTrip Call → Outcome × World server Call
  | .check call request expiresAt =>
      if (server.get world.store (config.key ip)).getD "" ≠ "" then (.blockIp false, world)
      else
        (.running,
          { world with waiting := Function.update world.waiting call (some (request, expiresAt)) })
  | .set call blockedAt =>
      match world.waiting call with
      | none => (.running, world)
      | some (request, expiresAt) =>
          let blocked : BlockedIP :=
            { ip, reason := request.reason, blockedAt, expiresAt, blockedBy := request.blockedBy }
          let returned := { world with waiting := Function.update world.waiting call none }
          match server.setex world.store (config.key ip) (request.seconds config) blocked.repr with
          | some store => (.blockIp true, { returned with store })
          | none => (.raised, returned)
  | .unblock =>
      let (result, store) := server.delete world.store (config.key ip)
      (.unblockIp (result ≠ 0), { world with store })
  | .elapse milliseconds =>
      (.running, { world with store := server.advance world.store milliseconds })

/-- What a round trip leaves. -/
def step (config : BlockingConfig) (server : Server) (ip : String) (world : World server Call)
    (roundTrip : RoundTrip Call) : World server Call := (respond config server ip world roundTrip).2

/-- A round trip in which `block_ip` returns `True`. -/
def Grants (config : BlockingConfig) (server : Server) (ip : String) (world : World server Call)
    (roundTrip : RoundTrip Call) : Prop :=
  (respond config server ip world roundTrip).1 = .blockIp true

/-- `is_ip_blocked` -/
def Blocked {server : Server} (config : BlockingConfig) (ip : String)
    (world : World server Call) : Prop :=
  server.exists_ world.store (config.key ip) = true

/-- When the block in place expires. -/
def expiry {server : Server} (config : BlockingConfig) (ip : String)
    (world : World server Call) : Option Nat :=
  (server.live world.store (config.key ip)).map Prod.snd

/-- A round trip in which a call sets the key. -/
def Sets (config : BlockingConfig) (server : Server) (world : World server Call)
    (roundTrip : RoundTrip Call) : Prop :=
  ∃ call blockedAt request expiresAt, roundTrip = .set call blockedAt ∧
    world.waiting call = some (request, expiresAt) ∧
    server.accepts (server.now world.store) (request.seconds config) = true

variable {config : BlockingConfig} {server : Server} {ip : String} {world : World server Call}
  {roundTrip : RoundTrip Call}

/-! ## One round trip -/

omit [DecidableEq Call] [Python] in
theorem blocked_iff_expiry : Blocked config ip world ↔ (expiry config ip world).isSome = true := by
  rw [Blocked, Server.exists_, expiry, Option.isSome_map]

omit [DecidableEq Call] [Python] in
theorem not_blocked_start (now : Nat) :
    ¬ Blocked config ip (World.start now : World server Call) := by
  rw [Blocked, Server.exists_, World.start, server.live_start]
  exact Bool.false_ne_true

variable (config server ip) in
/-- What is left when a call sets the key, and when it cannot. -/
theorem respond_set {call : Call} {request : Request} {expiresAt : Rat}
    (hwaiting : world.waiting call = some (request, expiresAt)) (blockedAt : Rat) :
    (server.accepts (server.now world.store) (request.seconds config) = true ∧
      ∃ value store, server.setex world.store (config.key ip) (request.seconds config) value =
          some store ∧
        respond config server ip world (.set call blockedAt) =
          (.blockIp true, { store, waiting := Function.update world.waiting call none })) ∨
    (server.accepts (server.now world.store) (request.seconds config) = false ∧
      respond config server ip world (.set call blockedAt) =
        (.raised, { world with waiting := Function.update world.waiting call none })) := by
  rw [respond, hwaiting]
  dsimp only
  generalize BlockedIP.repr _ = value
  cases hstore : server.setex world.store (config.key ip) (request.seconds config) value with
  | some store => exact .inl ⟨Server.accepts_of_setex hstore, value, store, hstore, rfl⟩
  | none => exact .inr ⟨Server.setex_eq_none hstore, rfl⟩

/-- `block_ip` returns `True` exactly when it sets the key. -/
theorem grants_iff_sets : Grants config server ip world roundTrip ↔
    Sets config server world roundTrip := by
  cases roundTrip with
  | check call request expiresAt =>
      rw [Grants, respond, Sets]
      split
      · simp
      · simp
  | set call blockedAt =>
      cases hwaiting : world.waiting call with
      | none => simp [Grants, respond, Sets, hwaiting]
      | some entry =>
          obtain ⟨request, expiresAt⟩ := entry
          cases respond_set config server ip hwaiting blockedAt with
          | inl h =>
              obtain ⟨haccepts, value, store, -, hrespond⟩ := h
              rw [Grants, hrespond]
              exact ⟨fun _ => ⟨call, blockedAt, request, expiresAt, rfl, hwaiting, haccepts⟩,
                fun _ => rfl⟩
          | inr h =>
              rw [Grants, h.2]
              constructor
              · intro hraised
                contradiction
              · intro ⟨call', blockedAt', request', expiresAt', hset, hwaiting', haccepts⟩
                cases hset
                rw [hwaiting] at hwaiting'
                cases hwaiting'
                rw [h.1] at haccepts
                contradiction
  | unblock => simp [Grants, respond, Sets]
  | elapse milliseconds => simp [Grants, respond, Sets]

/-- The IP is blocked when `block_ip` has returned `True`. -/
theorem blocked_step_of_grants (h : Grants config server ip world roundTrip) :
    Blocked config ip (step config server ip world roundTrip) := by
  obtain ⟨call, blockedAt, request, expiresAt, rfl, hwaiting, haccepts⟩ := grants_iff_sets.mp h
  cases respond_set config server ip hwaiting blockedAt with
  | inl hset =>
      obtain ⟨-, value, store, hstore, hrespond⟩ := hset
      rw [step, hrespond, Blocked, Server.exists_, Server.live_set hstore]
      rfl
  | inr hraised =>
      rw [hraised.1] at haccepts
      contradiction

/-- A round trip of `block_ip` that does not set the key leaves the store. -/
theorem store_step (hblock : roundTrip.IsBlockIp) (h : ¬ Sets config server world roundTrip) :
    (step config server ip world roundTrip).store = world.store := by
  cases roundTrip with
  | check call request expiresAt =>
      rw [step, respond]
      split
      · rfl
      · rfl
  | set call blockedAt =>
      cases hwaiting : world.waiting call with
      | none => simp [step, respond, hwaiting]
      | some entry =>
          obtain ⟨request, expiresAt⟩ := entry
          cases respond_set config server ip hwaiting blockedAt with
          | inl hset =>
              exact absurd ⟨call, blockedAt, request, expiresAt, rfl, hwaiting, hset.1⟩ h
          | inr hraised => rw [step, hraised.2]
  | unblock => exact hblock.elim
  | elapse milliseconds => exact hblock.elim

/-- An IP becomes blocked only when `block_ip` returns `True`. -/
theorem grants_of_blocked_step (hbefore : ¬ Blocked config ip world)
    (hafter : Blocked config ip (step config server ip world roundTrip)) :
    Grants config server ip world roundTrip := by
  by_contra hgrants
  rw [grants_iff_sets] at hgrants
  have hstore (hblock : roundTrip.IsBlockIp) : False := by
    rw [Blocked, store_step hblock hgrants] at hafter
    exact hbefore hafter
  cases roundTrip with
  | check call request expiresAt => exact hstore trivial
  | set call blockedAt => exact hstore trivial
  | unblock =>
      change server.exists_ (server.delete world.store (config.key ip)).2 (config.key ip) = true
        at hafter
      rw [Server.exists_, server.live_delete, if_pos rfl] at hafter
      contradiction
  | elapse milliseconds =>
      obtain ⟨value, deadline, hlive, -⟩ := Server.exists_advance_iff.mp hafter
      exact hbefore (Server.exists_iff.mpr ⟨value, deadline, hlive⟩)

/-! ## Runs -/

variable (config server ip) (now : Nat)

/-- The world after some round trips. -/
def after (run : List (RoundTrip Call)) : World server Call :=
  Runs.after (step config server ip) (.start now) run

/-- Between two calls of `block_ip` that return `True`, the IP gets unblocked. -/
def Exclusive (run : List (RoundTrip Call)) : Prop :=
  ∀ before first mid second rest, run = before ++ first :: (mid ++ second :: rest) →
    Grants config server ip (after config server ip now before) first →
    Grants config server ip (after config server ip now (before ++ first :: mid)) second →
    Runs.Ends (step config server ip) (.start now) (Blocked config ip) (before ++ [first]) mid

/-- No round trip of `block_ip` changes when a block in place expires. -/
def KeepsExpiry (run : List (RoundTrip Call)) : Prop :=
  Runs.Throughout (fun before roundTrip => roundTrip.IsBlockIp →
    ∀ deadline, expiry config ip (after config server ip now before) = some deadline →
      expiry config ip (after config server ip now (before ++ [roundTrip])) = some deadline) run

/-- Whenever a call sets the key, the IP is not blocked: no other call has
blocked it since this one looked, or that block is over. -/
def Uncontended (run : List (RoundTrip Call)) : Prop :=
  Runs.Throughout (fun before roundTrip =>
    Sets config server (after config server ip now before) roundTrip →
      ¬ Blocked config ip (after config server ip now before)) run

variable {config server ip now}

theorem after_concat (run : List (RoundTrip Call)) (roundTrip : RoundTrip Call) :
    after config server ip now (run ++ [roundTrip]) =
      step config server ip (after config server ip now run) roundTrip :=
  Runs.after_concat _ _ run roundTrip

/-- A blocked IP has been blocked by a call, and not been unblocked since. -/
theorem exists_grants_of_blocked (run : List (RoundTrip Call))
    (hblocked : Blocked config ip (after config server ip now run)) :
    ∃ before first mid, run = before ++ first :: mid ∧
      Grants config server ip (after config server ip now before) first ∧
      ¬ Runs.Ends (step config server ip) (.start now) (Blocked config ip) (before ++ [first])
        mid := by
  induction run using List.reverseRecOn with
  | nil => exact absurd hblocked (not_blocked_start now)
  | append_singleton run roundTrip ih =>
      by_cases hbefore : Blocked config ip (after config server ip now run)
      · -- the block is still the one that was there before
        obtain ⟨before, first, mid, rfl, hgrants, hmid⟩ := ih hbefore
        refine ⟨before, first, mid ++ [roundTrip], by simp, hgrants, ?_⟩
        rw [Runs.ends_concat]
        intro hends
        cases hends with
        | inl hends => exact hmid hends
        | inr hlast => exact hlast.2 (by simpa [after] using hblocked)
      · rw [after_concat] at hblocked
        exact ⟨run, roundTrip, [], rfl, grants_of_blocked_step hbefore hblocked,
          Runs.not_ends_nil _ _⟩

theorem Uncontended.exclusive {run : List (RoundTrip Call)}
    (h : Uncontended config server ip now run) : Exclusive config server ip now run := by
  intro before first mid second rest hrun hfirst hsecond
  refine Runs.ends_of_not ?_ ?_
  · rw [← after, after_concat]
    exact blocked_step_of_grants hfirst
  · have hset := h (before ++ first :: mid) second rest (by rw [hrun, List.append_assoc]; rfl)
      (grants_iff_sets.mp hsecond)
    rwa [← after, List.append_assoc, List.singleton_append]

theorem Uncontended.keepsExpiry {run : List (RoundTrip Call)}
    (h : Uncontended config server ip now run) : KeepsExpiry config server ip now run := by
  intro before roundTrip rest hrun hblock deadline hexpiry
  have hsets : ¬ Sets config server (after config server ip now before) roundTrip := by
    intro hsets
    refine h before roundTrip rest hrun hsets ?_
    rw [blocked_iff_expiry, hexpiry]
    rfl
  rw [after_concat, expiry, store_step hblock hsets]
  exact hexpiry

/-- A call that sets the key of a blocked IP is not the only one to return
`True`. -/
theorem Exclusive.uncontended {run : List (RoundTrip Call)}
    (h : Exclusive config server ip now run) : Uncontended config server ip now run := by
  intro before roundTrip rest hrun hsets hblocked
  obtain ⟨before', first, mid, rfl, hgrants, hmid⟩ := exists_grants_of_blocked before hblocked
  refine hmid (h before' first mid roundTrip rest ?_ hgrants (grants_iff_sets.mpr hsets))
  rw [hrun, List.append_assoc]
  rfl

/-- **Blocking an IP is exclusive** in the runs where no call sets the key of a
blocked IP, and only in these. -/
theorem exclusive_and_keepsExpiry_iff (run : List (RoundTrip Call)) :
    Exclusive config server ip now run ∧ KeepsExpiry config server ip now run ↔
      Uncontended config server ip now run :=
  ⟨fun h => h.1.uncontended, fun h => ⟨h.exclusive, h.keepsExpiry⟩⟩

end

/-- Two calls look before either sets the key. -/
def overlapping : List (RoundTrip Bool) :=
  [.check false ⟨"abuse", "system", some 3600⟩ 3600, .check true ⟨"probe", "system", some 60⟩ 60,
    .set false 0, .set true 0]

/-- Both return `True`, and the second cuts an hour short to a minute. -/
theorem not_exclusive_overlapping :
    ¬ @Exclusive Bool _ Python.ascii {} .prefixes "203.0.113.7" 0 overlapping ∧
      ¬ @KeepsExpiry Bool _ Python.ascii {} .prefixes "203.0.113.7" 0 overlapping := by
  let _ := Python.ascii
  constructor
  · intro h
    obtain ⟨mid₁, event, mid₂, hmid, -⟩ := h (overlapping.take 2) (.set false 0) [] (.set true 0) []
      rfl rfl rfl
    simp at hmid
  · intro h
    have hexpiry := h (overlapping.take 3) (.set true 0) [] rfl trivial 3600000 (by decide)
    exact absurd hexpiry (by decide)

end DbGateway.Incident.Blocking
