import DbGateway.Incident.Redis

/-!
# DbGateway.Incident.Revocation

Revoked sessions in `services/incident_response.py`.

A session is revoked as long as a key named after it is there.  To revoke all
sessions of a user the manager asks Redis for the keys of the user, so it finds
those that are revoked already; the others it leaves as they are
(`revokesAll_iff`).
-/

namespace DbGateway.Incident

/-- `IncidentResponseConfig`, as far as sessions go. -/
structure RevocationConfig where
  sessionTtl : Int := 1800
  revokedSessionsKey : String := "security:revoked_sessions"

/-- Record of a revoked session. -/
structure RevokedSession where
  sessionId : String
  userId : String
  reason : String
  revokedAt : Rat
  revokedBy : String

/-- `revoked.__repr__()` -/
def RevokedSession.repr [Python] (self : RevokedSession) : String :=
  "RevokedSession(session_id=" ++ (Python.repr self.sessionId ++ ", user_id=" ++
    Python.repr self.userId ++ ", reason=" ++ Python.repr self.reason ++ ", revoked_at=" ++
    Python.floatRepr self.revokedAt ++ ", revoked_by=" ++ Python.repr self.revokedBy ++ ")")

namespace RevocationConfig

/-- `f"{self._config.revoked_sessions_key}:{session_id}"` -/
def key (self : RevocationConfig) (sessionId : String) : String :=
  self.revokedSessionsKey ++ ":" ++ sessionId

/-- `f"{self._config.revoked_sessions_key}:{user_id}:*"` -/
def pattern (self : RevocationConfig) (userId : String) : String :=
  self.revokedSessionsKey ++ ":" ++ userId ++ ":*"

/-- Check if a session has been revoked. -/
def isSessionRevoked (self : RevocationConfig) (server : Server) (store : server.State)
    (sessionId : String) : Bool :=
  server.exists_ store (self.key sessionId)

/-- Revoke a user session; `none` when `SETEX` raises. -/
def revokeSession [Python] (self : RevocationConfig) (server : Server) (store : server.State)
    (revoked : RevokedSession) : Option (Bool × server.State) :=
  (server.setex store (self.key revoked.sessionId) self.sessionTtl revoked.repr).map
    fun store => (true, store)

/-- The loop of `revoke_all_user_sessions`; a count is `none` when `SETEX`
raises. -/
def refresh (self : RevocationConfig) (server : Server) (value : String) :
    List String → Nat → server.State → Option Nat × server.State
  | [], count, store => (some count, store)
  | key :: keys, count, store =>
      match server.setex store key self.sessionTtl value with
      | some store => refresh self server value keys (count + 1) store
      | none => (none, store)

/-- Revoke all sessions for a user (by pattern matching).  The commands are sent
at one time of the server. -/
def revokeAllUserSessions (self : RevocationConfig) (server : Server) (store : server.State)
    (userId reason revokedBy : String) : Option Nat × server.State :=
  self.refresh server ("revoked:" ++ reason ++ ":" ++ revokedBy)
    (server.keys store (self.pattern userId)) 0 store

variable {config : RevocationConfig} {server : Server} {store store' : server.State}
  {value : String}

theorem key_inj {sessionId sessionId' : String} :
    config.key sessionId = config.key sessionId' ↔ sessionId = sessionId' := by
  unfold key
  exact String.append_right_inj _

/-- A loop that gets to its end has set all its keys, and nothing else. -/
theorem live_refresh {keys : List String} {count count' : Nat}
    (h : config.refresh server value keys count store = (some count', store')) :
    server.now store' = server.now store ∧ ∀ key, server.live store' key =
      if key ∈ keys then some (value, server.deadline store config.sessionTtl)
      else server.live store key := by
  induction keys generalizing count store with
  | nil =>
      cases h
      exact ⟨rfl, fun key => by simp⟩
  | cons first keys ih =>
      rw [refresh] at h
      cases hset : server.setex store first config.sessionTtl value with
      | none =>
          rw [hset] at h
          cases h
      | some next =>
          rw [hset] at h
          have hnow := server.now_setex hset
          obtain ⟨hnow', hlive⟩ := ih h
          refine ⟨hnow'.trans hnow, fun key => ?_⟩
          rw [hlive, server.live_setex hset, Server.deadline, hnow, ← Server.deadline]
          by_cases hkeys : key ∈ keys
          · simp [hkeys]
          · by_cases hfirst : key = first
            · simp [hfirst]
            · simp [hkeys, hfirst]

/-- What is under a key after all sessions of a user have been revoked. -/
theorem live_revokeAllUserSessions {userId reason revokedBy : String} {count : Nat}
    (h : (config.revokeAllUserSessions server store userId reason revokedBy).1 = some count) :
    server.now (config.revokeAllUserSessions server store userId reason revokedBy).2 =
        server.now store ∧
      ∀ key, server.live (config.revokeAllUserSessions server store userId reason revokedBy).2 key =
        if server.exists_ store key = true ∧
            server.keysMatch (config.pattern userId) key = true then
          some ("revoked:" ++ reason ++ ":" ++ revokedBy,
            server.deadline store config.sessionTtl)
        else server.live store key := by
  obtain ⟨hnow, hlive⟩ := live_refresh (Prod.ext h rfl)
  refine ⟨hnow, fun key => ?_⟩
  rw [revokeAllUserSessions, hlive]
  simp only [Server.mem_keys_iff]

/-! ## Revoking one session -/

/-- Revoking a session revokes that session, and no other. -/
theorem isSessionRevoked_revokeSession [Python] {revoked : RevokedSession} {result : Bool}
    (h : config.revokeSession server store revoked = some (result, store')) (sessionId : String) :
    config.isSessionRevoked server store' sessionId =
      (sessionId = revoked.sessionId || config.isSessionRevoked server store sessionId :
        Bool) := by
  rw [revokeSession, Option.map_eq_some_iff] at h
  obtain ⟨next, hset, hnext⟩ := h
  cases hnext
  simp only [isSessionRevoked, Server.exists_, server.live_setex hset, key_inj]
  by_cases hid : sessionId = revoked.sessionId
  · simp [hid]
  · simp [hid]

/-! ## Revoking all sessions -/

/-- What revoking all sessions of a user is for: the active ones are revoked for
the whole `session_ttl`, and no session of another user becomes revoked. -/
def RevokesAll (config : RevocationConfig) (server : Server) (before after : server.State)
    (userId : String) (active : Set String) : Prop :=
  (∀ sessionId ∈ active, ∀ elapsed < 1000 * config.sessionTtl.toNat,
    config.isSessionRevoked server (server.advance after elapsed) sessionId = true) ∧
  ∀ sessionId, (∀ suffix, sessionId ≠ userId ++ ":" ++ suffix) →
    config.isSessionRevoked server before sessionId = false →
    ∀ elapsed, config.isSessionRevoked server (server.advance after elapsed) sessionId = false

/-- The session is revoked already, and found, or revoked for long enough. -/
def RevokedAlready (config : RevocationConfig) (server : Server) (store : server.State)
    (userId sessionId : String) : Prop :=
  ∃ value deadline, server.live store (config.key sessionId) = some (value, deadline) ∧
    (server.keysMatch (config.pattern userId) (config.key sessionId) = true ∨
      server.deadline store config.sessionTtl ≤ deadline)

variable {userId reason revokedBy : String} {count : Nat}

/-- No session becomes revoked at all. -/
theorem isSessionRevoked_revokeAllUserSessions
    (h : (config.revokeAllUserSessions server store userId reason revokedBy).1 = some count)
    {sessionId : String} (hnot : config.isSessionRevoked server store sessionId = false)
    (elapsed : Nat) :
    config.isSessionRevoked server (server.advance
      (config.revokeAllUserSessions server store userId reason revokedBy).2 elapsed)
      sessionId = false := by
  obtain ⟨-, hlive⟩ := live_revokeAllUserSessions h
  rw [isSessionRevoked] at hnot
  rw [isSessionRevoked, Bool.eq_false_iff]
  intro hexists
  obtain ⟨value, deadline, hentry, -⟩ := Server.exists_advance_iff.mp hexists
  rw [hlive, hnot, if_neg (by simp)] at hentry
  have hstill : server.exists_ store (config.key sessionId) = true :=
    Server.exists_iff.mpr ⟨value, deadline, hentry⟩
  rw [hnot] at hstill
  contradiction

/-- A session is revoked for the whole `session_ttl` only if it was revoked
already. -/
theorem revoked_iff_revokedAlready
    (h : (config.revokeAllUserSessions server store userId reason revokedBy).1 = some count)
    (sessionId : String) :
    (∀ elapsed < 1000 * config.sessionTtl.toNat, config.isSessionRevoked server (server.advance
      (config.revokeAllUserSessions server store userId reason revokedBy).2 elapsed)
      sessionId = true) ↔
    (0 < config.sessionTtl → config.RevokedAlready server store userId sessionId) := by
  obtain ⟨hnow, hlive⟩ := live_revokeAllUserSessions h
  simp only [isSessionRevoked, Server.exists_advance_iff, hlive, hnow]
  constructor
  · intro hrevoked httl
    -- the last moment at which the session has to be revoked
    obtain ⟨value, deadline, hentry, hlater⟩ :=
      hrevoked (1000 * config.sessionTtl.toNat - 1) (by omega)
    by_cases hfound : server.exists_ store (config.key sessionId) = true ∧
        server.keysMatch (config.pattern userId) (config.key sessionId) = true
    · obtain ⟨value', deadline', hentry'⟩ := Server.exists_iff.mp hfound.1
      exact ⟨value', deadline', hentry', .inl hfound.2⟩
    · rw [if_neg hfound] at hentry
      refine ⟨value, deadline, hentry, .inr ?_⟩
      rw [Server.deadline]
      omega
  · intro halready elapsed helapsed
    obtain ⟨value, deadline, hentry, hkept⟩ := halready (by omega)
    have hdeadline : server.now store + elapsed < server.deadline store config.sessionTtl := by
      rw [Server.deadline]
      omega
    by_cases hmatch : server.keysMatch (config.pattern userId) (config.key sessionId) = true
    · rw [if_pos ⟨Server.exists_iff.mpr ⟨value, deadline, hentry⟩, hmatch⟩]
      exact ⟨_, _, rfl, hdeadline⟩
    · rw [if_neg fun hfound => hmatch hfound.2]
      exact ⟨value, deadline, hentry, Nat.lt_of_lt_of_le hdeadline (hkept.resolve_left hmatch)⟩

/-- **Revoking a user revokes all sessions** if they are revoked already, and
only then. -/
theorem revokesAll_iff
    (h : (config.revokeAllUserSessions server store userId reason revokedBy).1 = some count)
    (active : Set String) :
    config.RevokesAll server store
        (config.revokeAllUserSessions server store userId reason revokedBy).2 userId active ↔
      ∀ sessionId ∈ active, 0 < config.sessionTtl →
        config.RevokedAlready server store userId sessionId := by
  constructor
  · intro hall sessionId hactive
    exact (revoked_iff_revokedAlready h sessionId).mp (hall.1 sessionId hactive)
  · intro hall
    exact ⟨fun sessionId hactive =>
        (revoked_iff_revokedAlready h sessionId).mpr (hall sessionId hactive),
      fun _ _ hnot elapsed => isSessionRevoked_revokeAllUserSessions h hnot elapsed⟩

/-- A session that is revoked for a few minutes more. -/
def revokedBefore : Store :=
  ⟨0, [("security:revoked_sessions:alice:1", ("", 60000))], by decide⟩

/-- The pattern finds its key, so the session is revoked for the whole `session_ttl`. -/
theorem revokesAll_found :
    (RevocationConfig.mk 1800 "security:revoked_sessions").RevokesAll .prefixes revokedBefore
      (RevocationConfig.revokeAllUserSessions {} .prefixes revokedBefore "alice" "left" "admin").2
      "alice" {"alice:1"} := by
  have hcount : (RevocationConfig.revokeAllUserSessions {} .prefixes revokedBefore "alice" "left"
      "admin").1 = some 1 := by decide
  refine (revokesAll_iff hcount {"alice:1"}).mpr ?_
  intro sessionId hactive _
  cases hactive
  exact ⟨"", 60000, by decide, .inl (by decide)⟩

/-- No session is revoked, so none is found. -/
theorem not_revokesAll_empty :
    ¬ ∀ (config : RevocationConfig) (server : Server) (store : server.State)
        (userId reason revokedBy : String) (active : Set String),
      (∀ sessionId ∈ active, ∃ suffix, sessionId = userId ++ ":" ++ suffix) →
      (config.revokeAllUserSessions server store userId reason revokedBy).1.isSome = true →
      config.RevokesAll server store
        (config.revokeAllUserSessions server store userId reason revokedBy).2 userId active := by
  intro h
  have hall := h {} .prefixes (.start 0) "alice" "left" "admin" {"alice:1"}
    (fun sessionId hactive => ⟨"1", hactive⟩) (by decide)
  exact absurd (hall.1 "alice:1" rfl 0 (by decide)) (by decide)

end RevocationConfig

end DbGateway.Incident
