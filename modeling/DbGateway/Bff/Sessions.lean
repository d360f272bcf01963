import DbGateway.Bff.System

/-!
# DbGateway.Bff.Sessions

The calls that were made of the session store, and what they say of a session: that it
was created, that it is read, that it is over for good.  A shared state is sound if the
store is what the calls have made it, and every signed cookie names a session that was
created.
-/

namespace DbGateway.Bff

open Json (PythonFloat)
open Url (PythonUrls)
open Session (Time Backend Event Payload leases clock Allowed)
open Runs (Throughout)

section

variable [Python] [PythonFloat]

/-! ## Sessions in the log -/

/-- A session with the identifier has been created. -/
def Created (log : List Event) (id : String) : Prop :=
  ∃ call, Event.create call ∈ log ∧ call.sessionId.text = id

/-- A session that was there and is not read any more. -/
def Over (start : Time) (log : List Event) (id : String) : Prop :=
  Created log id ∧ (leases start log).read id = none

variable {start : Time} {log more : List Event} {id : String}

theorem Created.append (h : Created log id) (more : List Event) : Created (log ++ more) id := by
  obtain ⟨call, hcall, hid⟩ := h
  exact ⟨call, List.mem_append_left _ hcall, hid⟩

theorem Created.ne_empty (h : Created log id) : id ≠ "" := by
  obtain ⟨call, -, rfl⟩ := h
  exact call.sessionId.text_ne

/-- What is over stays over. -/
theorem Over.append (h : Over start log id) (hallowed : Throughout (Allowed start) (log ++ more)) :
    Over start (log ++ more) id := by
  obtain ⟨hcreated, hread⟩ := h
  refine ⟨hcreated.append more, ?_⟩
  obtain ⟨call, hcall, rfl⟩ := hcreated
  have horderly := Session.orderly_of_allowed hallowed
  rw [List.map_append] at horderly
  show (Lease.after start ((log ++ more).map Event.lease)).read _ = none
  rw [List.map_append]
  exact Lease.read_after_append horderly (List.mem_map_of_mem hcall) hread

/-- A session is over when it has been revoked. -/
theorem Created.over_revoke (h : Created log id) :
    Over start (log ++ [.revoke (some id)]) id := by
  refine ⟨h.append _, ?_⟩
  rw [Session.leases_concat, Lease.State.read_eq_none_iff]
  intro lease hheld
  rw [Event.lease, Option.getD_some, Lease.State.held_revoke, if_pos rfl] at hheld
  contradiction

/-- No two sessions have one identifier. -/
theorem create_unique (hallowed : Throughout (Allowed start) log) {call call' : Session.Create}
    (hcall : Event.create call ∈ log) (hcall' : Event.create call' ∈ log)
    (hid : call.sessionId.text = call'.sessionId.text) : call = call' := by
  induction log using List.reverseRecOn with
  | nil => contradiction
  | append_singleton log event ih =>
      obtain ⟨hbefore, hevent⟩ := Runs.throughout_concat.mp hallowed
      rcases List.mem_append.mp hcall with hold | hnew
      · rcases List.mem_append.mp hcall' with hold' | hnew'
        · exact ih hbefore hold hold'
        · obtain rfl := List.mem_singleton.mp hnew'
          exact absurd hid (hevent.1 call hold)
      · obtain rfl := List.mem_singleton.mp hnew
        rcases List.mem_append.mp hcall' with hold' | hnew'
        · exact absurd hid.symm (hevent.1 call' hold')
        · exact (Event.create.inj (List.mem_singleton.mp hnew')).symm

/-- What is in the payload of a session. -/
theorem payload_eq {call : Session.Create} {now : Time} {payload : Payload}
    (h : call.payload now = some payload) :
    payload.user = call.user ∧ payload.accessToken = call.accessToken ∧
      payload.csrfToken = call.csrfToken := by
  obtain ⟨expiresAt, -, rfl⟩ := Option.map_eq_some_iff.mp h
  exact ⟨rfl, rfl, rfl⟩

/-- A session that is read, by the call that created it. -/
structure Live (start : Time) (log : List Event) (call : Session.Create) (payload : Payload) :
    Prop where
  created : ∃ before rest, log = before ++ .create call :: rest ∧
    call.payload (clock start before) = some payload ∧
    Event.revoke (some call.sessionId.text) ∉ rest
  unexpired : clock start log < payload.expiresAt

theorem live_iff (hallowed : Throughout (Allowed start) log) {payload : Payload} :
    (leases start log).read id = some payload ↔
      ∃ call, call.sessionId.text = id ∧ Live start log call payload := by
  rw [Session.read_leases_iff hallowed]
  constructor
  · intro ⟨before, call, rest, hlog, hid, hpayload, hrevoked, hexpires⟩
    rw [← hid] at hrevoked
    exact ⟨call, hid, ⟨before, rest, hlog, hpayload, hrevoked⟩, hexpires⟩
  · intro ⟨call, hid, ⟨before, rest, hlog, hpayload, hrevoked⟩, hexpires⟩
    rw [hid] at hrevoked
    exact ⟨before, call, rest, hlog, hid, hpayload, hrevoked, hexpires⟩

theorem Live.mem {call : Session.Create} {payload : Payload} (h : Live start log call payload) :
    Event.create call ∈ log := by
  obtain ⟨before, rest, rfl, -, -⟩ := h.created
  exact List.mem_append_right _ List.mem_cons_self

/-! ## The shared state -/

/-- A cookie that names a session names one that was created, and has no user. -/
def BrowserSession.Known (log : List Event) (session : BrowserSession) : Prop :=
  ∀ id, session.sessionId = some id → Created log id ∧ session.user = none

/-- A session that a login has created: its user has a tenant, and there is a token. -/
structure FromLogin (call : Session.Create) : Prop where
  tenant : ∃ orgId, call.user.fields.get? "org_id" = some (.str orgId) ∧ strip orgId ≠ ""
  accessToken_ne : call.accessToken ≠ ""

structure Sound (backend : Backend) (start : Time) (s : Shared) : Prop where
  world : s.world = Session.after backend start s.log
  allowed : Throughout (Allowed start) s.log
  issued : ∀ session ∈ s.issued, session.Known s.log
  login : ∀ call, Event.create call ∈ s.log → FromLogin call

/-- What a segment adds to the shared state. -/
structure Extends (start : Time) (s s' : Shared) : Prop where
  log : ∃ more, s'.log = s.log ++ more
  issued : s.issued ⊆ s'.issued
  allowed : Throughout (Allowed start) s'.log

variable {backend : Backend} {s s' : Shared} {session : BrowserSession}

theorem BrowserSession.Known.append (h : session.Known log) (more : List Event) :
    session.Known (log ++ more) := by
  intro id hid
  obtain ⟨hcreated, huser⟩ := h id hid
  exact ⟨hcreated.append more, huser⟩

theorem known_empty : BrowserSession.empty.Known log := by
  intro id hid
  contradiction

/-- Only the identifier and the user matter. -/
theorem BrowserSession.Known.congr {session' : BrowserSession} (h : session.Known log)
    (hid : session'.sessionId = session.sessionId) (huser : session'.user = session.user) :
    session'.Known log := by
  intro id hsession
  obtain ⟨hcreated, hnone⟩ := h id (hid ▸ hsession)
  exact ⟨hcreated, huser ▸ hnone⟩

/-- An identifier that was created is shown. -/
theorem BrowserSession.Known.shownId_eq (h : session.Known log) :
    session.shownId = session.sessionId := by
  rw [BrowserSession.shownId]
  cases hid : session.sessionId with
  | none => rfl
  | some id =>
      have hne := (h id hid).1.ne_empty
      simp [hne]

theorem Extends.known (h : Extends start s s') (hknown : session.Known s.log) :
    session.Known s'.log := by
  obtain ⟨more, hlog⟩ := h.log
  rw [hlog]
  exact hknown.append more

theorem Extends.over (h : Extends start s s') (hover : Over start s.log id) :
    Over start s'.log id := by
  obtain ⟨more, hlog⟩ := h.log
  rw [hlog]
  exact hover.append (hlog ▸ h.allowed)

theorem Extends.mem (h : Extends start s s') {event : Event} (hevent : event ∈ s.log) :
    event ∈ s'.log := by
  obtain ⟨more, hlog⟩ := h.log
  rw [hlog]
  exact List.mem_append_left _ hevent

theorem Extends.mem_issued (h : Extends start s s') (hsession : session ∈ s.issued) :
    session ∈ s'.issued := h.issued hsession

theorem Extends.trans {s'' : Shared} (h : Extends start s s') (h' : Extends start s' s'') :
    Extends start s s'' where
  log := by
    obtain ⟨more, hlog⟩ := h.log
    obtain ⟨more', hlog'⟩ := h'.log
    exact ⟨more ++ more', by rw [hlog', hlog, List.append_assoc]⟩
  issued := List.Subset.trans h.issued h'.issued
  allowed := h'.allowed

/-- Cookies of earlier releases name no session. -/
theorem sound_start {legacy : List BrowserSession}
    (hlegacy : ∀ session ∈ legacy, session.sessionId = none) :
    Sound backend start (.start start legacy) where
  world := rfl
  allowed := Runs.throughout_nil _
  issued := by
    intro session hsession id hid
    cases (hlegacy session hsession).symm.trans hid
  login := fun call hcall => absurd hcall List.not_mem_nil

/-! ## What is done to it -/

@[simp] theorem Shared.sign_log (s : Shared) (session : BrowserSession) :
    (s.sign session).log = s.log := by
  unfold Shared.sign
  split <;> rfl

@[simp] theorem Shared.finish_log (s : Shared) (t : Task) (next : Next) :
    (s.finish t next).1.log = s.log := by
  cases next with
  | respond response => exact s.sign_log t.session
  | _ => rfl

/-- Another event is recorded. -/
theorem Sound.record (h : Sound backend start s) {event : Event}
    (hallowed : Allowed start s.log event)
    (hlogin : ∀ call, event = .create call → FromLogin call) :
    Sound backend start (s.record backend event) where
  world := by
    show Session.step backend s.world event = Session.after backend start (s.log ++ [event])
    rw [h.world, Session.after, Session.after, Runs.after_concat]
  allowed := Runs.throughout_concat.mpr ⟨h.allowed, hallowed⟩
  issued := fun session hsession => (h.issued session hsession).append [event]
  login := by
    intro call hcall
    rcases List.mem_append.mp hcall with hold | hnew
    · exact h.login call hold
    · exact hlogin call (List.mem_singleton.mp hnew).symm

theorem Sound.sign (h : Sound backend start s) (hknown : session.Known s.log) :
    Sound backend start (s.sign session) := by
  unfold Shared.sign
  split
  · exact h
  · refine ⟨h.world, h.allowed, fun other hmem => ?_, h.login⟩
    rcases List.mem_append.mp hmem with hold | hnew
    · exact h.issued other hold
    · rw [List.mem_singleton.mp hnew]
      exact hknown

theorem Sound.extends_record (h : Sound backend start s) {event : Event}
    (hallowed : Allowed start s.log event) : Extends start s (s.record backend event) where
  log := ⟨[event], rfl⟩
  issued := List.Subset.refl _
  allowed := Runs.throughout_concat.mpr ⟨h.allowed, hallowed⟩

theorem Sound.extends_sign (h : Sound backend start s) (session : BrowserSession) :
    Extends start s (s.sign session) where
  log := ⟨[], by rw [Shared.sign_log, List.append_nil]⟩
  issued := by
    unfold Shared.sign
    split
    · exact List.Subset.refl _
    · exact List.subset_append_left _ _
  allowed := by
    rw [Shared.sign_log]
    exact h.allowed

/-- A cookie that is signed in both. -/
theorem Extends.sign (h : Extends start s s') (session : BrowserSession) :
    Extends start (s.sign session) (s'.sign session) where
  log := by
    rw [Shared.sign_log, Shared.sign_log]
    exact h.log
  issued := by
    unfold Shared.sign
    split
    · exact h.issued
    · exact List.append_subset.mpr ⟨List.Subset.trans h.issued (List.subset_append_left _ _),
        List.subset_append_right _ _⟩
  allowed := by
    rw [Shared.sign_log]
    exact h.allowed

theorem Sound.extends_refl (h : Sound backend start s) : Extends start s s where
  log := ⟨[], (List.append_nil _).symm⟩
  issued := List.Subset.refl _
  allowed := h.allowed

/-- A session is read as the map of leases reads it. -/
theorem Sound.get_eq (h : Sound backend start s) (sessionId : Option String) :
    s.get backend sessionId =
      (.ok (((leases start s.log).read (sessionId.getD "")).map Payload.dict),
        s.record backend (.get sessionId)) := by
  have hget := ((Session.simulates_after backend h.allowed).get sessionId).1
  rw [← h.world] at hget
  rw [Shared.get, hget]

/-! ## What a segment logs -/

variable {settings : Settings} {t t' : Task}

theorem Task.lookUp_log {reading : Reading} :
    (t.lookUp backend s reading).1.log = s.log ++ [.get t.session.sessionId] := by
  rw [Task.lookUp]
  split
  · next s' h =>
      rw [Shared.finish_log, ← (Prod.mk.inj h).2]
      rfl
  · next found s' h =>
      rw [← (Prod.mk.inj h).2]
      rfl

theorem Task.login_log {verifier nonce : String} {oauthState : Dict Json}
    {outcome : Except String String} :
    (t.login s verifier nonce oauthState outcome).1.log = s.log := by
  cases outcome with
  | ok location => exact Shared.finish_log _ _ _
  | error text => exact Shared.finish_log _ _ _

theorem Task.create_log {login : Login} {call : Session.Create} :
    (t.create backend s login call).1.log = s.log ++ [.create call] := by
  rw [Task.create]
  split
  · next s' h =>
      rw [Shared.finish_log, ← (Prod.mk.inj h).2]
      rfl
  · next id s' h =>
      rw [Shared.finish_log, ← (Prod.mk.inj h).2]
      rfl

/-- A request that is about to revoke a session. -/
def Stage.Revokes : Stage → Prop
  | .exchanged _ | .revoking => True
  | _ => False

/-- What a segment may log: only a session of its own request is revoked, and only where
a route does so. -/
structure Logs (t : Task) (log log' : List Event) : Prop where
  more : ∃ events, log' = log ++ events ∧
    ∀ id, Event.revoke id ∈ events → id = t.session.sessionId ∧ t.stage.Revokes

theorem logs_nothing (t : Task) (log : List Event) : Logs t log log :=
  ⟨[], (List.append_nil _).symm, fun _ h => absurd h List.not_mem_nil⟩

theorem logs_one (t : Task) (log : List Event) {event : Event} (hevent : ∀ id, event ≠ .revoke id) :
    Logs t log (log ++ [event]) :=
  ⟨[event], rfl, fun id h => absurd (List.mem_singleton.mp h).symm (hevent id)⟩

theorem logs_revoke (log : List Event) (hstage : t.stage.Revokes) :
    Logs t log (log ++ [.revoke t.session.sessionId]) :=
  ⟨[_], rfl, fun _ h => ⟨Event.revoke.inj (List.mem_singleton.mp h), hstage⟩⟩

theorem Task.enter_log {wake : Wake} {after : Shared × Task}
    (h : t.enter settings backend s wake = some after) : Logs t s.log after.1.log := by
  unfold Task.enter at h
  split at h
  case h_1 =>
    rw [← Option.some.inj h, Task.login_log]
    exact logs_nothing t s.log
  case h_2 =>
    rw [← Option.some.inj h, Shared.finish_log]
    exact logs_nothing t s.log
  case h_3 =>
    split at h
    · rw [← Option.some.inj h, Task.lookUp_log]
      exact logs_one t s.log fun id hid => by cases hid
    · rw [← Option.some.inj h]
      exact logs_nothing t s.log
  case h_4 =>
    rw [← Option.some.inj h, Shared.finish_log]
    exact logs_nothing t s.log
  case h_5 =>
    rw [← Option.some.inj h, Task.lookUp_log]
    exact logs_one t s.log fun id hid => by cases hid
  case h_6 => contradiction

variable [PythonUrls]

theorem Task.advance_log {wake : Wake} {after : Shared × Task}
    (h : t.advance settings backend s wake = some after) : Logs t s.log after.1.log := by
  unfold Task.advance at h
  split at h
  case h_1 =>
    rw [← Option.some.inj h]
    exact logs_nothing t s.log
  case h_2 => exact Task.enter_log h
  case h_3 =>
    rw [← Option.some.inj h, Shared.finish_log]
    exact logs_nothing t s.log
  case h_4 hexchanged =>
    rw [← Option.some.inj h]
    refine logs_revoke s.log ?_
    rw [hexchanged]
    trivial
  case h_5 =>
    rw [← Option.some.inj h, Task.create_log]
    exact logs_one t s.log fun id hid => by cases hid
  case h_6 =>
    rw [← Option.some.inj h, Task.lookUp_log]
    exact logs_one t s.log fun id hid => by cases hid
  case h_7 =>
    rw [← Option.some.inj h, Task.lookUp_log]
    exact logs_one t s.log fun id hid => by cases hid
  case h_8 =>
    rw [← Option.some.inj h]
    exact logs_nothing t s.log
  case h_9 hrevoking =>
    rw [← Option.some.inj h, Shared.finish_log]
    refine logs_revoke s.log ?_
    rw [hrevoking]
    trivial
  case h_15 => contradiction
  -- the answers of other services
  all_goals
    rw [← Option.some.inj h, Shared.finish_log]
    exact logs_nothing t s.log

end

end DbGateway.Bff
