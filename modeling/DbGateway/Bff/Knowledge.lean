import DbGateway.Bff.Sessions

/-!
# DbGateway.Bff.Knowledge

What a request of the browser-facing API knows where it waits, in every interleaving
with the others (`Reachable.sound`): that the session its cookie names is over when it
has been revoked, that it was safe to log out of, and what was handed over with a login.

No other request can undo what one knows.  Each segment is shown to keep this by what
its route does.
-/

namespace DbGateway.Bff

open Json (PythonFloat)
open Url (PythonUrls)
open Session (Time Backend Event Payload leases clock Allowed)
open Runs (Throughout)

section

variable [Python] [PythonFloat] {start : Time} {backend : Backend} {s s' : Shared} {id : String}
  {settings : Settings} {t t' : Task} [PythonUrls]

/-! ## What a request knows -/

/-- The session that the request's cookie names is over. -/
def Task.CookieOver (start : Time) (s : Shared) (t : Task) : Prop :=
  ∀ id, t.cookie.sessionId = some id → Over start s.log id

/-- The session that the cookie names is over, or the request is safe for it. -/
def Task.Cleared (settings : Settings) (start : Time) (s : Shared) (t : Task) : Prop :=
  ∀ id, t.cookie.sessionId = some id → Over start s.log id ∨
    ∃ call, Event.create call ∈ s.log ∧ call.sessionId.text = id ∧
      CsrfSafe settings t.request call.csrfToken.text

/-- The browser session holds what the call has created, and nothing else. -/
def Task.Holds (s : Shared) (t : Task) (call : Session.Create) : Prop :=
  Event.create call ∈ s.log ∧ t.session = { sessionId := some call.sessionId.text }

/-- What a callback has handed over with its response. -/
structure Task.Handed (settings : Settings) (s : Shared) (t : Task) (response : Response)
    (call : Session.Create) : Prop where
  holds : t.Holds s call
  signed : t.session ∈ s.issued
  csrf : ∀ name value, response.setsCsrf = some (name, value) →
    name = csrfCookieName settings ∧ value = call.csrfToken.text

/-- What a request knows where a route has taken it. -/
def Task.WaitKnown (settings : Settings) (start : Time) (s : Shared) (t : Task) : Stage → Prop
  | .arrived => True
  | .entered => t.session = t.cookie
  | .exchanged _ => t.route = .authCallback ∧ t.session.sessionId = t.cookie.sessionId
  | .creating _ => t.route = .authCallback ∧ t.CookieOver start s
  | .stamping _ => t.route = .authCallback ∧ t.CookieOver start s ∧ ∃ call, t.Holds s call
  | .performingLogout | .revokingToken _ | .revoking =>
      t.route = .logoutPost ∧ t.session.sessionId = t.cookie.sessionId ∧
        t.Cleared settings start s
  | .finished (some response) => response.status = 200 →
      (t.route = .logoutPost → t.CookieOver start s) ∧
      (t.route = .authCallback → t.CookieOver start s ∧ ∃ call, t.Handed settings s response call)
  | .finished none => True
  -- no route awaits what it has read
  | .read _ _ => False
  | _ => ∃ route, t.route = .user route

/-- What a request knows where a route goes on. -/
def Task.NextKnown (settings : Settings) (start : Time) (s : Shared) (t : Task) : Next → Prop
  | .await stage => t.WaitKnown settings start s stage
  | .respond response => t.WaitKnown settings start (s.sign t.session) (.finished (some response))
  | .raised => True

/-- What a request knows where it waits: with a session it has read, what it will know
when it goes on. -/
def Task.StageKnown (settings : Settings) (start : Time) (s : Shared) (t : Task) : Stage → Prop
  | .read reading found =>
      t.NextKnown settings start s (reading.next settings t.request t.session found)
  | stage => t.WaitKnown settings start s stage

structure Task.Knows (settings : Settings) (start : Time) (s : Shared) (t : Task) : Prop where
  cookie : t.cookie.Known s.log
  session : t.session.Known s.log
  stage : t.StageKnown settings start s t.stage

omit [PythonUrls] in
theorem Extends.cookieOver (h : Extends start s s') (hover : t.CookieOver start s) :
    t.CookieOver start s' := fun id hid => h.over (hover id hid)

omit [PythonUrls] in
theorem Extends.holds (h : Extends start s s') {call : Session.Create} (hholds : t.Holds s call) :
    t.Holds s' call := ⟨h.mem hholds.1, hholds.2⟩

theorem Extends.cleared (h : Extends start s s') (hcleared : t.Cleared settings start s) :
    t.Cleared settings start s' := by
  intro id hid
  rcases hcleared id hid with hover | ⟨call, hcall, hsame, hsafe⟩
  · exact .inl (h.over hover)
  · exact .inr ⟨call, h.mem hcall, hsame, hsafe⟩

theorem Extends.waitKnown (h : Extends start s s') {stage : Stage}
    (hknown : t.WaitKnown settings start s stage) : t.WaitKnown settings start s' stage := by
  cases stage with
  | creating login => exact ⟨hknown.1, h.cookieOver hknown.2⟩
  | stamping login =>
      obtain ⟨hroute, hover, call, hholds⟩ := hknown
      exact ⟨hroute, h.cookieOver hover, call, h.holds hholds⟩
  | performingLogout => exact ⟨hknown.1, hknown.2.1, h.cleared hknown.2.2⟩
  | revokingToken accessToken => exact ⟨hknown.1, hknown.2.1, h.cleared hknown.2.2⟩
  | revoking => exact ⟨hknown.1, hknown.2.1, h.cleared hknown.2.2⟩
  | finished response =>
      cases response with
      | none => trivial
      | some response =>
          intro hstatus
          obtain ⟨hlogout, hcallback⟩ := hknown hstatus
          refine ⟨fun hroute => h.cookieOver (hlogout hroute), fun hroute => ?_⟩
          obtain ⟨hover, call, hholds, hsigned, hcsrf⟩ := hcallback hroute
          exact ⟨h.cookieOver hover, call, h.holds hholds, h.mem_issued hsigned, hcsrf⟩
  | _ => exact hknown

theorem Extends.nextKnown (h : Extends start s s') {next : Next}
    (hknown : t.NextKnown settings start s next) : t.NextKnown settings start s' next := by
  cases next with
  | await stage => exact h.waitKnown hknown
  | respond response =>
      have hresponse : t.WaitKnown settings start (s.sign t.session) (.finished (some response)) :=
        hknown
      exact (h.sign t.session).waitKnown hresponse
  | raised => trivial

theorem Task.WaitKnown.stageKnown {stage : Stage} (h : t.WaitKnown settings start s stage) :
    t.StageKnown settings start s stage := by
  cases stage with
  | read reading found => exact h.elim
  | _ => exact h

theorem Task.StageKnown.waitKnown {stage : Stage} (h : t.StageKnown settings start s stage)
    (hread : ∀ reading found, stage ≠ .read reading found) :
    t.WaitKnown settings start s stage := by
  cases stage with
  | read reading found => exact absurd rfl (hread reading found)
  | _ => exact h

/-- No segment undoes what another request knows. -/
theorem Extends.stageKnown (h : Extends start s s') {stage : Stage}
    (hknown : t.StageKnown settings start s stage) : t.StageKnown settings start s' stage := by
  cases stage with
  | read reading found => exact h.nextKnown hknown
  | _ => exact (h.waitKnown (hknown.waitKnown fun _ _ hread => by cases hread)).stageKnown

theorem Extends.knows (h : Extends start s s') (hknows : t.Knows settings start s) :
    t.Knows settings start s' :=
  ⟨h.known hknows.cookie, h.known hknows.session, h.stageKnown hknows.stage⟩

/-! ## One segment -/

/-- What a request knows does not depend on where it waits now. -/
theorem Task.WaitKnown.withStage {stage : Stage} (h : t.WaitKnown settings start s stage)
    (stage' : Stage) : { t with stage := stage' }.WaitKnown settings start s stage := by
  cases stage with
  | finished response =>
      cases response with
      | none => trivial
      | some response =>
          intro hstatus
          obtain ⟨hlogout, hcallback⟩ := h hstatus
          refine ⟨hlogout, fun hroute => ?_⟩
          obtain ⟨hover, call, hholds, hsigned, hcsrf⟩ := hcallback hroute
          exact ⟨hover, call, hholds, hsigned, hcsrf⟩
  | _ => exact h

theorem Task.NextKnown.withStage {next : Next} (h : t.NextKnown settings start s next)
    (stage' : Stage) : { t with stage := stage' }.NextKnown settings start s next := by
  cases next with
  | await stage =>
      have hknown : t.WaitKnown settings start s stage := h
      exact hknown.withStage stage'
  | respond response =>
      have hknown : t.WaitKnown settings start (s.sign t.session) (.finished (some response)) := h
      exact hknown.withStage stage'
  | raised => trivial

/-- A segment keeps the shared state sound, and the request knows what it should. -/
structure Keeps (settings : Settings) (backend : Backend) (start : Time) (s : Shared)
    (after : Shared × Task) : Prop where
  sound : Sound backend start after.1
  knows : after.2.Knows settings start after.1
  more : Extends start s after.1

theorem Keeps.trans {after : Shared × Task} (hmore : Extends start s s')
    (h : Keeps settings backend start s' after) : Keeps settings backend start s after :=
  ⟨h.sound, h.knows, hmore.trans h.more⟩

theorem Sound.keeps_finish (h : Sound backend start s) (hcookie : t.cookie.Known s.log)
    (hsession : t.session.Known s.log) {next : Next} (hnext : t.NextKnown settings start s next) :
    Keeps settings backend start s (s.finish t next) := by
  cases next with
  | await stage =>
      have hknown : t.WaitKnown settings start s stage := hnext
      exact ⟨h, ⟨hcookie, hsession, (hknown.withStage stage).stageKnown⟩, h.extends_refl⟩
  | respond response =>
      have hmore := h.extends_sign t.session
      have hknown : t.WaitKnown settings start (s.sign t.session) (.finished (some response)) :=
        hnext
      exact ⟨h.sign hsession, ⟨hmore.known hcookie, hmore.known hsession,
        hknown.withStage _⟩, hmore⟩
  | raised => exact ⟨h, ⟨hcookie, hsession, trivial⟩, h.extends_refl⟩

/-- A route that has read its session. -/
theorem Sound.keeps_lookUp (h : Sound backend start s) (hcookie : t.cookie.Known s.log)
    (hsession : t.session.Known s.log) {reading : Reading}
    (hnext : ∀ s', Extends start s s' →
      (leases start s'.log).read = (leases start s.log).read →
      t.NextKnown settings start s' (reading.next settings t.request t.session
        (((leases start s.log).read (t.session.sessionId.getD "")).map Payload.dict))) :
    Keeps settings backend start s (t.lookUp backend s reading) := by
  have hallowed : Allowed start s.log (.get t.session.sessionId) := trivial
  have hmore := h.extends_record hallowed
  have hsound := h.record hallowed fun call hcall => by cases hcall
  have hread : (leases start (s.log ++ [.get t.session.sessionId])).read =
      (leases start s.log).read := by
    rw [Session.leases_concat]
    rfl
  rw [Task.lookUp, h.get_eq]
  exact ⟨hsound, ⟨hmore.known hcookie, hmore.known hsession, (hnext _ hmore hread).withStage _⟩,
    hmore⟩

/-- A response that is no success tells nothing. -/
theorem waitKnown_of_status {response : Response} (hstatus : response.status ≠ 200) :
    t.WaitKnown settings start s (.finished (some response)) := fun h => absurd h hstatus

/-- A route that serves a user awaits only what serves it. -/
theorem nextKnown_of_route {route : UserRoute} (hroute : t.route = .user route) {next : Next}
    (hnext : ∀ stage, next = .await stage → t.WaitKnown settings start s stage) :
    t.NextKnown settings start s next := by
  cases next with
  | await stage => exact hnext stage rfl
  | respond response =>
      refine fun _ => ⟨fun h => ?_, fun h => ?_⟩
      · cases hroute.symm.trans h
      · cases hroute.symm.trans h
  | raised => trivial

theorem Stage.Serving.known {stage : Stage} (h : stage.Serving) {route : UserRoute}
    (hroute : t.route = .user route) : t.WaitKnown settings start s stage := by
  cases stage with
  | forwarding headers content => exact ⟨route, hroute⟩
  | converting query execute accessToken databaseId => exact ⟨route, hroute⟩
  | greeting user => exact ⟨route, hroute⟩
  | fetchingUsage orgId => exact ⟨route, hroute⟩
  | _ => exact h.elim

/-! ## One segment of each kind -/

/-- The callback, when Auth0 has answered. -/
theorem Sound.keeps_exchanged (h : Sound backend start s) (hknows : t.Knows settings start s)
    (hentered : t.session = t.cookie) (hroute : t.route = .authCallback)
    (oauthState : Dict Json) (outcome : Exchange) :
    Keeps settings backend start s
      (s.finish { t with session := { popLogin t.session outcome with oauthState } }
        (authCallback settings t.session outcome)) := by
  have hid : (popLogin t.session outcome).sessionId = t.session.sessionId := by
    cases outcome <;> rfl
  have huser : (popLogin t.session outcome).user = t.session.user := by cases outcome <;> rfl
  have hsession : BrowserSession.Known s.log { popLogin t.session outcome with oauthState } :=
    hknows.session.congr hid huser
  refine h.keeps_finish ?_ hsession ?_
  · exact hknows.cookie
  cases outcome with
  | oauthError error description => exact waitKnown_of_status (by simp)
  | failed text => exact waitKnown_of_status (by simp)
  | token token =>
      rw [authCallback]
      cases hcheck : checkToken settings t.session.oidcNonce token with
      | error response =>
          cases response with
          | none => trivial
          | some response => exact waitKnown_of_status (status_of_checkToken hcheck)
      | ok login =>
          dsimp only
          rw [hknows.session.shownId_eq]
          have hcookie := congrArg BrowserSession.sessionId hentered
          cases hsessionId : t.session.sessionId with
          | some id => exact ⟨hroute, hcookie⟩
          | none =>
              refine ⟨hroute, fun id hsome => ?_⟩
              cases hsessionId.symm.trans (hcookie.trans hsome)

/-- The callback has revoked the session of the cookie. -/
theorem Sound.keeps_revokedPrevious (h : Sound backend start s) (hknows : t.Knows settings start s)
    {login : Login} (hroute : t.route = .authCallback)
    (hid : t.session.sessionId = t.cookie.sessionId) :
    Keeps settings backend start s
      (s.record backend (.revoke t.session.sessionId), { t with stage := .creating login }) := by
  have hallowed : Allowed start s.log (.revoke t.session.sessionId) := trivial
  have hmore := h.extends_record hallowed
  have hover : t.CookieOver start (s.record backend (.revoke t.session.sessionId)) := by
    intro id hsome
    rw [hid, hsome]
    exact (hknows.cookie id hsome).1.over_revoke
  exact ⟨h.record hallowed (fun call hcall => by cases hcall),
    ⟨hmore.known hknows.cookie, hmore.known hknows.session, hroute, hover⟩, hmore⟩

omit [PythonUrls] in
/-- `create_session` returns the identifier it has drawn. -/
theorem createSession_ok {world : Session.World} {call : Session.Create}
    (h : (Session.createSession backend world call).1 = .ok id) : id = call.sessionId.text := by
  unfold Session.createSession at h
  split at h
  · contradiction
  · split at h
    · split at h
      · contradiction
      · exact (Except.ok.inj h).symm
    · exact (Except.ok.inj h).symm

/-- The callback has created its session, or failed to. -/
theorem Sound.keeps_create (h : Sound backend start s) (hknows : t.Knows settings start s)
    {login : Login} (hroute : t.route = .authCallback) (hover : t.CookieOver start s)
    {call : Session.Create} (huser : call.user = login.user)
    (haccess : call.accessToken = login.accessToken)
    (hlog : Throughout (Allowed start) (t.create backend s login call).1.log) :
    Keeps settings backend start s (t.create backend s login call) := by
  rw [Task.create_log] at hlog
  have hallowed := (Runs.throughout_concat.mp hlog).2
  have hmore : Extends start s (s.record backend (.create call)) := h.extends_record hallowed
  have hlogin : FromLogin call :=
    ⟨⟨login.orgId, huser ▸ login.user_orgId, login.strip_ne⟩, haccess ▸ login.accessToken_ne⟩
  have hsound := h.record hallowed fun call' hcall => Event.create.inj hcall ▸ hlogin
  have hcreated : Created (s.log ++ [.create call]) call.sessionId.text :=
    ⟨call, List.mem_append_right _ (List.mem_singleton_self _), rfl⟩
  refine .trans hmore ?_
  rw [Task.create]
  split
  · next s' hs =>
      obtain rfl := (Prod.mk.inj hs).2
      refine hsound.keeps_finish ?_ known_empty trivial
      exact hmore.known hknows.cookie
  · next id s' hs =>
      obtain ⟨hresult, rfl⟩ := Prod.mk.inj hs
      obtain rfl := createSession_ok hresult
      have hsession : BrowserSession.Known (s.log ++ [.create call])
          { sessionId := some call.sessionId.text } := by
        intro id hid
        obtain rfl := Option.some.inj hid
        exact ⟨hcreated, rfl⟩
      refine hsound.keeps_finish ?_ ?_ ?_
      · exact hmore.known hknows.cookie
      · exact hsession
      rw [afterCreate]
      split
      · refine ⟨hroute, hmore.cookieOver hover, call, ?_, rfl⟩
        exact List.mem_append_right _ (List.mem_singleton_self _)
      · trivial

omit [PythonUrls] in
/-- The cookie that the callback sets is the token of the session it has read. -/
theorem stamp_csrf {login : Login} {payload : Option Payload} {response : Response}
    (h : stamp settings login (payload.map Payload.dict) = .respond response) {name value : String}
    (hset : response.setsCsrf = some (name, value)) :
    name = csrfCookieName settings ∧ ∃ found, payload = some found ∧
      value = found.csrfToken.text := by
  unfold stamp at h
  split at h
  case h_2 => contradiction
  case h_1 user huser =>
    obtain rfl := Next.respond.inj h
    cases payload with
    | none =>
        have hnone : (setCsrfCookie settings user none).setsCsrf = none :=
          userResponse_setsCsrf huser
        rw [Option.map_none, hnone] at hset
        contradiction
    | some found =>
        rw [Option.map_some, setCsrfCookie_dict] at hset
        obtain ⟨rfl, rfl⟩ := Prod.mk.inj (Option.some.inj hset)
        exact ⟨rfl, found, rfl, rfl⟩

/-- The callback has read the session it has created. -/
theorem Sound.keeps_stamp (h : Sound backend start s) (hknows : t.Knows settings start s)
    {login : Login} (hroute : t.route = .authCallback) (hover : t.CookieOver start s)
    {call : Session.Create} (hholds : t.Holds s call) :
    Keeps settings backend start s (t.lookUp backend s (.stamp login)) := by
  refine h.keeps_lookUp hknows.cookie hknows.session fun s' hmore hread => ?_
  rw [Reading.next]
  cases hstamp : stamp settings login
      (((leases start s.log).read (t.session.sessionId.getD "")).map Payload.dict) with
  | await stage =>
      unfold stamp at hstamp
      split at hstamp <;> contradiction
  | raised => trivial
  | respond response =>
      intro _
      refine ⟨fun hlogout => ?_, fun _ => ?_⟩
      · cases hroute.symm.trans hlogout
      have hnonempty : t.session.isEmpty = false := by
        rw [hholds.2]
        rfl
      have hsigned : t.session ∈ (s'.sign t.session).issued := by
        rw [Shared.sign, hnonempty]
        exact List.mem_append_right _ (List.mem_singleton_self _)
      have hholds' : t.Holds (s'.sign t.session) call := by
        refine ⟨?_, hholds.2⟩
        rw [Shared.sign_log]
        exact hmore.mem hholds.1
      have hover' : t.CookieOver start (s'.sign t.session) := by
        intro id hid
        rw [Shared.sign_log]
        exact hmore.over (hover id hid)
      refine ⟨hover', call, hholds', hsigned, fun name value hset => ?_⟩
      obtain ⟨hname, payload, hpayload, hvalue⟩ := stamp_csrf hstamp hset
      refine ⟨hname, ?_⟩
      obtain ⟨call', hid, hlive⟩ := (live_iff h.allowed).mp hpayload
      rw [hholds.2, Option.getD_some] at hid
      have hsame := create_unique h.allowed hlive.mem hholds.1 hid
      obtain ⟨before, rest, -, hmade, -⟩ := hlive.created
      rw [hvalue, (payload_eq hmade).2.2, hsame]

/-- A session that is found is checked. -/
theorem logoutPost_dict (payload : Payload) :
    logoutPost settings t.request (some payload.dict) =
      match csrfFailureReason settings t.request (some payload.dict) with
      | some reason => .respond (errorResponse 403 reason none none)
      | none => .await .performingLogout := rfl

/-- The logout has read the session of the cookie, and checked the request. -/
theorem Sound.keeps_logoutPost (h : Sound backend start s) (hknows : t.Knows settings start s)
    (hentered : t.session = t.cookie) (hroute : t.route = .logoutPost) :
    Keeps settings backend start s (t.lookUp backend s .logoutPost) := by
  refine h.keeps_lookUp hknows.cookie hknows.session fun s' hmore hread => ?_
  have hcookie := congrArg BrowserSession.sessionId hentered
  cases hfound : (leases start s.log).read (t.session.sessionId.getD "") with
  | none =>
      refine ⟨hroute, hcookie, fun id hid => .inl (hmore.over ⟨(hknows.cookie id hid).1, ?_⟩)⟩
      rwa [hcookie, hid, Option.getD_some] at hfound
  | some payload =>
      rw [Reading.next, Option.map_some, logoutPost_dict]
      split
      · exact waitKnown_of_status (by simp)
      · next hreason =>
          refine ⟨hroute, hcookie, fun id hid => .inr ?_⟩
          rw [hcookie, hid, Option.getD_some] at hfound
          obtain ⟨call, hcall, hlive⟩ := (live_iff h.allowed).mp hfound
          obtain ⟨before, rest, -, hmade, -⟩ := hlive.created
          refine ⟨call, hmore.mem hlive.mem, hcall, ?_⟩
          rw [← (payload_eq hmade).2.2]
          exact csrfFailureReason_dict_iff.mp hreason

/-- The logout has read the session again. -/
theorem Sound.keeps_performLogout (h : Sound backend start s) (hknows : t.Knows settings start s)
    (hroute : t.route = .logoutPost) (hid : t.session.sessionId = t.cookie.sessionId)
    (hcleared : t.Cleared settings start s) :
    Keeps settings backend start s (t.lookUp backend s .performLogout) := by
  refine h.keeps_lookUp hknows.cookie hknows.session fun s' hmore hread => ?_
  rw [Reading.next, performLogout]
  split
  · exact ⟨hroute, hid, hmore.cleared hcleared⟩
  · exact ⟨hroute, hid, hmore.cleared hcleared⟩

/-- The logout has revoked the session. -/
theorem Sound.keeps_loggedOut (h : Sound backend start s) (hknows : t.Knows settings start s)
    (hroute : t.route = .logoutPost) (hid : t.session.sessionId = t.cookie.sessionId) :
    Keeps settings backend start s
      ((s.record backend (.revoke t.session.sessionId)).finish { t with session := .empty }
        (.respond (loggedOut settings))) := by
  have hallowed : Allowed start s.log (.revoke t.session.sessionId) := trivial
  have hmore := h.extends_record hallowed
  have hsound := h.record hallowed fun call hcall => by cases hcall
  refine .trans hmore (hsound.keeps_finish ?_ known_empty ?_)
  · exact hmore.known hknows.cookie
  · intro _
    refine ⟨fun _ id hsome => ?_, fun hcallback => ?_⟩
    · have hsession : t.session.sessionId = some id := hid.trans hsome
      rw [Shared.sign_log, hsession]
      exact (hknows.cookie id hsome).1.over_revoke
    · cases hroute.symm.trans hcallback

/-- A route that serves a user has read its session. -/
theorem Sound.keeps_serve (h : Sound backend start s) (hknows : t.Knows settings start s)
    {route : UserRoute} (hroute : t.route = .user route) :
    Keeps settings backend start s (t.lookUp backend s (.user route)) := by
  refine h.keeps_lookUp hknows.cookie hknows.session fun s' hmore hread => ?_
  exact nextKnown_of_route hroute fun stage hstage => (serve_serving hstage).known hroute

/-- A route that serves a user has its answer. -/
theorem Sound.keeps_answer (h : Sound backend start s) (hknows : t.Knows settings start s)
    (hserving : ∃ route, t.route = .user route) {next : Next}
    (hnext : ∀ stage, next ≠ .await stage) : Keeps settings backend start s (s.finish t next) := by
  obtain ⟨route, hroute⟩ := hserving
  exact h.keeps_finish hknows.cookie hknows.session
    (nextKnown_of_route hroute fun stage hstage => absurd hstage (hnext stage))

/-- A login has been redirected to Auth0, or failed to. -/
theorem Sound.keeps_login (h : Sound backend start s) (hknows : t.Knows settings start s)
    (verifier nonce : String) (oauthState : Dict Json) (outcome : Except String String) :
    Keeps settings backend start s (t.login s verifier nonce oauthState outcome) := by
  have hsession : BrowserSession.Known s.log { t.session with
      pkceVerifier := some verifier, oidcNonce := some nonce, oauthState } :=
    hknows.session.congr rfl rfl
  cases outcome with
  | ok location =>
      rw [Task.login]
      refine h.keeps_finish ?_ ?_ ?_
      · exact hknows.cookie
      · exact hsession
      · exact waitKnown_of_status (by simp)
  | error text =>
      rw [Task.login]
      refine h.keeps_finish ?_ ?_ ?_
      · exact hknows.cookie
      · exact hsession
      · exact waitKnown_of_status (by simp)

/-- A request that has been loaded. -/
theorem Sound.keeps_enter (h : Sound backend start s) (hknows : t.Knows settings start s)
    (hentered : t.session = t.cookie) {wake : Wake}
    (hadvance : t.enter settings backend s wake = some (s', t')) :
    Keeps settings backend start s (s', t') := by
  unfold Task.enter at hadvance
  split at hadvance
  case h_1 =>
    rw [← Option.some.inj hadvance]
    exact h.keeps_login hknows _ _ _ _
  case h_2 hroute =>
    rw [← Option.some.inj hadvance]
    exact h.keeps_exchanged hknows hentered hroute _ _
  case h_3 hroute =>
    split at hadvance
    · rw [← Option.some.inj hadvance]
      exact h.keeps_logoutPost hknows hentered hroute
    · next hshown =>
        rw [hknows.session.shownId_eq] at hshown
        have hcookie := congrArg BrowserSession.sessionId hentered
        rw [← Option.some.inj hadvance]
        refine ⟨h, ⟨hknows.cookie, hknows.session, hroute, hcookie, fun id hid => ?_⟩,
          h.extends_refl⟩
        cases hshown.symm.trans (hcookie.trans hid)
  case h_4 =>
    rw [← Option.some.inj hadvance]
    exact h.keeps_finish hknows.cookie hknows.session (waitKnown_of_status (by simp [logoutGet]))
  case h_5 hroute =>
    rw [← Option.some.inj hadvance]
    exact h.keeps_serve hknows hroute
  case h_6 => contradiction

/-- **Every segment** keeps the shared state sound and what the request knows. -/
theorem Task.advance_keeps (h : Sound backend start s) (hknows : t.Knows settings start s)
    {wake : Wake} (hadvance : t.advance settings backend s wake = some (s', t'))
    (hlog : Throughout (Allowed start) s'.log) : Keeps settings backend start s (s', t') := by
  have hstage := hknows.stage
  unfold Task.advance at hadvance
  split at hadvance
  case h_1 expired harrived =>
    have hcookie : (if expired then BrowserSession.empty else
        (t.presented.bind fun place => s.issued[place]?).getD .empty).Known s.log := by
      split
      · exact known_empty
      · cases hplace : t.presented.bind fun place => s.issued[place]? with
        | none => exact known_empty
        | some session =>
            obtain ⟨place, -, hsession⟩ := Option.bind_eq_some_iff.mp hplace
            exact h.issued session (List.mem_of_getElem? hsession)
    rw [← Option.some.inj hadvance]
    exact ⟨h, ⟨hcookie, hcookie, rfl⟩, h.extends_refl⟩
  case h_2 hentered =>
    rw [hentered] at hstage
    exact h.keeps_enter hknows hstage hadvance
  case h_3 hread =>
    rw [hread] at hstage
    rw [← Option.some.inj hadvance]
    exact h.keeps_finish hknows.cookie hknows.session hstage
  case h_4 hexchanged =>
    rw [hexchanged] at hstage
    rw [← Option.some.inj hadvance]
    exact h.keeps_revokedPrevious hknows hstage.1 hstage.2
  case h_5 hcreating =>
    rw [hcreating] at hstage
    obtain ⟨hs, ht⟩ := Prod.mk.inj (Option.some.inj hadvance)
    rw [← hs] at hlog
    rw [← Option.some.inj hadvance]
    exact h.keeps_create hknows hstage.1 hstage.2 rfl rfl hlog
  case h_6 hstamping =>
    rw [hstamping] at hstage
    obtain ⟨hroute, hover, call, hholds⟩ := hstage
    rw [← Option.some.inj hadvance]
    exact h.keeps_stamp hknows hroute hover hholds
  case h_7 hperforming =>
    rw [hperforming] at hstage
    rw [← Option.some.inj hadvance]
    exact h.keeps_performLogout hknows hstage.1 hstage.2.1 hstage.2.2
  case h_8 hrevokingToken =>
    rw [hrevokingToken] at hstage
    rw [← Option.some.inj hadvance]
    exact ⟨h, ⟨hknows.cookie, hknows.session, hstage⟩, h.extends_refl⟩
  case h_9 hrevoking =>
    rw [hrevoking] at hstage
    rw [← Option.some.inj hadvance]
    exact h.keeps_loggedOut hknows hstage.1 hstage.2.1
  case h_10 hforwarding =>
    rw [hforwarding] at hstage
    rw [← Option.some.inj hadvance]
    exact h.keeps_answer hknows hstage fun stage hstage => by cases hstage
  case h_11 hforwarding =>
    rw [hforwarding] at hstage
    rw [← Option.some.inj hadvance]
    exact h.keeps_answer hknows hstage fun stage hstage => by cases hstage
  case h_12 hconverting =>
    rw [hconverting] at hstage
    rw [← Option.some.inj hadvance]
    exact h.keeps_answer hknows hstage fun stage hstage => by cases hstage
  case h_13 hgreeting =>
    rw [hgreeting] at hstage
    rw [← Option.some.inj hadvance]
    exact h.keeps_answer hknows hstage fun stage => dashboardResponse_ne_await
  case h_14 hfetching =>
    rw [hfetching] at hstage
    rw [← Option.some.inj hadvance]
    exact h.keeps_answer hknows hstage fun stage hstage => by cases hstage
  case h_15 => contradiction

/-! ## Every interleaving -/

/-- The passing of time before a segment. -/
theorem Segment.sound (hsound : Sound backend start s)
    (h : Segment settings backend start s t s' t') :
    ∃ now wake, Allowed start s.log (.advance now) ∧
      Sound backend start (s.record backend (.advance now)) ∧
      t.advance settings backend (s.record backend (.advance now)) wake = some (s', t') := by
  obtain ⟨hlog, now, wake, hadvance⟩ := h
  obtain ⟨events, hevents, -⟩ := (Task.advance_log hadvance).more
  rw [hevents] at hlog
  have hallowed := (Runs.throughout_concat.mp hlog.of_append).2
  exact ⟨now, wake, hallowed, hsound.record hallowed (fun call hcall => by cases hcall), hadvance⟩

theorem Segment.keeps (hsound : Sound backend start s) (hknows : t.Knows settings start s)
    (h : Segment settings backend start s t s' t') :
    Keeps settings backend start s (s', t') := by
  obtain ⟨now, wake, hallowed, hticked, hadvance⟩ := h.sound hsound
  have hmore := hsound.extends_record hallowed
  exact .trans hmore (Task.advance_keeps hticked (hmore.knows hknows) hadvance h.1)

/-- What the requests know of the store and the cookies. -/
theorem guarantee (settings : Settings) (backend : Backend) (start : Time) :
    Cooperative.Guarantee Task.Fresh (Segment settings backend start) (Sound backend start)
      (fun s t => t.Knows settings start s) (Extends start) where
  fresh := by
    intro s t _ hfresh
    obtain ⟨hstage, hcookie, hsession⟩ := hfresh
    refine ⟨?_, ?_, ?_⟩
    · rw [hcookie]
      exact known_empty
    · rw [hsession]
      exact known_empty
    · rw [hstage]
      trivial
  sound := fun s t s' t' hsound hknows h => (h.keeps hsound hknows).sound
  knows := fun s t s' t' hsound hknows h => (h.keeps hsound hknows).knows
  rely := fun s t s' t' hsound hknows h => (h.keeps hsound hknows).more
  stable := fun s s' t _ hmore hknows => hmore.knows hknows

/-- The store is sound and every request knows what it should. -/
theorem Reachable.sound {legacy : List BrowserSession} {S : Cooperative.System Shared Task}
    (h : Reachable settings backend start legacy S)
    (hlegacy : ∀ session ∈ legacy, session.sessionId = none) :
    Sound backend start S.shared ∧ ∀ t ∈ S.tasks, t.Knows settings start S.shared :=
  Cooperative.Reachable.guarantee (guarantee settings backend start) (sound_start hlegacy) h

end

end DbGateway.Bff
