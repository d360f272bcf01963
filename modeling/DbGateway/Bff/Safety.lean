import DbGateway.Bff.Knowledge

/-!
# DbGateway.Bff.Safety

What the browser-facing API promises, in every interleaving of its requests and
whatever cookies the browsers send.

A request is served for the user of the session that its cookie names, with that
session's token, while the session is good (`served_live`).  A session that was logged
out of, or replaced by a new login, serves nothing any more (`over_not_served`).  Only
its own browser ends it (`revoked_by_owner`).  What a login hands to the browser is what
the routes ask for (`handed_over`).
-/

namespace DbGateway.Bff

open Json (PythonFloat)
open Url (PythonUrls)
open Session (Time Backend Event Payload leases clock Allowed)
open Runs (Throughout)

section

variable [Python] [PythonFloat]

/-! ## Being served -/

/-- A route serves its user: it goes on, or it has succeeded. -/
def Stage.Served : Stage → Prop
  | .finished (some response) => response.status = 200
  | stage => stage.Serving

/-- What a route does for the user of a session. -/
def Stage.Serves (call : Session.Create) : UserRoute → Stage → Prop
  | .proxyGraphql post, .forwarding headers content =>
      headers = proxyHeaders call.accessToken post ∧ content = post.content
  | .textToSql body, .converting query execute accessToken databaseId =>
      query = strip body.query ∧ execute = body.execute ∧ accessToken = .str call.accessToken ∧
        databaseId = body.databaseId
  | .getUser, .finished (some response) => response.content = .obj call.user.fields
  | .getAdminOverview, .fetchingUsage orgId =>
      isAdmin (.obj call.user.fields) = some true ∧
        call.user.fields.get? "org_id" = some (.str orgId)
  | .getAdminOverview, .finished (some response) =>
      isAdmin (.obj call.user.fields) = some true ∧
        ∃ orgId usage, call.user.fields.get? "org_id" = some (.str orgId) ∧
          response = overviewResponse orgId usage
  | .getDashboard, .greeting user => user = .obj call.user.fields
  | .getDashboard, .finished (some response) =>
      dashboardResponse (.obj call.user.fields) none = .respond response
  | _, _ => False

/-- Where a route goes on, in the terms of the stage. -/
def Next.Leads (P : Stage → Prop) : Next → Prop
  | .await stage => P stage
  | .respond response => P (.finished (some response))
  | .raised => P (.finished none)

theorem leads_finish {P : Stage → Prop} {s : Shared} {t : Task} {next : Next} :
    P (s.finish t next).2.stage ↔ next.Leads P := by
  cases next <;> exact Iff.rfl

/-- An error serves nobody. -/
theorem not_leads_errorResponse {status : Nat} (hstatus : status ≠ 200) {detail : String}
    {error errorDescription : Option String} :
    ¬ (Next.respond (errorResponse status detail error errorDescription)).Leads Stage.Served :=
  hstatus

theorem not_leads_notAuthenticated : ¬ (Next.respond notAuthenticated).Leads Stage.Served :=
  not_leads_errorResponse (by decide)

variable [PythonUrls] {settings : Settings} {request : Request}

/-- Nobody is served without a session. -/
theorem serve_none (route : UserRoute) :
    route.serve settings request none = .respond notAuthenticated := by
  cases route <;> rfl

/-- The cookies of earlier releases are good for no state-changing request. -/
theorem serve_legacy {route : UserRoute} (hpost : route.isPost = true) {user : Json} :
    ¬ (route.serve settings request (some [("user", user)])).Leads Stage.Served := by
  cases route with
  | proxyGraphql post => exact not_leads_notAuthenticated
  | textToSql body =>
      rw [UserRoute.serve, textToSql]
      split
      · exact not_leads_notAuthenticated
      · split
        · exact not_leads_errorResponse (by decide)
        · next hreason => exact absurd hreason (csrfFailureReason_ne_none rfl)
  | getUser => contradiction
  | getAdminOverview => contradiction
  | getDashboard => contradiction

omit [PythonUrls] in
theorem withUser_dict {payload : Payload} {route : Json → Next}
    (h : (withUser (some payload.dict) route).Leads Stage.Served) :
    withUser (some payload.dict) route = route (.obj payload.user.fields) := by
  have huser : sessionField (some payload.dict) "user" = .obj payload.user.fields := rfl
  simp only [withUser, huser] at h ⊢
  split at h
  · exact absurd h not_leads_notAuthenticated
  · next htruthy => rw [if_neg htruthy, if_neg (by simp [isObject])]

omit [PythonUrls] in
theorem getAdminOverview_serves {call : Session.Create}
    (h : (getAdminOverview (.obj call.user.fields)).Leads Stage.Served) :
    (getAdminOverview (.obj call.user.fields)).Leads (Stage.Serves call .getAdminOverview) := by
  unfold getAdminOverview at h ⊢
  split at h
  · exact h.elim
  · exact absurd h (not_leads_errorResponse (by decide))
  · next hadmin =>
      split at h
      · next orgId horg =>
          have hfound : call.user.fields.get? "org_id" = some (.str orgId) := by
            rw [Json.getD, Json.get?] at horg
            cases hlookup : call.user.fields.lookup "org_id" with
            | none =>
                rw [hlookup] at horg
                contradiction
            | some value =>
                rw [hlookup] at horg
                exact hlookup.trans (congrArg some horg)
          split at h
          · exact absurd h (not_leads_errorResponse (by decide))
          · next hstrip =>
              rw [if_neg hstrip]
              split at h
              · next hvalid =>
                  rw [if_pos hvalid]
                  exact ⟨hadmin, hfound⟩
              · next hvalid =>
                  rw [if_neg hvalid]
                  exact ⟨hadmin, orgId, _, hfound, rfl⟩
      · exact absurd h (not_leads_errorResponse (by decide))

/-- What a route does with a session of the store, where it serves. -/
theorem serve_dict {route : UserRoute} {call : Session.Create} {now : Time} {payload : Payload}
    (hmade : call.payload now = some payload)
    (h : (route.serve settings request (some payload.dict)).Leads Stage.Served) :
    (route.serve settings request (some payload.dict)).Leads (Stage.Serves call route) ∧
      (route.isPost = true → CsrfSafe settings request call.csrfToken.text) := by
  obtain ⟨huser, haccess, hcsrf⟩ := payload_eq hmade
  have haccessField : sessionField (some payload.dict) "access_token" = .str call.accessToken :=
    haccess ▸ rfl
  have huserField : sessionField (some payload.dict) "user" = .obj call.user.fields := huser ▸ rfl
  have hsafe : csrfFailureReason settings request (some payload.dict) = none →
      CsrfSafe settings request call.csrfToken.text := by
    rw [← hcsrf]
    exact csrfFailureReason_dict_iff.mp
  cases route with
  | proxyGraphql post =>
      simp only [UserRoute.serve, proxyGraphql, haccessField] at h ⊢
      split at h
      · exact absurd h not_leads_notAuthenticated
      · next hne =>
          split at h
          · exact absurd h (not_leads_errorResponse (by decide))
          · next hreason =>
              rw [if_neg hne]
              exact ⟨⟨rfl, rfl⟩, fun _ => hsafe hreason⟩
  | textToSql body =>
      simp only [UserRoute.serve, textToSql, haccessField, huserField] at h ⊢
      split at h
      · exact absurd h not_leads_notAuthenticated
      · next htruthy =>
          split at h
          · exact absurd h (not_leads_errorResponse (by decide))
          · next hreason =>
              split at h
              · exact absurd h (not_leads_errorResponse (by decide))
              · next hquery =>
                  rw [if_neg htruthy, if_neg hquery, if_neg (by simp [isObject])]
                  exact ⟨⟨rfl, rfl, rfl, rfl⟩, fun _ => hsafe hreason⟩
  | getUser =>
      rw [UserRoute.serve, getUser] at h ⊢
      rw [withUser_dict h, huser]
      exact ⟨rfl, fun hpost => by cases hpost⟩
  | getAdminOverview =>
      rw [UserRoute.serve] at h ⊢
      have hroute := withUser_dict h
      rw [hroute, huser] at h ⊢
      exact ⟨getAdminOverview_serves h, fun hpost => by cases hpost⟩
  | getDashboard =>
      rw [UserRoute.serve, getDashboard] at h ⊢
      have hroute := withUser_dict h
      rw [hroute, huser] at h ⊢
      refine ⟨?_, fun hpost => by cases hpost⟩
      split
      · rfl
      · next hgreeting =>
          rw [if_neg hgreeting] at h
          cases hnext : dashboardResponse (.obj call.user.fields) none with
          | await stage => exact absurd hnext dashboardResponse_ne_await
          | respond response => exact hnext
          | raised =>
              rw [hnext] at h
              exact h.elim

/-! ## A request that enters a route -/

variable {start : Time} {backend : Backend} {s s' s₁ s₂ : Shared} {t t' t₁ : Task}
  {route : UserRoute}

/-- A route that serves a user reads its session first: with what is read at the end of the
segment. -/
theorem Segment.reads (hsound : Sound backend start s) (hentered : t.stage = .entered)
    (hroute : t.route = .user route) (h : Segment settings backend start s t s' t') :
    t' = { t with
      stage := .read (.user route)
        (((leases start s'.log).read (t.session.sessionId.getD "")).map Payload.dict) } := by
  obtain ⟨now, wake, -, hticked, hadvance⟩ := h.sound hsound
  have hafter : (s', t') = t.lookUp backend (s.record backend (.advance now)) (.user route) := by
    cases wake with
    | called =>
        simp only [Task.advance, hentered, Task.enter, hroute] at hadvance
        exact (Option.some.inj hadvance).symm
    | _ =>
        simp only [Task.advance, hentered, Task.enter, hroute] at hadvance
        contradiction
  have hlog : s'.log = (s.record backend (.advance now)).log ++ [.get t.session.sessionId] := by
    rw [← Task.lookUp_log, ← hafter]
  rw [Task.lookUp, hticked.get_eq] at hafter
  have hread : (leases start s'.log).read =
      (leases start (s.record backend (.advance now)).log).read := by
    rw [hlog, Session.leases_concat]
    rfl
  rw [hread]
  exact congrArg Prod.snd hafter

/-- A route goes on with the session it has read. -/
theorem Segment.resumes {reading : Reading} {found : Option (Dict Json)}
    (hread : t.stage = .read reading found) (h : Segment settings backend start s t s' t') :
    ∃ s₁ : Shared,
      t' = (s₁.finish t (reading.next settings t.request t.session found)).2 := by
  obtain ⟨-, now, wake, hadvance⟩ := h
  cases wake with
  | resumed =>
      simp only [Task.advance, hread] at hadvance
      exact ⟨_, congrArg Prod.snd (Option.some.inj hadvance).symm⟩
  | _ =>
      simp only [Task.advance, hread] at hadvance
      contradiction

/-- Where a request goes on that has entered a route: with the session as it was read,
whatever others have done since. -/
theorem Segment.user (hsound : Sound backend start s) (hentered : t.stage = .entered)
    (hroute : t.route = .user route) (hread : Segment settings backend start s t s₁ t₁)
    (h : Segment settings backend start s₂ t₁ s' t') :
    t'.stage = (s₂.finish t (route.serve settings t.request (getAuthenticatedSession
      (((leases start s₁.log).read (t.session.sessionId.getD "")).map Payload.dict)
        t.session))).2.stage := by
  obtain rfl := hread.reads hsound hentered hroute
  obtain ⟨s₃, rfl⟩ := h.resumes rfl
  dsimp only [Reading.next]
  cases route.serve settings t.request (getAuthenticatedSession
    (((leases start s₁.log).read (t.session.sessionId.getD "")).map Payload.dict) t.session) <;> rfl

/-- A request that is served has found the session that its cookie names. -/
theorem Segment.served (hsound : Sound backend start s) (hknows : t.Knows settings start s)
    (hentered : t.stage = .entered) (hroute : t.route = .user route)
    (hguard : route.isPost = true ∨ t.cookie.user = none)
    (hfirst : Segment settings backend start s t s₁ t₁)
    (h : Segment settings backend start s₂ t₁ s' t') (hserved : t'.stage.Served) :
    ∃ call payload, t.cookie.sessionId = some call.sessionId.text ∧
      Live start s₁.log call payload ∧ FromLogin call ∧ t'.stage.Serves call route ∧
      (route.isPost = true → CsrfSafe settings t.request call.csrfToken.text) := by
  have hkeeps := hfirst.keeps hsound hknows
  have hcookie : t.session = t.cookie := by
    have hstage := hknows.stage
    rwa [hentered] at hstage
  have ht' := hfirst.user hsound hentered hroute h
  rw [hcookie] at ht'
  rw [ht'] at hserved ⊢
  have hleads := leads_finish.mp hserved
  cases hread : (leases start s₁.log).read (t.cookie.sessionId.getD "") with
  | none =>
      rw [hread, Option.map_none] at hleads
      cases huser : t.cookie.user with
      | none =>
          simp only [getAuthenticatedSession, huser, serve_none] at hleads
          exact absurd hleads not_leads_notAuthenticated
      | some user =>
          have hpost : route.isPost = true := by
            rcases hguard with hpost | hnone
            · exact hpost
            · cases huser.symm.trans hnone
          simp only [getAuthenticatedSession, huser] at hleads
          split at hleads
          · exact absurd hleads (serve_legacy hpost)
          · rw [serve_none] at hleads
            exact absurd hleads not_leads_notAuthenticated
  | some payload =>
      obtain ⟨call, hid, hlive⟩ := (live_iff hkeeps.sound.allowed).mp hread
      obtain ⟨before, rest, -, hmade, -⟩ := hlive.created
      rw [hread, Option.map_some] at hleads
      obtain ⟨hserves, hsafe⟩ := serve_dict hmade hleads
      have hsessionId : t.cookie.sessionId = some call.sessionId.text := by
        cases hcookieId : t.cookie.sessionId with
        | none =>
            rw [hcookieId] at hid
            exact absurd hid call.sessionId.text_ne
        | some id =>
            rw [hcookieId] at hid
            exact congrArg some hid.symm
      exact ⟨call, payload, hsessionId, hlive, hkeeps.sound.login call hlive.mem,
        leads_finish.mpr hserves, hsafe⟩

/-! ## What is promised -/

variable {legacy : List BrowserSession} {S : Cooperative.System Shared Task}

/-- **A request is served** for the user of the session that its cookie names, with the
token that was got when that user logged in to its tenant.  When the session was read, it
was neither revoked nor expired; others may have run since.  A state-changing request has
shown the session's CSRF token from an allowed origin.  Cookies of earlier releases are
good for reading only. -/
theorem served_live (hlegacy : ∀ session ∈ legacy, session.sessionId = none)
    (h : Reachable settings backend start legacy S) (ht : t ∈ S.tasks)
    (hentered : t.stage = .entered) (hroute : t.route = .user route)
    (hguard : route.isPost = true ∨ t.cookie.user = none)
    (hread : Segment settings backend start S.shared t s₁ t₁)
    (hsegment : Segment settings backend start s₂ t₁ s' t') (hserved : t'.stage.Served) :
    ∃ call payload, t.cookie.sessionId = some call.sessionId.text ∧
      Live start s₁.log call payload ∧ FromLogin call ∧ t'.stage.Serves call route ∧
      (route.isPost = true → CsrfSafe settings t.request call.csrfToken.text) := by
  obtain ⟨hsound, hknows⟩ := h.sound hlegacy
  exact hread.served hsound (hknows t ht) hentered hroute hguard hsegment hserved

/-- **Never again**: once a logout has been answered, or a login that had a session before,
no request that then reads the session is served with a cookie that names it, whenever the
cookie was signed. -/
theorem over_not_served (hlegacy : ∀ session ∈ legacy, session.sessionId = none)
    (h : Reachable settings backend start legacy S) {ended : Task} (hended : ended ∈ S.tasks)
    (hway : ended.route = .logoutPost ∨ ended.route = .authCallback) {response : Response}
    (hfinished : ended.stage = .finished (some response)) (hstatus : response.status = 200)
    {id : String} (hid : ended.cookie.sessionId = some id) (ht : t ∈ S.tasks)
    (hentered : t.stage = .entered) (hroute : t.route = .user route)
    (hsame : t.cookie.sessionId = some id)
    (hread : Segment settings backend start S.shared t s₁ t₁)
    (hsegment : Segment settings backend start s₂ t₁ s' t') : ¬ t'.stage.Served := by
  intro hserved
  obtain ⟨hsound, hknows⟩ := h.sound hlegacy
  have hover : Over start S.shared.log id := by
    have hstage := (hknows ended hended).stage
    rw [hfinished] at hstage
    rcases hway with hlogout | hcallback
    · exact (hstage hstatus).1 hlogout id hid
    · exact ((hstage hstatus).2 hcallback).1 id hid
  have hkeeps := hread.keeps hsound (hknows t ht)
  have hguard : route.isPost = true ∨ t.cookie.user = none :=
    .inr ((hknows t ht).cookie id hsame).2
  obtain ⟨call, payload, hcookie, hlive, -⟩ :=
    hread.served hsound (hknows t ht) hentered hroute hguard hsegment hserved
  have hfound := (live_iff hkeeps.sound.allowed).mpr ⟨call, rfl, hlive⟩
  obtain rfl := Option.some.inj (hsame.symm.trans hcookie)
  rw [(hkeeps.more.over hover).2] at hfound
  contradiction

/-- **Only its own browser ends a session** before its time is up: by a login with its
cookie, or by a logout that has shown the session's CSRF token from an allowed origin. -/
theorem revoked_by_owner (hlegacy : ∀ session ∈ legacy, session.sessionId = none)
    (h : Reachable settings backend start legacy S) (ht : t ∈ S.tasks)
    (hsegment : Segment settings backend start S.shared t s' t') {call : Session.Create}
    {payload : Payload} (hlive : Live start S.shared.log call payload)
    (hover : ¬ Live start s'.log call payload) (htime : clock start s'.log < payload.expiresAt) :
    t.cookie.sessionId = some call.sessionId.text ∧
      ((t.route = .authCallback ∧ ∃ login, t.stage = .exchanged login) ∨
        (t.route = .logoutPost ∧ t.stage = .revoking ∧
          CsrfSafe settings t.request call.csrfToken.text)) := by
  obtain ⟨hsound, hknows⟩ := h.sound hlegacy
  obtain ⟨-, now, wake, hadvance⟩ := hsegment
  obtain ⟨events, hevents, hrevokes⟩ := (Task.advance_log hadvance).more
  have hrevoked : Event.revoke (some call.sessionId.text) ∈ events := by
    by_contra hnone
    refine hover ⟨?_, htime⟩
    obtain ⟨before, rest, hlog, hmade, hrest⟩ := hlive.created
    refine ⟨before, rest ++ (.advance now :: events), ?_, hmade, ?_⟩
    · rw [hevents]
      show S.shared.log ++ [.advance now] ++ events = _
      rw [hlog, List.append_assoc, List.append_assoc, List.singleton_append, List.cons_append]
    · rw [List.mem_append, List.mem_cons]
      rintro (hmem | hmem | hmem)
      · exact hrest hmem
      · contradiction
      · exact hnone hmem
  obtain ⟨hid, hstage⟩ := hrevokes _ hrevoked
  have hknown := (hknows t ht).stage
  cases hwhere : t.stage with
  | exchanged login =>
      rw [hwhere] at hknown
      exact ⟨(hid.trans hknown.2).symm, .inl ⟨hknown.1, login, rfl⟩⟩
  | revoking =>
      rw [hwhere] at hknown
      obtain ⟨hroute, hsession, hcleared⟩ := hknown
      have hcookie : t.cookie.sessionId = some call.sessionId.text := (hid.trans hsession).symm
      refine ⟨hcookie, .inr ⟨hroute, rfl, ?_⟩⟩
      rcases hcleared _ hcookie with hended | ⟨call', hcall', hsame, hsafe⟩
      · have hread := (live_iff hsound.allowed).mpr ⟨call, rfl, hlive⟩
        rw [hended.2] at hread
        contradiction
      · rwa [create_unique hsound.allowed hcall' hlive.mem hsame] at hsafe
  | _ =>
      rw [hwhere] at hstage
      exact hstage.elim

/-- **What a login hands over is what the routes ask for.**  The session cookie that is
signed with the response of the callback names a new session of a tenant's user.  With
that cookie, and with the `csrf_token` cookie of the response in a cookie and in the
header, a request to `/api/graphql` from the frontend is forwarded with the session's
token exactly if the session is good when it is read. -/
theorem handed_over (hlegacy : ∀ session ∈ legacy, session.sessionId = none)
    (h : Reachable settings backend start legacy S) {callback : Task} (hcallback : callback ∈ S.tasks)
    (hlogin : callback.route = .authCallback) {response : Response}
    (hfinished : callback.stage = .finished (some response)) (hstatus : response.status = 200)
    {name value : String} (hcsrf : response.setsCsrf = some (name, value)) :
    ∃ call, FromLogin call ∧ callback.session = { sessionId := some call.sessionId.text } ∧
      callback.session ∈ S.shared.issued ∧
      ∀ t ∈ S.tasks, ∀ post s₁ t₁ s₂ s' t', t.stage = .entered → t.route = .user (.proxyGraphql post) →
        t.cookie = callback.session → t.request.requestedWith = some "XMLHttpRequest" →
        Csrf.requestOriginIsAllowed settings.toSettings t.request.toRequest = true →
        isCrossSite t.request.fetchSite = false → t.request.cookies.get? name = some value →
        t.request.csrfToken = some value →
        Segment settings backend start S.shared t s₁ t₁ →
        Segment settings backend start s₂ t₁ s' t' →
        ((∃ payload, Live start s₁.log call payload) ↔
          t'.stage = .forwarding (proxyHeaders call.accessToken post) post.content) := by
  obtain ⟨hsound, hknows⟩ := h.sound hlegacy
  have hstage := (hknows callback hcallback).stage
  rw [hfinished] at hstage
  obtain ⟨-, call, ⟨hcreated, hsession⟩, hsigned, hhanded⟩ := (hstage hstatus).2 hlogin
  obtain ⟨rfl, rfl⟩ := hhanded name value hcsrf
  have hfrom := hsound.login call hcreated
  refine ⟨call, hfrom, hsession, hsigned, ?_⟩
  intro t ht post s₁ t₁ s₂ s' t' hentered hroute hcookie hmarker horigin hsite hname hheader hfirst
    hsegment
  have hkeeps := hfirst.keeps hsound (hknows t ht)
  have hsafe : CsrfSafe settings t.request call.csrfToken.text := by
    refine ⟨hmarker, horigin, hsite, ?_, hheader⟩
    rw [cookieToken, hname, orText, if_neg call.csrfToken.text_ne]
  have hentered' : t.session = t.cookie := by
    have hknown := (hknows t ht).stage
    rwa [hentered] at hknown
  constructor
  · intro ⟨payload, hlive⟩
    have ht' := hfirst.user hsound hentered hroute hsegment
    have hread := (live_iff hkeeps.sound.allowed).mpr ⟨call, rfl, hlive⟩
    obtain ⟨before, rest, -, hmade, -⟩ := hlive.created
    obtain ⟨-, haccess, htoken⟩ := payload_eq hmade
    have hreason : csrfFailureReason settings t.request (some payload.dict) = none := by
      rw [csrfFailureReason_dict_iff, htoken]
      exact hsafe
    have hfield : sessionField (some payload.dict) "access_token" = .str call.accessToken :=
      haccess ▸ rfl
    have hserve : proxyGraphql settings t.request post (some payload.dict) =
        .await (.forwarding (proxyHeaders call.accessToken post) post.content) := by
      simp only [proxyGraphql, hfield, hreason]
      rw [if_neg hfrom.accessToken_ne]
    rw [hentered', hcookie, hsession, Option.getD_some, hread] at ht'
    rw [ht']
    show (Shared.finish _ t (proxyGraphql settings t.request post (some payload.dict))).2.stage = _
    rw [hserve]
    rfl
  · intro hforwarding
    have hserved : t'.stage.Served := by
      rw [hforwarding]
      trivial
    obtain ⟨call', payload, hid, hlive, -⟩ :=
      hfirst.served hsound (hknows t ht) hentered hroute (.inl rfl) hsegment hserved
    rw [hcookie, hsession] at hid
    have hsame := create_unique hkeeps.sound.allowed hlive.mem (hkeeps.more.mem hcreated)
      (Option.some.inj hid).symm
    exact ⟨payload, hsame ▸ hlive⟩

end

/-! ## A browser that logs in and out -/

/-- The URLs of ASCII, with floats that are whole. -/
@[reducible] def wholeUrls : @PythonUrls Json.whole :=
  letI := Json.whole
  { isIPv6 := fun _ => false
    nfkc := id
    lower_colon := fun text => @PythonUrls.lower_colon Python.ascii Csrf.asciiUrls text }

/-- A frontend at `https://app.example`. -/
def appSettings : Settings where
  allowedOrigins := []
  reactAppUrl := "https://app.example"
  frontendUrl := "https://app.example"
  sessionCookieSecure := false
  sessionMaxAge := 60
  auth0OrgIdClaim := "tenant_id"
  auth0Domain := ""
  auth0ClientId := ""
  logoutUrl := "https:///v2/logout"
  enableAiGreeting := false

/-- A request of that frontend. -/
def appRequest : Request where
  origin := some "https://app.example"
  referer := none
  requestedWith := some "XMLHttpRequest"
  fetchSite := none
  csrfToken := some "csrf"
  cookies := [("csrf_token", "csrf")]

section

/-- The token response for a user of a tenant. -/
def appToken : @TokenResponse Json.whole Json.wholeFloat :=
  letI := Json.whole
  letI := Json.wholeFloat
  { fields := [("userinfo", .obj [("sub", .str "u"), ("email", .str "e"), ("name", .str "n"),
      ("tenant_id", .str "acme")]), ("access_token", .str "token")]
    proper := by
      refine ⟨by decide, ?_⟩
      simp only [Json.ProperFields, Json.Proper]
      decide }

local instance : Python := Json.whole
local instance : PythonFloat := Json.wholeFloat
local instance : PythonUrls := wholeUrls

/-- The clock, which stands still. -/
def appTime : Time := ⟨1000, rfl⟩

/-- What the callback finds in the token response. -/
def appLogin : Login where
  user := ⟨userFields (userInfo appToken) "acme", proper_userFields (proper_userInfo appToken) _⟩
  orgId := "acme"
  accessToken := "token"
  strip_ne := by decide
  accessToken_ne := by decide
  user_orgId := rfl

theorem id_ne : "id" ≠ "" := by decide

theorem csrf_ne : "csrf" ≠ "" := by decide

/-- The call that creates the session. -/
def appCall : Session.Create :=
  appLogin.call appSettings ⟨"id", id_ne⟩ ⟨"csrf", csrf_ne⟩ (some 2000)

/-- The log of the login, and what follows without another one. -/
def appLog (events : List Event) : List Event :=
  [.advance appTime, .advance appTime, .advance appTime, .create appCall] ++ events

/-- An event that is allowed at any time. -/
def isQuiet : Event → Bool
  | .create _ => false
  | .advance now => now.1 = 1000
  | _ => true

theorem allowed_quiet (log events : List Event) (hclock : clock appTime log = appTime)
    (h : Throughout (Allowed appTime) log) (hquiet : events.all isQuiet = true) :
    clock appTime (log ++ events) = appTime ∧ Throughout (Allowed appTime) (log ++ events) := by
  induction events using List.reverseRecOn with
  | nil => rw [List.append_nil]; exact ⟨hclock, h⟩
  | append_singleton events event ih =>
      rw [List.all_append, Bool.and_eq_true] at hquiet
      obtain ⟨hclock, h⟩ := ih hquiet.1
      rw [← List.append_assoc, Session.clock_concat]
      have hevent : isQuiet event = true := by simpa using hquiet.2
      cases event with
      | create call => contradiction
      | get sessionId => exact ⟨hclock, Runs.throughout_concat.mpr ⟨h, trivial⟩⟩
      | revoke sessionId => exact ⟨hclock, Runs.throughout_concat.mpr ⟨h, trivial⟩⟩
      | advance now =>
          have hnow : now = appTime := Subtype.ext (of_decide_eq_true hevent)
          subst hnow
          exact ⟨rfl, Runs.throughout_concat.mpr ⟨h, le_of_eq hclock⟩⟩

theorem allowed_appLog (events : List Event) (hquiet : events.all isQuiet = true) :
    Throughout (Allowed appTime) (appLog events) := by
  have hstart : Throughout (Allowed appTime)
      [.advance appTime, .advance appTime, .advance appTime] :=
    (allowed_quiet [] _ rfl (Runs.throughout_nil _) rfl).2
  have hcreate : Allowed appTime [.advance appTime, .advance appTime, .advance appTime]
      (.create appCall) := by
    refine ⟨fun call hcall => ?_, fun payload hpayload => ⟨2000, rfl, ?_⟩⟩
    · simp at hcall
    · rw [← Option.some_inj.mp hpayload]
      decide
  exact (allowed_quiet [.advance appTime, .advance appTime, .advance appTime, .create appCall]
    events rfl (Runs.throughout_concat.mpr ⟨hstart, hcreate⟩) hquiet).2

/-- A request that has arrived with the first cookie that was signed, or none. -/
def appTask (route : Route) (presented : Option Nat) : Task where
  route
  request := appRequest
  presented
  cookie := .empty
  session := .empty
  stage := .arrived

/-- What the callback answers. -/
def appResponse : Response where
  status := 200
  content := .obj [("user", .obj [("id", .str "u"), ("email", .str "e"), ("name", .str "n"),
    ("org_id", .null)])]
  setsCsrf := some ("csrf_token", "csrf")

/-- The callback when it has answered. -/
def appCallback : Task :=
  { appTask .authCallback none with
    session := { sessionId := some "id" }, stage := .finished (some appResponse) }

/-- The shared state some time after the login, with one cookie signed. -/
def appShared (events : List Event) : Shared where
  world := Session.after .memory appTime (appLog events)
  log := appLog events
  issued := [{ sessionId := some "id" }]

/-- The events since the login: the callback reads the session, and answers. -/
def loginEvents : List Event := [.advance appTime, .get (some "id"), .advance appTime]

/-- What is read of the session. -/
def appPayload : Payload where
  user := appLogin.user
  accessToken := "token"
  csrfToken := ⟨"csrf", csrf_ne⟩
  expiresAt := ⟨1060, rfl⟩

/-- A browser has logged in. -/
theorem reachable_loggedIn : Reachable appSettings .memory appTime []
    ⟨appShared loginEvents, [appCallback]⟩ := by
  have harrived : Reachable appSettings .memory appTime []
      ⟨.start appTime [], [appTask .authCallback none]⟩ :=
    .tail .refl (.arrive ⟨rfl, rfl, rfl⟩)
  have hearly : ∀ events : List Event, events.all isQuiet = true →
      Throughout (Allowed appTime) events := fun events hquiet =>
    (allowed_quiet [] events rfl (Runs.throughout_nil _) hquiet).2
  have hloaded := harrived.tail (.run [] [] ⟨hearly [.advance appTime] rfl, appTime,
    .load false, rfl⟩)
  have hexchanged := hloaded.tail (.run [] [] ⟨hearly [.advance appTime, .advance appTime] rfl,
    appTime, .exchanged [] (.token appToken), rfl⟩)
  have hcreated := hexchanged.tail (.run [] [] ⟨allowed_appLog [] rfl, appTime,
    .created ⟨"id", id_ne⟩ ⟨"csrf", csrf_ne⟩ (some 2000), rfl⟩)
  have hread := hcreated.tail (.run [] []
    ⟨allowed_appLog [.advance appTime, .get (some "id")] rfl, appTime, .called, rfl⟩)
  exact hread.tail (.run [] [] ⟨allowed_appLog loginEvents rfl, appTime, .resumed, rfl⟩)

/-- A request with the cookie of the login has been loaded. -/
def appEntered (route : Route) : Task :=
  { appTask route (some 0) with
    cookie := { sessionId := some "id" }, session := { sessionId := some "id" }, stage := .entered }

theorem reachable_entered (route : Route) : Reachable appSettings .memory appTime []
    ⟨appShared (loginEvents ++ [.advance appTime]), [appCallback, appEntered route]⟩ := by
  have harrived := reachable_loggedIn.tail
    (.arrive (t := appTask route (some 0)) ⟨rfl, rfl, rfl⟩)
  exact harrived.tail (.run [appCallback] []
    ⟨allowed_appLog _ rfl, appTime, .load false, rfl⟩)

/-- What is forwarded. -/
def appPost : Proxied := ⟨"query", none, ""⟩

/-- The request to the SQL API has read the session. -/
def appRead : Task :=
  { appEntered (.user (.proxyGraphql appPost)) with
    stage := .read (.user (.proxyGraphql appPost)) (some appPayload.dict) }

/-- The events up to there. -/
def readEvents : List Event :=
  loginEvents ++ [.advance appTime, .advance appTime, .get (some "id")]

theorem segment_read : Segment appSettings .memory appTime
    (appShared (loginEvents ++ [.advance appTime]))
    (appEntered (.user (.proxyGraphql appPost))) (appShared readEvents) appRead :=
  ⟨allowed_appLog _ rfl, appTime, .called, rfl⟩

/-- The request is forwarded. -/
theorem segment_forwarding : Segment appSettings .memory appTime (appShared readEvents) appRead
    (appShared (readEvents ++ [.advance appTime]))
    { appRead with stage := .forwarding (proxyHeaders "token" appPost) "query" } :=
  ⟨allowed_appLog _ rfl, appTime, .resumed, rfl⟩

/-- A request to the SQL API is served for the one that has logged in. -/
theorem served_live_graphql : ∃ call payload, call.sessionId.text = "id" ∧
    Live appTime (appLog readEvents) call payload ∧ call.user.fields.get? "org_id" ≠ none := by
  obtain ⟨call, payload, hid, hlive, hlogin, -⟩ := served_live
    (fun session hsession => absurd hsession List.not_mem_nil)
    (reachable_entered (.user (.proxyGraphql appPost)))
    (List.mem_cons_of_mem _ List.mem_cons_self) rfl rfl (.inl rfl) segment_read segment_forwarding
    trivial
  obtain ⟨orgId, horg, -⟩ := hlogin.tenant
  exact ⟨call, payload, (Option.some.inj hid).symm, hlive, by simp [horg]⟩

/-- What the login has handed over is forwarded if the session is good. -/
theorem handed_over_graphql : ∃ call : Session.Create, call.sessionId.text = "id" ∧
    ((∃ payload, Live appTime (appLog readEvents) call payload) ↔
      Stage.forwarding (proxyHeaders "token" appPost) "query" =
        .forwarding (proxyHeaders call.accessToken appPost) "query") := by
  obtain ⟨call, -, hsession, -, hforwarded⟩ := handed_over
    (fun session hsession => absurd hsession List.not_mem_nil)
    (reachable_entered (.user (.proxyGraphql appPost))) List.mem_cons_self rfl rfl rfl rfl
  have hid := Option.some.inj (congrArg BrowserSession.sessionId hsession)
  exact ⟨call, hid.symm, hforwarded _ (List.mem_cons_of_mem _ List.mem_cons_self) appPost _ _ _ _ _
    rfl rfl rfl rfl (by decide) rfl rfl rfl segment_read segment_forwarding⟩

/-- The events of a logout, up to its last call. -/
def logoutEvents : List Event :=
  readEvents ++ [.advance appTime, .advance appTime, .get (some "id"), .advance appTime]

/-- A logout with the cookie of the login is about to revoke the session. -/
theorem reachable_revoking : Reachable appSettings .memory appTime []
    ⟨appShared logoutEvents, [appCallback, { appEntered .logoutPost with stage := .revoking }]⟩ := by
  have hread := (reachable_entered .logoutPost).tail (.run [appCallback] []
    ⟨allowed_appLog readEvents rfl, appTime, .called, rfl⟩)
  have hchecked := hread.tail (.run [appCallback] []
    ⟨allowed_appLog (readEvents ++ [.advance appTime]) rfl, appTime, .resumed, rfl⟩)
  have hagain := hchecked.tail (.run [appCallback] []
    ⟨allowed_appLog (readEvents ++ [.advance appTime, .advance appTime, .get (some "id")]) rfl,
      appTime, .called, rfl⟩)
  exact hagain.tail (.run [appCallback] []
    ⟨allowed_appLog logoutEvents rfl, appTime, .resumed, rfl⟩)

/-- A logout that has been answered. -/
def appLoggedOut : Task :=
  { appEntered .logoutPost with
    session := .empty, stage := .finished (some (loggedOut appSettings)) }

theorem segment_loggedOut : Segment appSettings .memory appTime (appShared logoutEvents)
    { appEntered .logoutPost with stage := .revoking }
    (appShared (logoutEvents ++ [.advance appTime, .revoke (some "id")])) appLoggedOut :=
  ⟨allowed_appLog _ rfl, appTime, .called, rfl⟩

/-- The session is good until the logout revokes it. -/
theorem live_logoutEvents : Live appTime (appShared logoutEvents).log appCall appPayload where
  created := by
    refine ⟨[.advance appTime, .advance appTime, .advance appTime], logoutEvents, rfl, rfl, ?_⟩
    simp [logoutEvents, readEvents, loginEvents]
  unexpired := by decide

theorem not_live_loggedOut : ¬ Live appTime
    (appShared (logoutEvents ++ [.advance appTime, .revoke (some "id")])).log appCall appPayload := by
  intro hlive
  have hallowed : Throughout (Allowed appTime)
      (appShared (logoutEvents ++ [.advance appTime, .revoke (some "id")])).log :=
    allowed_appLog _ rfl
  have hread := (live_iff hallowed).mpr ⟨appCall, rfl, hlive⟩
  have hcreated : Created (appLog (logoutEvents ++ [.advance appTime])) "id" :=
    ⟨appCall, by simp [appLog], rfl⟩
  have hover := (@Created.over_revoke _ _ appTime _ _ hcreated).2
  cases hover.symm.trans hread

/-- The logout ends the session it has shown the token of. -/
theorem revoked_by_owner_logout : CsrfSafe appSettings appRequest "csrf" := by
  obtain ⟨-, hcallback | hlogout⟩ := revoked_by_owner
    (fun session hsession => absurd hsession List.not_mem_nil) reachable_revoking
    (List.mem_cons_of_mem _ List.mem_cons_self) segment_loggedOut live_logoutEvents
    not_live_loggedOut (by decide)
  · cases hcallback.1
  · exact hlogout.2.2

/-- A request that comes after the logout has been loaded. -/
theorem reachable_afterLogout : Reachable appSettings .memory appTime []
    ⟨appShared (logoutEvents ++ [.advance appTime, .revoke (some "id"), .advance appTime]),
      [appCallback, appLoggedOut, appEntered (.user (.proxyGraphql appPost))]⟩ := by
  have hloggedOut := reachable_revoking.tail (.run [appCallback] [] segment_loggedOut)
  have harrived := hloggedOut.tail
    (.arrive (t := appTask (.user (.proxyGraphql appPost)) (some 0)) ⟨rfl, rfl, rfl⟩)
  exact harrived.tail (.run [appCallback, appLoggedOut] []
    ⟨allowed_appLog _ rfl, appTime, .load false, rfl⟩)

/-- After the logout, the request finds no session. -/
def appUnread : Task :=
  { appEntered (.user (.proxyGraphql appPost)) with
    stage := .read (.user (.proxyGraphql appPost)) none }

/-- The events up to there. -/
def unreadEvents : List Event :=
  logoutEvents ++ [.advance appTime, .revoke (some "id"), .advance appTime, .advance appTime,
    .get (some "id")]

theorem segment_unread : Segment appSettings .memory appTime
    (appShared (logoutEvents ++ [.advance appTime, .revoke (some "id"), .advance appTime]))
    (appEntered (.user (.proxyGraphql appPost))) (appShared unreadEvents) appUnread :=
  ⟨allowed_appLog _ rfl, appTime, .called, rfl⟩

/-- A request whose session is gone is answered that nobody is logged in. -/
theorem segment_unauthenticated : Segment appSettings .memory appTime (appShared unreadEvents)
    appUnread ((appShared (unreadEvents ++ [.advance appTime])).sign { sessionId := some "id" })
    { appUnread with stage := .finished (some notAuthenticated) } :=
  ⟨allowed_appLog _ rfl, appTime, .resumed, rfl⟩

/-- After the logout the cookie is good for nothing. -/
theorem over_not_served_graphql : ¬ (Stage.finished (some notAuthenticated)).Served := by
  have hended : appLoggedOut ∈ [appCallback, appLoggedOut,
      appEntered (.user (.proxyGraphql appPost))] := List.mem_cons_of_mem _ List.mem_cons_self
  exact over_not_served (fun session hsession => absurd hsession List.not_mem_nil)
    reachable_afterLogout hended (.inl rfl) rfl rfl rfl
    (List.mem_cons_of_mem _ (List.mem_cons_of_mem _ List.mem_cons_self)) rfl rfl rfl
    segment_unread segment_unauthenticated

end

end DbGateway.Bff
