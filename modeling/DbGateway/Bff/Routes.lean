import DbGateway.Bff.Csrf
import DbGateway.Dict
import Mathlib.Data.List.Infix

/-!
# DbGateway.Bff.Routes

`routes/auth_routes.py`, `routes/user_routes.py` and `routes/graphql_routes.py`:
what each route of the browser-facing API does with a session, a token response
or the answer of another service.

A route is cut at its `await`s.  What it does between two of them is a function
here, and `Next` says where it goes on.
-/

namespace DbGateway.Bff

open Json (PythonFloat)
open Url (PythonUrls)

/-! ## Responses -/

/-- A response, with the `csrf_token` cookie it sets or clears. -/
structure Response where
  status : Nat
  content : Json
  setsCsrf : Option (String × String) := none
  clearsCsrf : Bool := false
  location : Option String := none

/-- A JSON text or null. -/
def optionStr : Option String → Json
  | some text => .str text
  | none => .null

/-- `ErrorResponse` -/
def errorResponse (status : Nat) (detail : String) (error : Option String)
    (errorDescription : Option String) : Response where
  status
  content := .obj [("status_code", .int status), ("detail", .str detail),
    ("error", optionStr error), ("error_description", optionStr errorDescription)]

@[simp] theorem errorResponse_status (status : Nat) (detail : String)
    (error errorDescription : Option String) :
    (errorResponse status detail error errorDescription).status = status := rfl

/-- Nobody is logged in. -/
def notAuthenticated : Response := errorResponse 401 "Not authenticated" none none

/-! ## The session cookie -/

/-- `request.session`, which is signed into the session cookie. -/
structure BrowserSession where
  sessionId : Option String := none
  /-- written by earlier releases, which kept the user in the cookie -/
  user : Option Json := none
  pkceVerifier : Option String := none
  oidcNonce : Option String := none
  /-- what authlib keeps during a login -/
  oauthState : Dict Json := []

/-- `{}` -/
def BrowserSession.empty : BrowserSession := {}

def BrowserSession.isEmpty (self : BrowserSession) : Bool :=
  self.sessionId.isNone && self.user.isNone && self.pkceVerifier.isNone &&
    self.oidcNonce.isNone && self.oauthState.isEmpty

/-- The identifier, where it is truthy. -/
def BrowserSession.shownId (self : BrowserSession) : Option String :=
  self.sessionId.filter (· ≠ "")

/-- `get_authenticated_session`, after `get_session` -/
def getAuthenticatedSession (found : Option (Dict Json)) (session : BrowserSession) :
    Option (Dict Json) :=
  match found with
  | some (field :: fields) => some (field :: fields)
  | _ =>
      match session.user with
      | some user => if user.truthy then some [("user", user)] else none
      | none => none

/-- `session.get(field) if session else None` -/
def sessionField (session : Option (Dict Json)) (field : String) : Json :=
  ((session.getD []).get? field).getD .null

/-! ## Logging in -/

section

variable [Python] [PythonFloat]

/-- What is found in a document is one. -/
theorem proper_getD {d : Json} (hd : Json.Proper d) (field : String) :
    Json.Proper (d.getD field) := by
  cases d with
  | obj fields =>
      rw [Json.getD, Json.get?]
      cases hlookup : fields.lookup field with
      | none => trivial
      | some v => exact Json.properFields_iff.mp hd.2 _ (Dict.mem_of_get? hlookup)
  | _ => trivial

theorem proper_or {a b : Json} (ha : Json.Proper a) (hb : Json.Proper b) :
    Json.Proper (a.or b) := by
  unfold Json.or
  split
  · exact ha
  · exact hb

/-- The token response of Auth0. -/
structure TokenResponse where
  fields : Dict Json
  proper : Json.Proper (.obj fields)

/-- `token.get(field)` -/
def TokenResponse.get (self : TokenResponse) (field : String) : Json :=
  (Json.obj self.fields).getD field

/-- What `authorize_access_token` comes to. -/
inductive Exchange where
  | token (token : TokenResponse)
  | oauthError (error description : String)
  | failed (text : String)

/-- A user that has logged in to a tenant, and its token. -/
structure Login where
  user : Session.User
  orgId : String
  accessToken : String
  strip_ne : strip orgId ≠ ""
  accessToken_ne : accessToken ≠ ""
  user_orgId : user.fields.get? "org_id" = some (.str orgId)

/-- Whether `value.get` is there. -/
def isObject : Json → Bool
  | .obj _ => true
  | _ => false

/-- The nonce of the id token is the expected one, if both are there.  `none` is an
`AttributeError`. -/
def nonceMatches (expected : Option String) (token : TokenResponse) : Option Bool :=
  match expected with
  | none => some true
  | some expected =>
      let claims := (token.get "id_token_claims").or (.obj [])
      if isObject claims = false then none
      else
        match claims.getD "nonce" with
        | .null => some true
        | nonce => some (nonce.same (.str expected))

/-- `token.get('userinfo') or token.get('id_token_claims')` -/
def userInfo (token : TokenResponse) : Json :=
  (token.get "userinfo").or (token.get "id_token_claims")

/-- The tenant claim.  `none` is an `AttributeError`. -/
def orgIdClaim (settings : Settings) (token : TokenResponse) : Option Json :=
  let orgId := (userInfo token).getD settings.auth0OrgIdClaim
  match orgId.truthy, token.get "userinfo" with
  | false, .null => some orgId
  | false, _ =>
      let claims := (token.get "id_token_claims").or (.obj [])
      if isObject claims then some (claims.getD settings.auth0OrgIdClaim) else none
  | true, _ => some orgId

/-- The user as it is kept in the session. -/
def userFields (info : Json) (orgId : String) : Dict Json :=
  [("id", info.getD "sub"), ("email", info.getD "email"), ("name", info.getD "name"),
    ("org_id", .str orgId),
    ("roles", ((info.getD "roles").or (info.getD "https://example.com/roles")).or (.arr []))]

theorem proper_userFields {info : Json} (hinfo : Json.Proper info) (orgId : String) :
    Json.Proper (.obj (userFields info orgId)) := by
  have hkeys : (userFields info orgId).map Prod.fst = ["id", "email", "name", "org_id", "roles"] :=
    rfl
  refine ⟨hkeys ▸ by decide, ?_⟩
  rw [Json.properFields_iff, userFields]
  simp only [List.forall_mem_cons]
  refine ⟨proper_getD hinfo _, proper_getD hinfo _, proper_getD hinfo _, trivial, ?_,
    List.forall_mem_nil _⟩
  exact proper_or (proper_or (proper_getD hinfo _) (proper_getD hinfo _)) trivial

theorem proper_userInfo (token : TokenResponse) : Json.Proper (userInfo token) :=
  proper_or (proper_getD token.proper _) (proper_getD token.proper _)

/-- The checks of `auth_callback` on a token response.  The error is the response, or
`none` for an exception. -/
def checkToken (settings : Settings) (expectedNonce : Option String) (token : TokenResponse) :
    Except (Option Response) Login :=
  match nonceMatches expectedNonce token with
  | none => .error none
  | some false => .error (some (errorResponse 401 "access_denied" (some "Invalid nonce") none))
  | some true =>
      if (userInfo token).truthy = false then
        .error (some (errorResponse 401 "access_denied"
          (some "Could not retrieve user information") none))
      else if isObject (userInfo token) = false then .error none
      else
        match orgIdClaim settings token with
        | none => .error none
        | some (.str orgId) =>
            if horg : strip orgId ≠ "" then
              match token.get "access_token" with
              | .str accessToken =>
                  if haccess : accessToken ≠ "" then
                    .ok
                      { user := ⟨userFields (userInfo token) orgId,
                          proper_userFields (proper_userInfo token) orgId⟩
                        orgId
                        accessToken
                        strip_ne := horg
                        accessToken_ne := haccess
                        user_orgId := rfl }
                  else .error (some (errorResponse 401 "access_denied"
                    (some "Missing access token") none))
              | _ => .error (some (errorResponse 401 "access_denied"
                  (some "Missing access token") none))
            else .error (some (errorResponse 403 "A trusted tenant claim is required"
              (some "missing_tenant_claim") none))
        | some _ => .error (some (errorResponse 403 "A trusted tenant claim is required"
            (some "missing_tenant_claim") none))

end

/-! ## Requests and stages -/

/-- The request that `proxy_graphql` forwards. -/
structure Proxied where
  content : String
  contentType : Option String
  correlationId : String

/-- `TextToSqlRequest` -/
structure TextToSqlRequest where
  query : String
  execute : Bool
  databaseId : String

/-- The routes that serve whoever is logged in. -/
inductive UserRoute where
  | proxyGraphql (post : Proxied)
  | textToSql (body : TextToSqlRequest)
  | getUser
  | getAdminOverview
  | getDashboard

/-- `@router.post` -/
def UserRoute.isPost : UserRoute → Bool
  | .proxyGraphql _ => true
  | .textToSql _ => true
  | _ => false

/-- The routes. -/
inductive Route where
  | login
  | authCallback
  | logoutPost
  | logoutGet
  | user (route : UserRoute)

/-- What reads a session. -/
inductive Reading [Python] [PythonFloat] where
  | logoutPost
  | performLogout
  /-- `auth_callback`, for the CSRF cookie -/
  | stamp (login : Login)
  /-- `get_authenticated_session` -/
  | user (route : UserRoute)

/-- Where a request waits. -/
inductive Stage [Python] [PythonFloat] where
  /-- The session middleware has not read the cookie. -/
  | arrived
  | entered
  /-- The store has answered what the session is, and the route has not gone on. -/
  | read (reading : Reading) (found : Option (Dict Json))
  /-- `auth_callback` is about to revoke the previous session. -/
  | exchanged (login : Login)
  /-- `auth_callback` is about to create the session. -/
  | creating (login : Login)
  /-- `auth_callback` is about to read the session it has created. -/
  | stamping (login : Login)
  /-- `_perform_logout` is about to read the session. -/
  | performingLogout
  /-- `_revoke_token_at_auth0` waits for Auth0. -/
  | revokingToken (accessToken : Json)
  /-- `_perform_logout` is about to revoke the session. -/
  | revoking
  /-- `proxy_graphql` waits for the SQL API. -/
  | forwarding (headers : Dict String) (content : String)
  /-- `text_to_sql` waits for its service. -/
  | converting (query : String) (execute : Bool) (accessToken : Json) (databaseId : String)
  /-- `get_dashboard` waits for the greeting. -/
  | greeting (user : Json)
  /-- `fetch_usage_summary` waits for Prometheus. -/
  | fetchingUsage (orgId : String)
  /-- A response has been sent, or an exception has left the route. -/
  | finished (response : Option Response)

/-- Where a route goes on. -/
inductive Next [Python] [PythonFloat] where
  | await (stage : Stage)
  | respond (response : Response)
  | raised

/-! ## The routes between two awaits -/

section

variable [Python] [PythonFloat]

/-- `auth_callback`, after `authorize_access_token` -/
def authCallback (settings : Settings) (session : BrowserSession) : Exchange → Next
  | .oauthError error description =>
      .respond (errorResponse 401 (if error = "" then "access_denied" else error) none
        (some (if description = "" then "Authentication failed" else description)))
  | .failed text => .respond (errorResponse 401 "access_denied" (some text) none)
  | .token token =>
      match checkToken settings session.oidcNonce token with
      | .error (some response) => .respond response
      | .error none => .raised
      | .ok login =>
          match session.shownId with
          | some _ => .await (.exchanged login)
          | none => .await (.creating login)

/-- What `auth_callback` leaves in the browser session when it has the outcome. -/
def popLogin (session : BrowserSession) : Exchange → BrowserSession
  | .token _ => { session with pkceVerifier := none, oidcNonce := none }
  | _ => session

/-- Whether a value is a `str`. -/
def isStr : Json → Bool
  | .str _ => true
  | _ => false

/-- `UserResponse(...).model_dump()` in its object, which takes texts only -/
def userResponse (user : Dict Json) : Option Response :=
  let field name := (user.get? name).getD .null
  if isStr (field "id") && isStr (field "email") && isStr (field "name") then
    some
      { status := 200
        content := .obj [("user", .obj [("id", field "id"), ("email", field "email"),
          ("name", field "name"), ("org_id", .null)])] }
  else none

/-- `auth_callback`, after `create_session` -/
def afterCreate (login : Login) : Next :=
  match userResponse login.user.fields with
  | some _ => .await (.stamping login)
  | none => .raised

/-- `set_csrf_cookie` -/
def setCsrfCookie (settings : Settings) (response : Response) (session : Option (Dict Json)) :
    Response :=
  let token := sessionField session "csrf_token"
  if token.truthy then { response with setsCsrf := some (csrfCookieName settings, token.toStr) }
  else response

/-- `auth_callback`, after the last `get_session` -/
def stamp (settings : Settings) (login : Login) (found : Option (Dict Json)) : Next :=
  match userResponse login.user.fields with
  | some response => .respond (setCsrfCookie settings response found)
  | none => .raised

/-- `_perform_logout`, after `get_session` -/
def performLogout (settings : Settings) (found : Option (Dict Json)) : Next :=
  let accessToken := sessionField found "access_token"
  if accessToken.truthy && settings.auth0Domain ≠ "" && settings.auth0ClientId ≠ "" then
    .await (.revokingToken accessToken)
  else .await .revoking

/-- `logout_post`, after `_perform_logout` -/
def loggedOut (settings : Settings) : Response where
  status := 200
  content := .obj [("logout_url", .str settings.logoutUrl)]
  clearsCsrf := true

/-- `logout_get` -/
def logoutGet : Response := errorResponse 405 "Use POST /api/logout" none none

/-- The headers that `proxy_graphql` sends upstream. -/
def proxyHeaders (accessToken : String) (post : Proxied) : Dict String :=
  [("Authorization", "Bearer " ++ accessToken),
    ("Content-Type", post.contentType.getD "application/json")] ++
  if post.correlationId ≠ "" ∧ post.correlationId ≠ "N/A" then
    [("X-Correlation-ID", post.correlationId), ("X-Request-ID", post.correlationId)]
  else []

/-- `is_admin`.  `none` is an exception. -/
def isAdmin (user : Json) : Option Bool :=
  match user with
  | .obj fields =>
      match (Dict.get? fields "roles").getD (.arr []) with
      | .str role => some (lower role = "admin")
      | .arr roles => some (roles.any fun role => lower role.toStr = "admin")
      | .obj roles => some (roles.any fun role => lower role.1 = "admin")
      | _ => none
  | _ => none

/-- `re.fullmatch(r"[A-Za-z0-9_-]+", org_id)` -/
def isOrgId (orgId : String) : Bool :=
  orgId ≠ "" && orgId.toList.all fun c => c.isAlphanum || c = '_' || c = '-'

/-- What `get_admin_overview` returns. -/
def overviewResponse (orgId : String) (usage : Dict Json) : Response where
  status := 200
  content := .obj [("org_id", .str orgId), ("organizations", .arr [.str orgId]),
    ("usage", .obj usage),
    ("source", .str (if ((usage.get? "source").getD .null).same (.str "prometheus") then
      "prometheus" else "config"))]

/-- `get_admin_overview`, for a user -/
def getAdminOverview (user : Json) : Next :=
  match isAdmin user with
  | none => .raised
  | some false => .respond (errorResponse 403 "Administrator role required" none none)
  | some true =>
      match user.getD "org_id" with
      | .str orgId =>
          if strip orgId = "" then
            .respond (errorResponse 403 "Organisation claim required" none none)
          else if isOrgId orgId then .await (.fetchingUsage orgId)
          else
            .respond (overviewResponse orgId [("queries_total", .int 0),
              ("rows_returned_total", .int 0), ("source", .str "invalid-org")])
      | _ => .respond (errorResponse 403 "Organisation claim required" none none)

/-- `message.strip() if isinstance(message, str) and message.strip() else ...` -/
def finalMessage (message : Option String) : String :=
  match message with
  | some message =>
      if strip message = "" then "Welcome back! You are successfully authenticated."
      else strip message
  | none => "Welcome back! You are successfully authenticated."

/-- `get_dashboard`, with the greeting -/
def dashboardResponse (user : Json) (message : Option String) : Next :=
  match user.getD "email", user.getD "name", user.getD "org_id" with
  | .str email, .str name, .str orgId =>
      .respond
        { status := 200
          content := .obj [("email", .str email), ("name", .str name), ("org_id", .str orgId),
            ("message", .str (finalMessage message))] }
  | .str email, .str name, .null =>
      .respond
        { status := 200
          content := .obj [("email", .str email), ("name", .str name), ("org_id", .null),
            ("message", .str (finalMessage message))] }
  | _, _, _ => .raised

/-- What the service of `text_to_sql` comes to. -/
inductive Conversion where
  | result (sql results schema : Json) (error : Option String)
  | valueError (text : String)
  | failed (text : String)

/-- `text_to_sql`, after its service -/
def conversionResponse (execute : Bool) : Conversion → Response
  | .result sql _ _ (some error) =>
      let isValidationError := decide ("validation".toList <:+: (lower error).toList) ||
        decide ("SQL validation".toList <:+: error.toList)
      { status := if isValidationError then 400 else 500
        content := .obj [("error", .str error), ("sql", sql)] }
  | .result sql results schema none =>
      { status := 200
        content := .obj [("sql", sql), ("results", if execute then results else .null),
          ("schema", schema)] }
  | .valueError text => errorResponse 400 text none none
  | .failed text =>
      errorResponse 500 ("Failed to process text-to-SQL request: " ++ text) none none

variable [PythonUrls]

/-- `logout_post`, after `get_session` -/
def logoutPost (settings : Settings) (request : Request) (found : Option (Dict Json)) : Next :=
  match found with
  | some (field :: fields) =>
      match csrfFailureReason settings request (some (field :: fields)) with
      | some reason => .respond (errorResponse 403 reason none none)
      | none => .await .performingLogout
  | _ => .await .performingLogout

/-- `proxy_graphql`, after `get_authenticated_session` -/
def proxyGraphql (settings : Settings) (request : Request) (post : Proxied)
    (session : Option (Dict Json)) : Next :=
  match sessionField session "access_token" with
  | .str accessToken =>
      if accessToken = "" then .respond notAuthenticated
      else
        match csrfFailureReason settings request session with
        | some reason => .respond (errorResponse 403 reason none none)
        | none => .await (.forwarding (proxyHeaders accessToken post) post.content)
  | _ => .respond notAuthenticated

/-- `text_to_sql`, after `get_authenticated_session` -/
def textToSql (settings : Settings) (request : Request) (body : TextToSqlRequest)
    (session : Option (Dict Json)) : Next :=
  let user := sessionField session "user"
  if user.truthy = false then .respond notAuthenticated
  else
    match csrfFailureReason settings request session with
    | some reason => .respond (errorResponse 403 reason none none)
    | none =>
        if strip body.query = "" then
          .respond (errorResponse 400 "Query cannot be empty" none none)
        else if isObject user = false then .raised
        else
          .await (.converting (strip body.query) body.execute (sessionField session "access_token")
            body.databaseId)

/-- `get_user`, `get_admin_overview` and `get_dashboard`, after
`get_authenticated_session` -/
def withUser (session : Option (Dict Json)) (route : Json → Next) : Next :=
  let user := sessionField session "user"
  if user.truthy = false then .respond notAuthenticated
  else if isObject user = false then .raised
  else route user

/-- `get_user` -/
def getUser (session : Option (Dict Json)) : Next :=
  withUser session fun user => .respond { status := 200, content := user }

/-- `get_dashboard`, up to the greeting -/
def getDashboard (settings : Settings) (session : Option (Dict Json)) : Next :=
  withUser session fun user =>
    if settings.enableAiGreeting then .await (.greeting user) else dashboardResponse user none

/-- A route, after `get_authenticated_session` -/
def UserRoute.serve (settings : Settings) (request : Request) (session : Option (Dict Json)) :
    UserRoute → Next
  | .proxyGraphql post => Bff.proxyGraphql settings request post session
  | .textToSql body => Bff.textToSql settings request body session
  | .getUser => Bff.getUser session
  | .getAdminOverview => withUser session Bff.getAdminOverview
  | .getDashboard => Bff.getDashboard settings session

/-- How a route goes on with the session it has read. -/
def Reading.next (settings : Settings) (request : Request) (session : BrowserSession)
    (found : Option (Dict Json)) : Reading → Next
  | .logoutPost => Bff.logoutPost settings request found
  | .performLogout => Bff.performLogout settings found
  | .stamp login => Bff.stamp settings login found
  | .user route => route.serve settings request (getAuthenticatedSession found session)

/-! ## What the routes come to -/

omit [PythonUrls] in
/-- A token response that does not pass is answered with an error. -/
theorem status_of_checkToken {settings : Settings} {expectedNonce : Option String}
    {token : TokenResponse} {response : Response}
    (h : checkToken settings expectedNonce token = .error (some response)) :
    response.status ≠ 200 := by
  unfold checkToken at h
  -- every error is a literal response, or an exception
  repeat' split at h
  all_goals
    cases h
    try decide

omit [Python] [PythonFloat] [PythonUrls] in
theorem userResponse_setsCsrf {user : Dict Json} {response : Response}
    (h : userResponse user = some response) : response.setsCsrf = none := by
  simp only [userResponse] at h
  split at h
  · rw [← Option.some.inj h]
  · contradiction

omit [PythonUrls] in
/-- `set_csrf_cookie` sets the token of the session. -/
theorem setCsrfCookie_dict (settings : Settings) (response : Response)
    (payload : Session.Payload) :
    (setCsrfCookie settings response (some payload.dict)).setsCsrf =
      some (csrfCookieName settings, payload.csrfToken.text) := by
  have hfield : sessionField (some payload.dict) "csrf_token" = .str payload.csrfToken.text := rfl
  simp only [setCsrfCookie, hfield]
  rw [if_pos (Json.truthy_str_iff.mpr payload.csrfToken.text_ne)]
  rfl

/-- The stages of a route that serves a user. -/
def Stage.Serving : Stage → Prop
  | .forwarding _ _ | .converting _ _ _ _ | .greeting _ | .fetchingUsage _ => True
  | _ => False

omit [PythonUrls] in
theorem dashboardResponse_ne_await {user : Json} {message : Option String} {stage : Stage} :
    dashboardResponse user message ≠ .await stage := by
  unfold dashboardResponse
  split <;> exact fun h => by cases h

omit [PythonUrls] in
theorem withUser_serving {session : Option (Dict Json)} {route : Json → Next} {stage : Stage}
    (hroute : ∀ user, route user = .await stage → stage.Serving)
    (h : withUser session route = .await stage) : stage.Serving := by
  simp only [withUser] at h
  split at h
  · contradiction
  · split at h
    · contradiction
    · exact hroute _ h

omit [PythonUrls] in
theorem getAdminOverview_serving {user : Json} {stage : Stage}
    (h : getAdminOverview user = .await stage) : stage.Serving := by
  unfold getAdminOverview at h
  split at h
  · contradiction
  · contradiction
  · split at h
    · split at h
      · contradiction
      · split at h
        · obtain rfl := Next.await.inj h
          trivial
        · contradiction
    · contradiction

theorem serve_serving {settings : Settings} {request : Request} {session : Option (Dict Json)}
    {route : UserRoute} {stage : Stage}
    (h : route.serve settings request session = .await stage) : stage.Serving := by
  cases route with
  | proxyGraphql post =>
      simp only [UserRoute.serve, proxyGraphql] at h
      split at h
      · split at h
        · contradiction
        · split at h
          · contradiction
          · obtain rfl := Next.await.inj h
            trivial
      · contradiction
  | textToSql body =>
      simp only [UserRoute.serve, textToSql] at h
      split at h
      · contradiction
      · split at h
        · contradiction
        · split at h
          · contradiction
          · split at h
            · contradiction
            · obtain rfl := Next.await.inj h
              trivial
  | getUser =>
      rw [UserRoute.serve, getUser] at h
      refine withUser_serving ?_ h
      intro user huser
      contradiction
  | getAdminOverview =>
      rw [UserRoute.serve] at h
      refine withUser_serving ?_ h
      intro user huser
      exact getAdminOverview_serving huser
  | getDashboard =>
      rw [UserRoute.serve, getDashboard] at h
      refine withUser_serving ?_ h
      intro user huser
      split at huser
      · obtain rfl := Next.await.inj huser
        trivial
      · exact absurd huser dashboardResponse_ne_await

end

end DbGateway.Bff
