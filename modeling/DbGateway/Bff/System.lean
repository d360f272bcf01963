import DbGateway.Bff.Routes
import DbGateway.Cooperative

/-!
# DbGateway.Bff.System

The browser-facing API as a system: the requests it has taken, each between two
awaits, over the session store and the session cookies it has signed.

A browser can send any cookie that was ever signed, as often as it likes and in
any request, and nothing else: a signed cookie is its place in `Shared.issued`.
Everything another service answers, every token drawn and the clock are in the
`Wake` of a segment.  Others can run between the answer of the store and what a
route does with the session it has read.
-/

namespace DbGateway.Bff

open Json (PythonFloat)
open Url (PythonUrls)
open Session (Time Backend Event)

/-! ## State -/

section

variable [Python] [PythonFloat]

/-- The session store with the calls made to it, and the session cookies signed so
far. -/
structure Shared where
  world : Session.World
  log : List Event
  issued : List BrowserSession

/-- A call of the store, or the passing of time. -/
def Shared.record (backend : Backend) (s : Shared) (event : Event) : Shared :=
  { s with world := Session.step backend s.world event, log := s.log ++ [event] }

/-- `get_session` -/
def Shared.get (backend : Backend) (s : Shared) (sessionId : Option String) :
    Except Session.Error (Option (Dict Json)) × Shared :=
  ((Session.getSession backend s.world sessionId).1, s.record backend (.get sessionId))

/-- `create_session` -/
def Shared.create (backend : Backend) (s : Shared) (call : Session.Create) :
    Except Session.Error String × Shared :=
  ((Session.createSession backend s.world call).1, s.record backend (.create call))

/-- The session middleware signs what is in the session, if there is anything. -/
def Shared.sign (s : Shared) (session : BrowserSession) : Shared :=
  if session.isEmpty then s else { s with issued := s.issued ++ [session] }

/-- The store is empty; cookies of earlier releases may be around. -/
def Shared.start (start : Time) (legacy : List BrowserSession) : Shared :=
  ⟨Session.World.initial start, [], legacy⟩

/-- A request.  `presented` is the signed cookie it carries, `cookie` what the session
middleware has made of it. -/
structure Task where
  route : Route
  request : Request
  presented : Option Nat
  cookie : BrowserSession
  session : BrowserSession
  stage : Stage

/-- A request that has just arrived. -/
def Task.Fresh (t : Task) : Prop := t.stage = .arrived ∧ t.cookie = .empty ∧ t.session = .empty

/-- What ends a wait. -/
inductive Wake where
  /-- The session middleware reads the cookie, whose signature may have expired. -/
  | load (expired : Bool)
  /-- `authorize_redirect` returns a location or raises. -/
  | redirected (verifier nonce : String) (oauthState : Dict Json) (outcome : Except String String)
  /-- `authorize_access_token` returns or raises. -/
  | exchanged (oauthState : Dict Json) (outcome : Exchange)
  /-- The call of the store is made. -/
  | called
  /-- The route goes on with what the store has answered. -/
  | resumed
  /-- The call of `create_session` is made, which draws two tokens. -/
  | created (sessionId csrfToken : Session.Token) (deadline : Option Rat)
  /-- Auth0 has answered, or not. -/
  | tokenRevoked
  /-- The SQL API answers, or `client.post` raises. -/
  | upstream (answer : Option (Nat × String))
  | converted (conversion : Conversion)
  | greeted (message : Option String)
  | usage (summary : Dict Json)

/-! ## Segments -/

/-- A route has come to its next await or its end.  The cookie is signed with the
response. -/
def Shared.finish (s : Shared) (t : Task) : Next → Shared × Task
  | .await stage => (s, { t with stage })
  | .respond response => (s.sign t.session, { t with stage := .finished (some response) })
  | .raised => (s, { t with stage := .finished none })

/-- `login`, around `authorize_redirect` -/
def Task.login (s : Shared) (t : Task) (verifier nonce : String) (oauthState : Dict Json)
    (outcome : Except String String) : Shared × Task :=
  let session := { t.session with
    pkceVerifier := some verifier, oidcNonce := some nonce, oauthState }
  match outcome with
  | .ok location =>
      s.finish { t with session } (.respond { status := 302, content := .null, location })
  | .error text =>
      s.finish { t with session }
        (.respond (errorResponse 500 "Failed to initiate login" (some text) none))

/-- `create_session(user, access_token, settings.SESSION_MAX_AGE)` -/
def Login.call (settings : Settings) (login : Login) (sessionId csrfToken : Session.Token)
    (deadline : Option Rat) : Session.Create where
  user := login.user
  accessToken := login.accessToken
  ttlSeconds := settings.sessionMaxAge
  sessionId
  csrfToken
  deadline

/-- `auth_callback`, when it creates the session -/
def Task.create (backend : Backend) (s : Shared) (t : Task) (login : Login)
    (call : Session.Create) : Shared × Task :=
  match s.create backend call with
  | (.error _, s') => s'.finish { t with session := .empty } .raised
  | (.ok id, s') => s'.finish { t with session := { sessionId := some id } } (afterCreate login)

/-- The store is asked for the session that the cookie names. -/
def Task.lookUp (backend : Backend) (s : Shared) (t : Task) (reading : Reading) : Shared × Task :=
  match s.get backend t.session.sessionId with
  | (.error _, s') => s'.finish t .raised
  | (.ok found, s') => (s', { t with stage := .read reading found })

/-- What a request does that has been loaded. -/
def Task.enter (settings : Settings) (backend : Backend) (s : Shared) (t : Task) (wake : Wake) :
    Option (Shared × Task) :=
  match t.route, wake with
  | .login, .redirected verifier nonce oauthState outcome =>
      some (t.login s verifier nonce oauthState outcome)
  | .authCallback, .exchanged oauthState outcome =>
      let session := { popLogin t.session outcome with oauthState }
      some (s.finish { t with session } (authCallback settings t.session outcome))
  | .logoutPost, .called =>
      match t.session.shownId with
      | some _ => some (t.lookUp backend s .logoutPost)
      | none => some (s, { t with stage := .revoking })
  | .logoutGet, .called => some (s.finish t (.respond logoutGet))
  | .user route, .called => some (t.lookUp backend s (.user route))
  | _, _ => none

variable [PythonUrls]

/-- A request is taken to its next await. -/
def Task.advance (settings : Settings) (backend : Backend) (s : Shared) (t : Task) (wake : Wake) :
    Option (Shared × Task) :=
  match t.stage, wake with
  | .arrived, .load expired =>
      let cookie :=
        if expired then .empty else (t.presented.bind fun place => s.issued[place]?).getD .empty
      some (s, { t with cookie, session := cookie, stage := .entered })
  | .entered, wake => t.enter settings backend s wake
  | .read reading found, .resumed =>
      some (s.finish t (reading.next settings t.request t.session found))
  | .exchanged login, .called =>
      some (s.record backend (.revoke t.session.sessionId), { t with stage := .creating login })
  | .creating login, .created sessionId csrfToken deadline =>
      some (t.create backend s login (login.call settings sessionId csrfToken deadline))
  | .stamping login, .called => some (t.lookUp backend s (.stamp login))
  | .performingLogout, .called => some (t.lookUp backend s .performLogout)
  | .revokingToken _, .tokenRevoked => some (s, { t with stage := .revoking })
  | .revoking, .called =>
      some ((s.record backend (.revoke t.session.sessionId)).finish { t with session := .empty }
        (.respond (loggedOut settings)))
  | .forwarding _ _, .upstream (some (status, content)) =>
      some (s.finish t (.respond { status, content := .str content }))
  | .forwarding _ _, .upstream none => some (s.finish t .raised)
  | .converting _ execute _ _, .converted conversion =>
      some (s.finish t (.respond (conversionResponse execute conversion)))
  | .greeting user, .greeted message => some (s.finish t (dashboardResponse user message))
  | .fetchingUsage orgId, .usage summary =>
      some (s.finish t (.respond (overviewResponse orgId summary)))
  | _, _ => none

/-- A segment of a request, some time after the last.  Tokens are drawn afresh, the
clock does not go back, and Redis keeps a session for its time at least. -/
def Segment (settings : Settings) (backend : Backend) (start : Time) (s : Shared) (t : Task)
    (s' : Shared) (t' : Task) : Prop :=
  Runs.Throughout (Session.Allowed start) s'.log ∧
    ∃ now wake, t.advance settings backend (s.record backend (.advance now)) wake = some (s', t')

/-- The system and its requests. -/
abbrev Reachable (settings : Settings) (backend : Backend) (start : Time)
    (legacy : List BrowserSession) (S : Cooperative.System Shared Task) : Prop :=
  Cooperative.Reachable Task.Fresh (Segment settings backend start) (.start start legacy) S

end

end DbGateway.Bff
