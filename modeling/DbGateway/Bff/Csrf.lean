import DbGateway.Csrf
import DbGateway.Session.Store

/-!
# DbGateway.Bff.Csrf

`csrf_failure_reason` of `security/csrf.py`: what a state-changing request of a
browser has to show beside its session cookie.

The checks come to a condition on the request and the session's own token
(`csrfFailureReason_dict_iff`); a session without a token passes none of them.
-/

namespace DbGateway.Bff

open Json (PythonFloat)
open Url (PythonUrls)

/-- The settings the routes read. -/
structure Settings extends Csrf.Settings where
  sessionCookieSecure : Bool
  sessionMaxAge : Int
  auth0OrgIdClaim : String
  auth0Domain : String
  auth0ClientId : String
  /-- where `_perform_logout` sends the browser -/
  logoutUrl : String
  enableAiGreeting : Bool

/-- The headers and the cookies of a request, but for the session cookie. -/
structure Request extends Csrf.Request where
  requestedWith : Option String
  fetchSite : Option String
  csrfToken : Option String
  cookies : Dict String

/-- `CSRF_FAILURE_DETAIL` -/
def csrfFailureDetail : String := "CSRF protection failed"

/-- `_csrf_cookie_name` -/
def csrfCookieName (settings : Settings) : String :=
  if settings.sessionCookieSecure then "__Host-csrf_token" else "csrf_token"

/-- `a or b` for texts that may be missing. -/
def orText (a b : Option String) : Option String :=
  match a with
  | some text => if text = "" then b else some text
  | none => b

/-- `request.cookies.get(_csrf_cookie_name()) or request.cookies.get(CSRF_COOKIE_NAME)` -/
def cookieToken (settings : Settings) (request : Request) : Option String :=
  orText (request.cookies.get? (csrfCookieName settings)) (request.cookies.get? "csrf_token")

section

variable [Python] [PythonUrls]

/-- `fetch_site and fetch_site.lower() not in {"same-origin", "same-site"}` -/
def isCrossSite (fetchSite : Option String) : Bool :=
  match fetchSite with
  | some site => site ≠ "" && lower site ∉ ["same-origin", "same-site"]
  | none => false

/-- The double-submit check: the cookie, the header and the session have one token. -/
def tokenFailure (cookieToken headerToken : Option String) (session : Option (Dict Json)) :
    Option String :=
  match cookieToken, headerToken with
  | some cookieToken, some headerToken =>
      if cookieToken = "" ∨ headerToken = "" then some csrfFailureDetail
      else if cookieToken ≠ headerToken then some csrfFailureDetail
      else
        match (session.getD []).get? "csrf_token" with
        | none => some csrfFailureDetail
        | some .null => some csrfFailureDetail
        | some token => if cookieToken ≠ token.toStr then some csrfFailureDetail else none
  | _, _ => some csrfFailureDetail

/-- `csrf_failure_reason` -/
def csrfFailureReason (settings : Settings) (request : Request) (session : Option (Dict Json)) :
    Option String :=
  if request.requestedWith ≠ some "XMLHttpRequest" then some csrfFailureDetail
  else if Csrf.requestOriginIsAllowed settings.toSettings request.toRequest = false then
    some csrfFailureDetail
  else if isCrossSite request.fetchSite = true then some csrfFailureDetail
  else tokenFailure (cookieToken settings request) request.csrfToken session

/-- What a request shows that comes from the frontend of a session with a token. -/
structure CsrfSafe (settings : Settings) (request : Request) (token : String) : Prop where
  marker : request.requestedWith = some "XMLHttpRequest"
  origin : Csrf.requestOriginIsAllowed settings.toSettings request.toRequest = true
  site : isCrossSite request.fetchSite = false
  cookie : cookieToken settings request = some token
  header : request.csrfToken = some token

variable {settings : Settings} {request : Request} {session : Option (Dict Json)}

omit [PythonUrls] in
theorem tokenFailure_eq_none {cookieToken headerToken : Option String}
    (h : tokenFailure cookieToken headerToken session = none) :
    ∃ token stored, cookieToken = some token ∧ headerToken = some token ∧ token ≠ "" ∧
      (session.getD []).get? "csrf_token" = some stored ∧ stored.toStr = token := by
  unfold tokenFailure at h
  split at h
  case h_2 => contradiction
  case h_1 cookie header =>
    split at h
    case isTrue => contradiction
    case isFalse hempty =>
      split at h
      case isTrue => contradiction
      case isFalse hsame =>
        split at h
        case h_1 => contradiction
        case h_2 => contradiction
        case h_3 stored hnull hstored =>
          split at h
          case isTrue => contradiction
          case isFalse htoken =>
            rw [not_or] at hempty
            rw [not_not] at hsame htoken
            exact ⟨cookie, stored, rfl, hsame ▸ rfl, hempty.1, hstored, htoken.symm⟩

omit [PythonUrls] in
theorem tokenFailure_self {token : String} (hne : token ≠ "")
    (hstored : (session.getD []).get? "csrf_token" = some (.str token)) :
    tokenFailure (some token) (some token) session = none := by
  unfold tokenFailure
  simp only [hne, or_self, if_false, ne_eq, not_true_eq_false, hstored, Json.toStr_str]

/-- A request that passes has the session's own token in its cookie and its header. -/
theorem csrfFailureReason_eq_none (h : csrfFailureReason settings request session = none) :
    ∃ token stored, CsrfSafe settings request token ∧
      (session.getD []).get? "csrf_token" = some stored ∧ stored.toStr = token := by
  unfold csrfFailureReason at h
  split at h
  case isTrue => contradiction
  case isFalse hmarker =>
    split at h
    case isTrue => contradiction
    case isFalse horigin =>
      split at h
      case isTrue => contradiction
      case isFalse hsite =>
        obtain ⟨token, stored, hcookie, hheader, -, hstored, htoken⟩ := tokenFailure_eq_none h
        refine ⟨token, stored, ⟨not_not.mp hmarker, ?_, ?_, hcookie, hheader⟩, hstored, htoken⟩
        · exact Bool.not_eq_false _ ▸ horigin
        · exact Bool.not_eq_true _ ▸ hsite

/-- A session without a token passes nothing. -/
theorem csrfFailureReason_ne_none (hsession : (session.getD []).get? "csrf_token" = none) :
    csrfFailureReason settings request session ≠ none := by
  intro h
  obtain ⟨token, stored, -, hstored, -⟩ := csrfFailureReason_eq_none h
  rw [hsession] at hstored
  contradiction

variable [PythonFloat]

/-- **CSRF**: a request passes with a session of the store exactly if it is safe for
the session's token. -/
theorem csrfFailureReason_dict_iff {payload : Session.Payload} :
    csrfFailureReason settings request (some payload.dict) = none ↔
      CsrfSafe settings request payload.csrfToken.text := by
  have hdict : payload.dict.get? "csrf_token" = some (.str payload.csrfToken.text) := rfl
  constructor
  · intro h
    obtain ⟨token, stored, hsafe, hstored, htoken⟩ := csrfFailureReason_eq_none h
    rw [Option.getD_some, hdict] at hstored
    rw [← Option.some.inj hstored, Json.toStr_str] at htoken
    rwa [htoken]
  · intro hsafe
    unfold csrfFailureReason
    rw [if_neg (not_not.mpr hsafe.marker), if_neg (by simp [hsafe.origin]),
      if_neg (by simp [hsafe.site]), hsafe.cookie, hsafe.header]
    exact tokenFailure_self payload.csrfToken.text_ne hdict

end

end DbGateway.Bff
