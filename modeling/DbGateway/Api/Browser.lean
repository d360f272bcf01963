import DbGateway.Api.Gate
import DbGateway.Bff.Safety

/-!
# DbGateway.Api.Browser

From a browser's cookie to the principal that the SQL API acts for.

The browser-facing API forwards a request with the access token of the session
that the cookie names, and nothing the browser has sent of its own; the SQL API
asks the identity provider whose token that is (`principal_of_session`).
-/

namespace DbGateway.Api

section

open Json (PythonFloat)
open Url (PythonUrls)
open Session (Time Backend Payload)
open Sql (startsWith)

/-! ## Headers on the way -/

/-- Stripping headers a client could pass for an identity with leaves all others. -/
theorem lookup_stripSpoofableHeaders {name : String}
    (hname : Auth.spoofableHeaderPrefixes.any (startsWith (mapChars Char.toLower name)) = false)
    (headers : Auth.Headers) :
    (Auth.stripSpoofableHeaders headers).lookup name = headers.lookup name := by
  unfold Auth.stripSpoofableHeaders
  induction headers with
  | nil => rfl
  | cons header headers ih =>
      obtain ⟨first, value⟩ := header
      by_cases hsame : name = first
      · subst hsame
        rw [List.filter_cons_of_pos (by simp [hname]), List.lookup_cons_self,
          List.lookup_cons_self]
      · have hne : (name == first) = false := beq_false_of_ne hsame
        rw [List.lookup_cons, hne]
        cases hspoofable : Auth.spoofableHeaderPrefixes.any
            (startsWith (mapChars Char.toLower first)) with
        | false =>
            rw [List.filter_cons_of_pos (by simp [hspoofable]), List.lookup_cons, hne]
            exact ih
        | true =>
            rw [List.filter_cons_of_neg (by simp [hspoofable])]
            exact ih

variable [Python]

theorem lower_bearer : lower "Bearer" = "bearer" := by
  rw [Python.lower_ascii _ (ascii_of_all (by decide))]
  decide

/-- The token of an `Authorization` header as the browser-facing API writes it. -/
theorem extractBearerToken_bearer {headers : Auth.Headers} {accessToken : String}
    (h : headers.lookup "authorization" = some ("Bearer " ++ accessToken)) :
    Auth.extractBearerToken headers = if accessToken = "" then none else some accessToken := by
  have hchars : ("Bearer " ++ accessToken).toList =
      ['B', 'e', 'a', 'r', 'e', 'r'] ++ ' ' :: accessToken.toList := by
    rw [String.toList_append]
    rfl
  have hletters : ∀ c ∈ ['B', 'e', 'a', 'r', 'e', 'r'], decide (c ≠ ' ') = true := by simp
  have hscheme : (['B', 'e', 'a', 'r', 'e', 'r'] ++ ' ' :: accessToken.toList).takeWhile (· ≠ ' ') =
      ['B', 'e', 'a', 'r', 'e', 'r'] := by
    rw [List.takeWhile_append_of_pos hletters, List.takeWhile_cons_of_neg (by decide),
      List.append_nil]
  have htoken : (['B', 'e', 'a', 'r', 'e', 'r'] ++ ' ' :: accessToken.toList).dropWhile (· ≠ ' ') =
      ' ' :: accessToken.toList := by
    rw [List.dropWhile_append_of_pos hletters, List.dropWhile_cons_of_neg (by decide)]
  have hne : "Bearer " ++ accessToken ≠ "" := by
    intro hempty
    have := congrArg String.toList hempty
    rw [hchars] at this
    exact nomatch this
  have hbearer : lower (String.ofList ['B', 'e', 'a', 'r', 'e', 'r']) = "bearer" := lower_bearer
  rw [Auth.extractBearerToken, h]
  simp only [hchars, hscheme, htoken, List.drop_succ_cons, List.drop_zero, String.ofList_toList,
    hbearer]
  by_cases hempty : accessToken = ""
  · simp [hempty]
  · simp [hempty, hne]

/-! ## From the cookie to the principal -/

variable [PythonFloat] [PythonUrls] {settings : Bff.Settings} {backend : Backend} {start : Time}
  {legacy : List Bff.BrowserSession} {S : Cooperative.System Bff.Shared Bff.Task}
  {s' s₁ s₂ : Bff.Shared} {t t' t₁ : Bff.Task} {post : Bff.Proxied} {headers : Dict String}
  {content : String} {stack : Stack} {providers : Auth.Auth0 → Prop} {boot : Rat}
  {A : Cooperative.System Limits Task} {u : Task} {d : Delivered}

/-- A request of the SQL API carries what the browser-facing API has forwarded. -/
def Carries (scope : Scope) (headers : Dict String) : Prop :=
  scope.decoded.lookup "authorization" = headers.get? "Authorization"

/-- **Whom the SQL API acts for**: in every interleaving of both services, a
GraphQL request of a browser that reaches its route is executed for the principal
that the identity provider names for the access token of the session its cookie
names; that session was live when it was read, was created by a login, and the
request has shown its CSRF token from an allowed origin. -/
theorem principal_of_session (hlegacy : ∀ session ∈ legacy, session.sessionId = none)
    (h : Bff.Reachable settings backend start legacy S) (ht : t ∈ S.tasks)
    (hentered : t.stage = .entered) (hroute : t.route = .user (.proxyGraphql post))
    (hread : Bff.Segment settings backend start S.shared t s₁ t₁)
    (hsegment : Bff.Segment settings backend start s₂ t₁ s' t')
    (hforwarding : t'.stage = .forwarding headers content)
    (hA : Reachable stack providers boot A) (hu : u ∈ A.tasks) (hdelivered : u.stage = .delivered d)
    (hguarded : u.scope.Guarded) (hcarries : Carries u.scope headers) :
    ∃ call payload, t.cookie.sessionId = some call.sessionId.text ∧
      Bff.Live start s₁.log call payload ∧ Bff.FromLogin call ∧
      Bff.CsrfSafe settings t.request call.csrfToken.text ∧
      ∃ auth0 claims principal, providers auth0 ∧
        Auth.validateAccessToken auth0 call.accessToken = .claims claims ∧
        Auth.buildPrincipalFromClaims claims = .ok (some principal) ∧
        d.principal = some principal := by
  have hserved : t'.stage.Served := by
    rw [hforwarding]
    trivial
  obtain ⟨hsound, hknows⟩ := h.sound hlegacy
  obtain ⟨call, payload, hid, hlive, hlogin, hserves, hsafe⟩ :=
    hread.served hsound (hknows t ht) hentered hroute (.inl rfl) hsegment hserved
  rw [hforwarding] at hserves
  obtain ⟨rfl, -⟩ : headers = Bff.proxyHeaders call.accessToken post ∧ content = post.content :=
    hserves
  refine ⟨call, payload, hid, hlive, hlogin, hsafe rfl, ?_⟩
  have hroutable : Delivered.Sound stack providers u.scope u.received d := by
    have hstage := (Reachable.forall_gated hA hu).stage
    rwa [hdelivered] at hstage
  obtain ⟨auth0, principal, hauth0, hprincipal, hauthenticates⟩ := hroutable.principal hguarded
  obtain ⟨token, claims, htoken, hclaims, hbuilt⟩ := hauthenticates.validated
  have hheader : (Auth.stripSpoofableHeaders u.scope.decoded).lookup "authorization" =
      some ("Bearer " ++ call.accessToken) := by
    rw [lookup_stripSpoofableHeaders (by decide), hcarries]
    rfl
  rw [Scope.request, extractBearerToken_bearer hheader] at htoken
  split at htoken
  · contradiction
  · rw [← Option.some.inj htoken] at hclaims
    exact ⟨auth0, claims, principal, hauth0, hclaims, hbuilt, hprincipal⟩

end

/-! ## A query of somebody who has logged in -/

section

local instance : Python := Json.whole
local instance : Json.PythonFloat := Json.wholeFloat
local instance : Url.PythonUrls := Bff.wholeUrls

/-- The query, once its body has come in. -/
def queryAfter : Limits × Task :=
  (titleDrained.advance titleStack { now := 0 } titleWake).getD ({ now := 0 }, titleDrained)

theorem reachable_query :
    Reachable titleStack (· = titleProvider) 0 ⟨queryAfter.1, [queryAfter.2]⟩ := by
  have harrived : Reachable titleStack (· = titleProvider) 0 ⟨{ now := 0 }, [titleArrived]⟩ :=
    .single (.arrive ⟨rfl, rfl⟩)
  have hentered : Segment titleStack (· = titleProvider) { now := 0 } titleArrived { now := 0 }
      titleDrained := ⟨⟨.inl titleId, titleProvider, 0⟩, rfl, le_rfl, rfl⟩
  exact (harrived.tail (.run [] [] hentered)).tail
    (.run [] [] ⟨titleWake, rfl, le_rfl, rfl⟩)

/-- It is executed for the one the login's token stands for. -/
theorem principal_of_session_graphql : ∃ call : Session.Create, call.sessionId.text = "id" ∧
    ∃ claims principal, Auth.validateAccessToken titleProvider call.accessToken = .claims claims ∧
      Auth.buildPrincipalFromClaims claims = .ok (some principal) ∧ principal.userId = "alice" := by
  have hdelivered : ∃ d, queryAfter.2.stage = .delivered d ∧
      d.principal.map (·.userId) = some "alice" := ⟨_, rfl, rfl⟩
  obtain ⟨d, hstage, halice⟩ := hdelivered
  obtain ⟨call, payload, hid, -, -, -, auth0, claims, principal, rfl, hclaims, hbuilt, hprincipal⟩ :=
    principal_of_session (fun session hsession => absurd hsession List.not_mem_nil)
      (Bff.reachable_entered (.user (.proxyGraphql Bff.appPost)))
      (List.mem_cons_of_mem _ List.mem_cons_self) rfl rfl Bff.segment_read
      Bff.segment_forwarding rfl
      reachable_query List.mem_cons_self hstage ⟨rfl, rfl⟩ rfl
  rw [hprincipal] at halice
  exact ⟨call, (Option.some.inj hid).symm, claims, principal, hclaims, hbuilt,
    Option.some.inj halice⟩

end

end DbGateway.Api
