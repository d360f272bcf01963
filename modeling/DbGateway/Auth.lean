import DbGateway.Policy.Model
import DbGateway.Sql.Cleaner

/-!
# DbGateway.Auth

`auth.py` and `middlewares/rbac_middleware.py`: from the headers of a request to
the principal it is forwarded with.

The identity provider's signing keys and the verification of a token against
them are outside; here they are a function of the token (`Auth0.verify`).
-/

namespace DbGateway.Auth

open Sql (startsWith splitWords)

/-- The headers of a request as the server hands them over, names in lower
case. -/
abbrev Headers := List (String × String)

/-- What comes of a token: its claims, `None`, or an exception that is not
caught. -/
inductive Validated where
  | claims (claims : Dict Json)
  | invalid
  | raised

/-- The configured identity provider. -/
structure Auth0 where
  domain : String
  audience : String
  /-- `get_signing_key_from_jwt` and `jwt.decode` -/
  verify : String → Validated

/-- `TENANT_ID_CLAIM` -/
def tenantIdClaim : String := "https://app.secure-db-access-gateway.org/tenant_id"

/-- `SPOOFABLE_HEADER_PREFIXES` -/
def spoofableHeaderPrefixes : List String := ["x-user-", "x-org-", "x-tenant-"]

/-- `_strip_spoofable_headers` -/
def stripSpoofableHeaders (headers : Headers) : Headers :=
  headers.filter fun header =>
    !spoofableHeaderPrefixes.any (startsWith (mapChars Char.toLower header.1))

variable [Python]

/-- Extract a bearer token from the Authorization header. -/
def extractBearerToken (headers : Headers) : Option String :=
  match headers.lookup "authorization" with
  | none => none
  | some header =>
      -- `header.partition(" ")`
      let scheme := String.ofList (header.toList.takeWhile (· ≠ ' '))
      let token := String.ofList ((header.toList.dropWhile (· ≠ ' ')).drop 1)
      if header = "" || lower scheme ≠ "bearer" || token = "" then none else some token

/-- Verify an Auth0 bearer token and return its validated claims. -/
def validateAccessToken (auth0 : Auth0) (token : String) : Validated :=
  if token = "" || auth0.domain = "" || auth0.audience = "" then .invalid
  else
    match auth0.verify token with
    | .claims claims =>
        match ((Json.obj claims).getD "scope").or ((Json.obj claims).getD "scp") with
        | .null => .claims claims
        | .str scope =>
            if scope ≠ "" && (splitWords scope).all (· ∉ ["openid", "profile", "email"]) then
              .invalid
            else .claims claims
        | _ => .invalid
    | validated => validated

/-- `claims.get("roles") or claims.get(…) or []`, one role for a string. -/
def rawRoles (claims : Json) : Json :=
  match ((claims.getD "roles").or
      (claims.getD "https://app.read-only-database-explorer.org/roles")).or (.arr []) with
  | .str role => .arr [.str role]
  | roles => roles

/-- Map validated Auth0 claims to the internal principal contract. -/
def buildPrincipalFromClaims (claims : Dict Json) : Except PyError (Option Principal) :=
  if claims = [] then .ok none
  else do
    let value := Json.obj claims
    let roles ← iterate (rawRoles value)
    let normalizedRoles := (roles.filter fun role => strip role.toStr ≠ "").map
      fun role => lower role.toStr
    match value.getD "sub",
        ((value.getD "email").or (value.getD "preferred_username")).or (value.getD "sub"),
        value.getD tenantIdClaim with
    | .str userId, .str email, .str orgId =>
        if strip userId = "" || strip email = "" || strip orgId = "" then return none
        else return some {
          userId := userId
          email := email
          orgId := orgId
          roles := normalizedRoles.toFinset
          attributes := claims.filter fun claim =>
            claim.1 ∉ ["sub", "email", "preferred_username", "roles", tenantIdClaim] }
    | _, _, _ => return none

/-! ## The middleware -/

/-- An ASGI scope. -/
structure Scope where
  type : String := "http"
  path : String
  headers : Headers

/-- What becomes of a scope: it is forwarded with the principal of its state,
answered with 401 for the reason that is audited, or raises. -/
inductive Response where
  | forwarded (principal : Option Principal)
  | unauthorized (reason : String)
  | raised

/-- `RBACMiddleware.__call__` -/
def rbacMiddleware (auth0 : Auth0) (scope : Scope) : Response :=
  if scope.type ≠ "http" then .forwarded none
  else
    let headers := stripSpoofableHeaders scope.headers
    if startsWith scope.path "/graphql" then
      match (match extractBearerToken headers with
        | some token => validateAccessToken auth0 token
        | none => .invalid) with
      | .raised => .raised
      | .invalid => .unauthorized "missing_or_invalid_bearer_token"
      | .claims claims =>
          match buildPrincipalFromClaims claims with
          | .error _ => .raised
          | .ok none => .unauthorized "principal_from_claims_failed"
          | .ok (some principal) => .forwarded (some principal)
    else .forwarded none

/-- A GraphQL request whose token validates to the principal. -/
structure Authenticates (auth0 : Auth0) (scope : Scope) (principal : Principal) : Prop where
  http : scope.type = "http"
  graphql : startsWith scope.path "/graphql" = true
  validated : ∃ token claims,
    extractBearerToken (stripSpoofableHeaders scope.headers) = some token ∧
      validateAccessToken auth0 token = .claims claims ∧
        buildPrincipalFromClaims claims = .ok (some principal)

/-- The middleware forwards with a principal exactly the GraphQL requests whose
token validates to it. -/
theorem rbacMiddleware_eq_forwarded_iff {auth0 : Auth0} {scope : Scope} {principal : Principal} :
    rbacMiddleware auth0 scope = .forwarded (some principal) ↔
      Authenticates auth0 scope principal := by
  constructor
  · intro h
    unfold rbacMiddleware at h
    by_cases hhttp : scope.type = "http"
    swap
    · simp [hhttp] at h
    by_cases hpath : startsWith scope.path "/graphql" = true
    swap
    · simp [hhttp, hpath] at h
    simp only [hhttp, hpath, ne_eq, not_true_eq_false, if_false, if_true] at h
    cases htoken : extractBearerToken (stripSpoofableHeaders scope.headers) with
    | none => simp [htoken] at h
    | some token =>
    cases hclaims : validateAccessToken auth0 token with
    | invalid => simp [htoken, hclaims] at h
    | raised => simp [htoken, hclaims] at h
    | claims claims =>
        simp only [htoken, hclaims] at h
        refine ⟨hhttp, hpath, token, claims, htoken, hclaims, ?_⟩
        split at h <;> simp_all
  · intro ⟨hhttp, hpath, token, claims, htoken, hclaims, hprincipal⟩
    simp [rbacMiddleware, hhttp, hpath, htoken, hclaims, hprincipal]

end DbGateway.Auth
