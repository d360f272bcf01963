import DbGateway.Json

/-!
# DbGateway.Rego.Model

`opa/policies/gateway.rego`: the two rules the gateway queries, `evaluate` and
`effective_access`, over an arbitrary `data.policies` document.

Rego has three outcomes where Python has one: a reference or a built-in that
fails is *undefined* and makes its expression fail, a chain of `else` bodies
takes the first body that holds, and an object comprehension with two values
for one key stops the whole query with a conflict error.  Undefined references
are `none`, boolean functions are `Bool` (defined and true, or not), and the
conflict is the error of `Except`.

Sets are lists compared by membership; the client reads every set back into a
`frozenset`, so `sort` and duplicates are not observable.
-/

namespace DbGateway.Rego

/-- The text built-in of OPA that depends on the Unicode tables. -/
class Opa where
  /-- `lower` -/
  lower : String → String
  lower_ascii : ∀ s, (∀ c ∈ s.toList, c.toNat < 128) → lower s = mapChars Char.toLower s

export Opa (lower)

/-- OPA restricted to the ASCII tables. -/
@[reducible] def Opa.ascii : Opa where
  lower := mapChars Char.toLower
  lower_ascii := Python.ascii.lower_ascii

/-- Evaluation stops: an object comprehension yields two values for a key. -/
inductive RegoError where
  | conflict
deriving DecidableEq

/-! ## References and built-ins -/

/-- The values `x` takes in `x := v[_]`. -/
def items : Json → List Json
  | .arr xs => xs
  | .obj fields => fields.map (·.2)
  | _ => []

/-- The pairs `k, v` takes in `some k, v in c`. -/
def entries : Json → List (Json × Json)
  | .arr xs => xs.zipIdx.map fun (x, i) => (.int i, x)
  | .obj fields => fields.map fun (k, v) => (.str k, v)
  | _ => []

/-- `count(v)`; undefined on scalars other than strings. -/
def count : Json → Option Nat
  | .arr xs => some xs.length
  | .obj fields => some fields.length
  | .str s => some s.length
  | _ => none

/-- `count(v) > 0` -/
def countPos (v : Json) : Bool := (count v).any (0 < ·)

/-- `has_field(obj, field)` -/
def hasField (obj : Json) (field : String) : Bool := (obj.get? field).isSome

/-- `obj[field] == value` for a string value. -/
def fieldIs (obj : Json) (field value : String) : Bool :=
  (obj.get? field).any (·.same (.str value))

/-- `obj[field] != null` -/
def fieldNotNull (obj : Json) (field : String) : Bool :=
  (obj.get? field).any fun v => !v.same .null

/-- `obj[field] == null` -/
def fieldIsNull (obj : Json) (field : String) : Bool := (obj.get? field).any (·.same .null)

/-- Each entry carries the value of the first entry with its key. -/
def consistent (pairs : List (Json × Json)) : Bool :=
  pairs.all fun e =>
    (pairs.find? fun first => first.1.same e.1).all fun first => e.2.same first.2

/-- `{k: v | ...}` over the given pairs. -/
def objectOf (pairs : List (Json × Json)) : Except RegoError (List (Json × Json)) :=
  if consistent pairs then .ok pairs else .error .conflict

/-! ## The input document -/

/-- `input.principal` -/
structure InputPrincipal where
  userId : String
  orgId : String
  roles : List String

/-- The document `OpaPolicyEvaluator` sends.  It has no `action` field. -/
structure Input where
  principal : InputPrincipal
  databaseId : String
  tables : List String := []
  referencedColumns : List String := []

/-! ## Roles -/

/-- Role hierarchy: admin inherits viewer (RBAC1). -/
def roleHierarchy : Dict (List String) := [("admin", ["viewer"])]

/-- Static separation of duties: pairs that must not be held together. -/
def sodConstraints : List (List String) := []

variable [Opa]

/-- `violates_sod(principal_roles)` -/
def violatesSod (principalRoles : List String) : Bool :=
  sodConstraints.any fun constraint =>
    ((constraint.filter fun r => lower r ∈ principalRoles.map lower).dedup.length ==
      constraint.length)

/-- `expanded_roles(principal_roles)` -/
def expandedRoles (principalRoles : List String) : List String :=
  principalRoles ++ principalRoles.flatMap fun r => (roleHierarchy.get? r).getD []

/-- `role_matches(policy_roles, principal_roles)` -/
def roleMatches (policyRoles : Json) (principalRoles : List String) : Bool :=
  (items policyRoles).any fun r =>
    match r with
    | .str s => lower s ∈ (expandedRoles principalRoles).map lower
    | _ => false

/-! ## The matching chain -/

/-- A rule that binds a field when the policy has it and otherwise skips it:
the shape of the organisation, principal and database rules. -/
def boundRule (policy : Json) (field actual : String) (rest : Bool) : Bool :=
  (hasField policy field && fieldNotNull policy field && fieldIs policy field actual && rest) ||
    (!hasField policy field && rest)

/-- The role rule. -/
def rolesRule (policy : Json) (principalRoles : List String) (rest : Bool) : Bool :=
  ((policy.get? "roles").any fun roles => countPos roles && roleMatches roles principalRoles)
      && rest ||
    (!hasField policy "roles" && rest)

/-- The action rule; `object.get(req, "action", "select")` is `"select"`. -/
def actionRule (policy : Json) (rest : Bool) : Bool :=
  (hasField policy "action" && fieldNotNull policy "action" && !fieldIs policy "action" "*"
      && ((policy.get? "action").any fun
          | .str action => lower action == lower "select"
          | _ => false)
      && rest) ||
    (!hasField policy "action" && rest) ||
    (hasField policy "action" && fieldIs policy "action" "*" && rest) ||
    (hasField policy "action" && fieldIsNull policy "action" && rest)

def matchesPolicyTable (policy : Json) (req : Input) : Bool :=
  (hasField policy "table" && fieldNotNull policy "table"
      && ((policy.get? "table").any fun table =>
          table.isIn (req.tables.map fun t => .str (lower t)))) ||
    !hasField policy "table"

def matchesPolicyAction (policy : Json) (req : Input) : Bool :=
  actionRule policy (matchesPolicyTable policy req)

def matchesPolicyDatabase (policy : Json) (req : Input) : Bool :=
  boundRule policy "database_id" req.databaseId (matchesPolicyAction policy req)

def matchesPolicyRest (policy : Json) (req : Input) : Bool :=
  rolesRule policy req.principal.roles (matchesPolicyDatabase policy req)

def matchesPolicyPartial (policy : Json) (req : Input) : Bool :=
  boundRule policy "principal_id" req.principal.userId (matchesPolicyRest policy req)

def matchesPolicy (policy : Json) (req : Input) : Bool :=
  boundRule policy "org_id" req.principal.orgId (matchesPolicyPartial policy req)

/-! The same chain, duplicated in the source for the rule that enumerates
tables instead of receiving them. -/

def matchesPolicyActionAccess (policy : Json) (_req : Input) : Bool := actionRule policy true

def matchesPolicyDatabaseAccess (policy : Json) (req : Input) : Bool :=
  boundRule policy "database_id" req.databaseId (matchesPolicyActionAccess policy req)

def matchesPolicyRestAccess (policy : Json) (req : Input) : Bool :=
  rolesRule policy req.principal.roles (matchesPolicyDatabaseAccess policy req)

def matchesPolicyPartialAccess (policy : Json) (req : Input) : Bool :=
  boundRule policy "principal_id" req.principal.userId (matchesPolicyRestAccess policy req)

def matchesPolicyForAccess (policy : Json) (req : Input) : Bool :=
  boundRule policy "org_id" req.principal.orgId (matchesPolicyPartialAccess policy req)

/-! ## Helpers of the two rules -/

/-- `[p | p := allows[_]; has_field(p, "columns"); count(p.columns) > 0]` -/
def columnPolicies (allows : List Json) : List Json :=
  allows.filter fun p => (p.get? "columns").any countPos

/-- `{col | p := policies[_]; has_field(p, field); col := p[field][_]}` -/
def collect (field : String) (policies : List Json) : List Json :=
  policies.flatMap fun p => ((p.get? field).map items).getD []

/-- `check_columns(column_policies, referenced_columns)` -/
def checkColumns (columnPolicies : List Json) (referencedColumns : List String) : Bool :=
  referencedColumns.isEmpty || columnPolicies.isEmpty ||
    referencedColumns.all fun c => (Json.str c).isIn (collect "columns" columnPolicies)

/-- The pairs of `collect_row_restrictions(allows, principal)`. -/
def scopePairs (allows : List Json) : List (Json × Json) :=
  allows.flatMap fun p => ((p.get? "row_scope").map entries).getD []

/-- `p.effect == "allow"; has_field(p, "table"); p.table != null` -/
def isTableAllow (p : Json) : Bool :=
  fieldIs p "effect" "allow" && hasField p "table" && fieldNotNull p "table"

/-! ## evaluate -/

/-- The object `evaluate` yields. -/
structure Decision where
  allowed : Bool
  reason : String
  policyIds : List Json := []
  rowRestrictions : List (Json × Json) := []
  maskedColumns : List Json := []

/-- The policies `evaluate` collects as allows. -/
def evaluateAllows (policies : Json) (input : Input) : List Json :=
  (items policies).filter fun p => matchesPolicy p input && isTableAllow p

/-- The policies `evaluate` collects as denies. -/
def evaluateDenies (policies : Json) (input : Input) : List Json :=
  (items policies).filter fun p => matchesPolicy p input && fieldIs p "effect" "deny"

/-- Evaluate the request against all loaded policies. -/
def evaluate (policies : Json) (input : Input) : Except RegoError Decision :=
  if violatesSod input.principal.roles then
    .ok ⟨false, "Denied by SoD constraint.", [.str "sod-violation"], [], []⟩
  else
    let denies := evaluateDenies policies input
    if denies ≠ [] then
      .ok ⟨false, "Denied by policy.", denies.filterMap (·.get? "id"), [], []⟩
    else
      let allows := evaluateAllows policies input
      let allowedTables := allows.filterMap (·.get? "table")
      if (input.tables.all fun t => (Json.str t).isIn allowedTables) && allows ≠ [] &&
          checkColumns (columnPolicies allows) input.referencedColumns then do
        let rowRestrictions ← objectOf (scopePairs allows)
        .ok ⟨true, "Allowed by policy.", allows.filterMap (·.get? "id"), rowRestrictions,
          collect "masked_columns" allows⟩
      else
        .ok ⟨false, "No allow policy matched the requested table.", [], [], []⟩

/-! ## effective_access -/

/-- The object `effective_access` yields. -/
structure Access where
  accessibleTables : List Json := []
  allowedColumns : List Json := []
  maskedColumns : List Json := []

/-- `has_deny_all(principal, database_id)` -/
def hasDenyAll (policies : Json) (principal : InputPrincipal) (databaseId : String) : Bool :=
  (items policies).any fun p =>
    fieldIs p "effect" "deny" && !hasField p "table" &&
      matchesPolicy p { principal, databaseId, tables := [] }

/-- The policies `effective_access` collects as allows. -/
def accessAllows (policies : Json) (input : Input) : List Json :=
  (items policies).filter fun p => matchesPolicyForAccess p input && isTableAllow p

/-- `denied_tables` -/
def deniedTables (policies : Json) (input : Input) : List Json :=
  ((items policies).filter fun p =>
    matchesPolicyForAccess p input && fieldIs p "effect" "deny" &&
      fieldNotNull p "table").filterMap (·.get? "table")

/-- The schema surface a principal may read. -/
def effectiveAccess (policies : Json) (input : Input) : Access :=
  if violatesSod input.principal.roles then {}
  else if hasDenyAll policies input.principal input.databaseId then {}
  else
    let allows := accessAllows policies input
    let denied := deniedTables policies input
    { accessibleTables := (allows.filterMap (·.get? "table")).filter fun t => !t.isIn denied
      allowedColumns := collect "columns" (columnPolicies allows)
      maskedColumns := collect "masked_columns" allows }

end DbGateway.Rego
