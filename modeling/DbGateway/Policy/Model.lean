import DbGateway.Json
import DbGateway.AccessControl

/-!
# DbGateway.Policy.Model

`services/policy_engine.py`: policies, the decision they yield for a request
(`PolicyEvaluator.evaluate`) and the schema surface they display
(`PolicyEvaluator.effective_access`).

Optional fields that the code copies from the document without `str` (the
organisation, principal and database a policy is bound to) stay documents
here: `None` is `Json.null`, and a field that is not a string equals no
principal's.
-/

namespace DbGateway

open AccessControl

/-! ## Principals -/

/-- Trusted authorization context derived from a validated access token. -/
structure Principal where
  userId : String
  email : String
  orgId : String
  roles : Finset String
  attributes : Dict Json := []

namespace Principal

/-- The names `getattr` finds on the class before it falls back to the
attribute mapping. -/
def ownNames : List String :=
  ["user_id", "email", "org_id", "roles", "attributes", "role", "has_role", "has_any_role"]

/-- `getattr(principal, name, None) is None` -/
def getattrIsNone (principal : Principal) (name : String) : Bool :=
  if name ∈ ownNames then false
  else match principal.attributes.get? name with
    | some .null | none => true
    | some _ => false

/-- `name not in principal.attributes or getattr(principal, name, None) is None` -/
def lacks (principal : Principal) (name : String) : Bool :=
  (principal.attributes.get? name).isNone || principal.getattrIsNone name

end Principal

/-! ## Policies -/

/-- A server-owned read policy. -/
structure Policy where
  id : String
  effect : String := "allow"
  orgId : Json := .null
  principalId : Json := .null
  roles : Finset String := ∅
  databaseId : Json := .null
  table : Option String := none
  columns : Finset String := ∅
  maskedColumns : Finset String := ∅
  rowScope : Dict String := []
  action : String := "select"

/-- What `from_dict` raises on a document whose fields have the wrong type. -/
inductive PyError where
  | typeError
  | attributeError
deriving DecidableEq

/-- The items a `for` loop draws from a value. -/
def iterate : Json → Except PyError (List Json)
  | .arr items => .ok items
  | .str s => .ok (s.toList.map fun c => .str (String.singleton c))
  | .obj fields => .ok (fields.map fun kv => .str kv.1)
  | _ => .error .typeError

variable [Python]

/-- `frozenset(str(item).lower() for item in value.get(field, []) or [])` -/
def lowerSet (value : Json) (field : String) : Except PyError (Finset String) := do
  let items ← iterate ((value.getD field).or (.arr []))
  return (items.map fun item => lower item.toStr).toFinset

/-- `(value.get("row_scope") or {}).items()` -/
def rowScopeItems (value : Json) : Except PyError (List (String × Json)) :=
  match (value.getD "row_scope").or (.obj []) with
  | .obj fields => .ok fields
  | _ => .error .attributeError

namespace Policy

/-- The document's action: `action`, else `actions`, the head of either. -/
def rawAction (value : Json) : Json :=
  match (value.getD "action").or (value.getD "actions") with
  | .arr (first :: _) => first
  | raw => raw

/-- Build a policy from its raw configured representation. -/
def fromDict (value : Json) : Except PyError Policy := do
  let roles ← lowerSet value "roles"
  let columns ← lowerSet value "columns"
  let maskedColumns ← lowerSet value "masked_columns"
  let scope ← rowScopeItems value
  return {
    id := (((value.getD "id").or (value.getD "name")).or (.str "unnamed")).toStr
    effect := lower ((value.get? "effect").getD (.str "allow")).toStr
    orgId := (value.getD "org_id").or (value.getD "organisation_id")
    principalId := (value.getD "principal_id").or (value.getD "user_id")
    roles := roles
    databaseId := value.getD "database_id"
    table := if (value.getD "table").truthy then some (lower (value.getD "table").toStr) else none
    columns := columns
    maskedColumns := maskedColumns
    rowScope := Dict.ofPairs (scope.map fun kv => (lower kv.1, kv.2.toStr))
    action := lower ((rawAction value).or (.str "select")).toStr }

/-- `bound is None or bound == actual` -/
def boundTo (bound : Json) (actual : String) : Bool :=
  match bound with
  | .null => true
  | v => v.same (.str actual)

/-- `PolicyEvaluator._matches` -/
def matches_ (policy : Policy) (principal : Principal) (databaseId table : String)
    (action : String := "select") : Bool :=
  boundTo policy.orgId principal.orgId
    && boundTo policy.principalId principal.userId
    && (policy.roles = ∅ || policy.roles ∩ principal.roles ≠ ∅)
    && boundTo policy.databaseId databaseId
    && (policy.table = none || policy.table = some (lower table))
    && ((policy.action = "select" || policy.action = "*") || policy.action = lower action)

end Policy

/-! ## Decisions -/

/-- Explainable result of evaluating a request against policy. -/
structure PolicyDecision where
  allowed : Bool
  reason : String
  policyIds : List String := []
  rowRestrictions : Dict String := []
  maskedColumns : Finset String := ∅

/-- The reason given when a row-scoped policy needs an attribute the principal
does not carry. -/
def attributeAbsent (subjectAttribute : String) : String :=
  "Required subject attribute '" ++ subjectAttribute ++ "' is absent."

/-- Evaluate policy documents with deny precedence and fail-closed matching. -/
structure PolicyEvaluator where
  policies : List Policy
  enabled : Bool := true

namespace PolicyEvaluator

/-- `PolicyEvaluator(policies)` -/
@[reducible] def ofPolicies (policies : List Policy) : PolicyEvaluator := { policies }

/-- The policies matching some requested table. -/
def applicable (self : PolicyEvaluator) (principal : Principal) (databaseId : String)
    (tables : List String) : List Policy :=
  self.policies.filter fun policy =>
    tables.any fun table => policy.matches_ principal databaseId table

/-- The matching allow policies that name a table. -/
def tablePolicies (self : PolicyEvaluator) (principal : Principal) (databaseId : String)
    (tables : List String) : List Policy :=
  (self.applicable principal databaseId tables).filter fun policy =>
    policy.effect = "allow" && policy.table.isSome

/-- `row_restrictions`: the scopes of the given policies, later ones winning. -/
def mergeRowScopes (policies : List Policy) : Dict String :=
  policies.foldl (fun restrictions policy => restrictions.update policy.rowScope) []

/-- Evaluate a query against the configured policies with deny precedence. -/
def evaluate (self : PolicyEvaluator) (principal : Principal) (databaseId : String)
    (tables : List String) (referencedColumns : Finset String := ∅) : PolicyDecision :=
  if !self.enabled then
    ⟨true, "Policy document not configured; legacy gateway controls apply.", [], [], ∅⟩
  else if tables = [] then
    ⟨false, "No protected table could be identified.", [], [], ∅⟩
  else
    let denies := (self.applicable principal databaseId tables).filter (·.effect = "deny")
    if denies ≠ [] then
      ⟨false, "Denied by policy.", denies.map (·.id), [], ∅⟩
    else
      let tablePolicies := self.tablePolicies principal databaseId tables
      if tablePolicies = [] then
        ⟨false, "No allow policy matched the requested table.", [], [], ∅⟩
      else if tables.any fun table => some (lower table) ∉ tablePolicies.map (·.table) then
        ⟨false, "A requested table is not allowed by policy.", [], [], ∅⟩
      else
        let columnPolicies := tablePolicies.filter (·.columns ≠ ∅)
        if referencedColumns ≠ ∅ && columnPolicies ≠ [] &&
            !(referencedColumns ⊆ unionAll (columnPolicies.map (·.columns))) then
          ⟨false, "A referenced column is not allowed by policy.", [], [], ∅⟩
        else
          let rowRestrictions := mergeRowScopes tablePolicies
          match rowRestrictions.find? fun kv => principal.lacks kv.2 with
          | some kv => ⟨false, attributeAbsent kv.2, [], [], ∅⟩
          | none =>
            ⟨true, "Allowed by policy.", tablePolicies.map (·.id), rowRestrictions,
              unionAll (tablePolicies.map (·.maskedColumns))⟩

end PolicyEvaluator

/-! ## The displayed surface -/

/-- `_normalize_identifier` -/
def normalizeIdentifier (value : String) : String :=
  let cleaned := lower (strip value)
  let cleaned := stripChars (fun c => c ∈ ['\x60', '"', '[', ']']) cleaned
  if '.' ∈ cleaned.toList then afterLastDot cleaned else cleaned

/-- Server-side view of the schema a principal may read for a logical
database. -/
structure EffectiveAccess where
  accessibleTables : Finset String := ∅
  allowedColumns : Finset String := ∅
  maskedColumns : Finset String := ∅
  unrestricted : Bool := false

namespace EffectiveAccess

/-- Whether the given table name may be surfaced to the principal. -/
def tableAccessible (self : EffectiveAccess) (table : String) : Bool :=
  self.unrestricted || normalizeIdentifier table ∈ self.accessibleTables

/-- Whether a column of a visible table may be surfaced. -/
def columnAccessible (self : EffectiveAccess) (table column : String) : Bool :=
  if !self.tableAccessible table then false
  else if self.unrestricted || self.allowedColumns = ∅ then true
  else normalizeIdentifier column ∈ self.allowedColumns

end EffectiveAccess

namespace PolicyEvaluator

/-- The policies the display pass keeps: those matching their own table. -/
def displayed (self : PolicyEvaluator) (principal : Principal) (databaseId : String) :
    List Policy :=
  self.policies.filter fun policy =>
    policy.matches_ principal databaseId (policy.table.getD "")

/-- `allow_by_table`, flattened: every kept policy naming a table whose effect
is not `"deny"`. -/
def allowByTable (self : PolicyEvaluator) (principal : Principal) (databaseId : String) :
    List Policy :=
  (self.displayed principal databaseId).filter fun policy =>
    policy.effect ≠ "deny" && policy.table.isSome

/-- Compute the schema surface a principal may read for a logical database. -/
def effectiveAccess (self : PolicyEvaluator) (principal : Principal) (databaseId : String) :
    EffectiveAccess :=
  if !self.enabled then { unrestricted := true }
  else
    let kept := self.displayed principal databaseId
    let denyAll := kept.any fun policy => policy.effect = "deny" && policy.table = none
    let deniedTables := (kept.filter (·.effect = "deny")).filterMap (·.table)
    let allows := self.allowByTable principal databaseId
    let accessible := ((allows.filterMap (·.table)).filter (· ∉ deniedTables)).toFinset
    { accessibleTables := if denyAll then ∅ else accessible
      allowedColumns := unionAll ((allows.filter (·.columns ≠ ∅)).map (·.columns))
      maskedColumns := unionAll (allows.map (·.maskedColumns)) }

end PolicyEvaluator

end DbGateway
