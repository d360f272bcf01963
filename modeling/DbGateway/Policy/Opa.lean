import DbGateway.Interchange
import DbGateway.Sql.RowScope

/-!
# DbGateway.Policy.Opa

`services/opa_policy_engine.py`: the evaluator that asks an OPA sidecar.  It
reads whatever JSON comes back, denies on anything it does not understand, and
looks at no attribute of the principal.

`Evaluator` is either of the two evaluators a gateway can be given.
-/

namespace DbGateway

section

variable [Python]

namespace Opa

/-- `_as_str_tuple`; `none` is an `_InvalidOpaResponse`. -/
def asStrTuple : Json → Option (List String)
  | .null => some []
  | .arr items => some (items.map Json.toStr)
  | _ => none

/-- `_as_str_mapping`; `none` is an `_InvalidOpaResponse`. -/
def asStrMapping : Json → Option (Dict String)
  | .null => some []
  | .obj fields => some (Dict.ofPairs (fields.map fun kv => (kv.1, kv.2.toStr)))
  | _ => none

/-- The decision an object of OPA's states; `none` is an
`_InvalidOpaResponse`. -/
def readDecision (result : Json) : Option PolicyDecision := do
  let policyIds ← asStrTuple ((result.get? "policy_ids").getD (.arr []))
  let rowRestrictions ← asStrMapping ((result.get? "row_restrictions").getD (.obj []))
  let maskedColumns ← asStrTuple ((result.get? "masked_columns").getD (.arr []))
  return {
    -- `result.get("allowed") is True`
    allowed := (result.get? "allowed").any fun allowed => allowed.same (.bool true)
    reason := ((result.get? "reason").getD (.str "No reason provided.")).toStr
    policyIds := policyIds
    rowRestrictions := rowRestrictions
    maskedColumns := maskedColumns.toFinset }

end Opa

/-- `OpaPolicyEvaluator`: whether it consults OPA, and the `result` OPA answers
a document with, `none` when the query fails. -/
structure OpaPolicyEvaluator where
  enabled : Bool
  queryOpa : Rego.Input → Option Json

/-- `OpaPolicyEvaluator.evaluate` -/
def OpaPolicyEvaluator.evaluate (self : OpaPolicyEvaluator) (principal : Principal)
    (databaseId : String) (tables : List String) (referencedColumns : Finset String := ∅) :
    PolicyDecision :=
  if !self.enabled then ⟨false, "OPA is disabled.", [], [], ∅⟩
  else if tables = [] then ⟨false, "No protected table could be identified.", [], [], ∅⟩
  else
    match self.queryOpa (inputDoc principal databaseId tables referencedColumns) with
    | none | some .null =>
        ⟨false, "OPA policy evaluation failed (unreachable or invalid response).", [], [], ∅⟩
    | some (.obj fields) =>
        (Opa.readDecision (.obj fields)).getD
          ⟨false, "Invalid OPA response structure.", [], [], ∅⟩
    | some _ => ⟨false, "Invalid OPA response structure.", [], [], ∅⟩

/-- The evaluator a gateway is constructed with. -/
inductive Evaluator where
  | inProcess (evaluator : PolicyEvaluator)
  | opa (evaluator : OpaPolicyEvaluator)

namespace Evaluator

/-- The decision of either evaluator. -/
def evaluate (self : Evaluator) (principal : Principal) (databaseId : String)
    (tables : List String) (referencedColumns : Finset String) : PolicyDecision :=
  match self with
  | .inProcess evaluator => evaluator.evaluate principal databaseId tables referencedColumns
  | .opa evaluator => evaluator.evaluate principal databaseId tables referencedColumns

/-- The principal has a value for every attribute the evaluator restricts rows
by.  The in-process evaluator looks for itself, but takes an attribute named
like a member of `Principal` for present; OPA's answer is taken as it is. -/
def RestrictsByCarried (self : Evaluator) (principal : Principal) (databaseId : String)
    (tables : List String) (referencedColumns : Finset String) : Prop :=
  match self with
  | .inProcess evaluator =>
      ∀ kv ∈ (evaluator.evaluate principal databaseId tables referencedColumns).rowRestrictions,
        kv.2 ∈ Principal.ownNames → principal.attributes.lookup kv.2 ≠ some .null
  | .opa evaluator =>
      (evaluator.evaluate principal databaseId tables referencedColumns).allowed = true →
        Sql.Carries principal
          (evaluator.evaluate principal databaseId tables referencedColumns).rowRestrictions

/-- The in-process evaluator restricts rows only where it allows, and by
attributes it has found. -/
theorem mem_rowRestrictions {evaluator : PolicyEvaluator} {principal : Principal}
    {databaseId : String} {tables : List String} {referencedColumns : Finset String}
    {kv : String × String}
    (h : kv ∈ (evaluator.evaluate principal databaseId tables referencedColumns).rowRestrictions) :
    (evaluator.evaluate principal databaseId tables referencedColumns).allowed = true ∧
      principal.lacks kv.2 = false := by
  unfold PolicyEvaluator.evaluate at h ⊢
  split at h
  · exact absurd h List.not_mem_nil
  next henabled =>
  split at h
  · exact absurd h List.not_mem_nil
  next htables =>
  dsimp only at h ⊢
  split at h
  · exact absurd h List.not_mem_nil
  next hdenies =>
  split at h
  · exact absurd h List.not_mem_nil
  next hallows =>
  split at h
  · exact absurd h List.not_mem_nil
  next hcovered =>
  split at h
  · exact absurd h List.not_mem_nil
  next hcolumns =>
  split at h
  · exact absurd h List.not_mem_nil
  next hfound =>
  rw [if_neg henabled, if_neg htables, if_neg hdenies, if_neg hallows, if_neg hcovered,
    if_neg hcolumns]
  have hlacks := List.find?_eq_none.mp hfound kv h
  exact ⟨rfl, by simpa using hlacks⟩

/-- An attribute the in-process evaluator has found is carried, unless it is
named like a member of `Principal` and is null. -/
theorem carried_of_not_lacks {principal : Principal} {name : String}
    (h : principal.lacks name = false) :
    (Sql.restrictionValue? principal name).isSome ↔
      (name ∈ Principal.ownNames → principal.attributes.lookup name ≠ some .null) := by
  unfold Principal.lacks Principal.getattrIsNone at h
  unfold Sql.restrictionValue?
  change ((List.lookup name principal.attributes).isNone || _) = false at h
  simp only [Dict.get?] at h ⊢
  cases hvalue : List.lookup name principal.attributes with
  | none => simp [hvalue] at h
  | some value =>
      by_cases hown : name ∈ Principal.ownNames
      · cases value <;> simp [hown]
      · cases value <;> simp [hvalue, hown] at h ⊢

/-- **When execution finds every attribute**: where the decision allows, the
principal carries what it restricts rows by. -/
theorem restrictsByCarried_iff (self : Evaluator) (principal : Principal) (databaseId : String)
    (tables : List String) (referencedColumns : Finset String) :
    self.RestrictsByCarried principal databaseId tables referencedColumns ↔
      ((self.evaluate principal databaseId tables referencedColumns).allowed = true →
        Sql.Carries principal
          (self.evaluate principal databaseId tables referencedColumns).rowRestrictions) := by
  cases self with
  | opa evaluator => exact Iff.rfl
  | inProcess evaluator =>
      constructor
      · intro hown _ kv hkv
        exact (carried_of_not_lacks (mem_rowRestrictions hkv).2).mpr (hown kv hkv)
      · intro hcarries kv hkv
        have hfound := mem_rowRestrictions hkv
        exact (carried_of_not_lacks hfound.2).mp (hcarries hfound.1 kv hkv)

end Evaluator

end

end DbGateway
