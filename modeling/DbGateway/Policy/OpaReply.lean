import DbGateway.Policy.Opa

/-!
# DbGateway.Policy.OpaReply

`OpaPolicyEvaluator` from the HTTP reply on, with what each step raises:
`_query_opa` catches everything, `evaluate` only an `_InvalidOpaResponse`.
No reply makes `evaluate` raise (`evaluate_eq`), so it is the evaluator of
`DbGateway.Policy.Opa`.

Whether a reply that is not a decision can allow is another matter: the fields
of a decision are checked, the elements of its arrays and objects only turned
into text (`failsClosed_iff`).
-/

namespace DbGateway

namespace OpaReply

/-! ## Reading a reply -/

/-- What is raised on the way from a reply to a decision. -/
inductive OpaError where
  /-- the request, its status or its body -/
  | http
  /-- `.get` of a value that is no `dict` -/
  | attributeError
  /-- `_InvalidOpaResponse` -/
  | invalidOpaResponse (message : String)
deriving DecidableEq

/-- `type(value).__name__` -/
def typeName : Json → String
  | .null => "NoneType"
  | .bool _ => "bool"
  | .int _ => "int"
  | .float _ => "float"
  | .str _ => "str"
  | .arr _ => "list"
  | .obj _ => "dict"

/-- `value.get(field, default)` -/
def get (value : Json) (field : String) (default : Json := .null) : Except OpaError Json :=
  match value with
  | .obj fields => .ok ((fields.lookup field).getD default)
  | _ => .error .attributeError

/-- `_query_opa`: `None` for whatever goes wrong. -/
def queryOpa (reply : Except OpaError Json) : Json :=
  match reply.bind fun data => get data "result" with
  | .ok result => result
  | .error _ => .null

variable [Python]

/-- `_as_str_tuple` -/
def asStrTuple (value : Json) (field : String) : Except OpaError (List String) :=
  match value with
  | .null => .ok []
  | .arr items => .ok (items.map Json.toStr)
  | v => .error (.invalidOpaResponse
      ("'" ++ field ++ "' must be an array, got " ++ typeName v))

/-- `_as_str_mapping` -/
def asStrMapping (value : Json) (field : String) : Except OpaError (Dict String) :=
  match value with
  | .null => .ok []
  | .obj fields => .ok (Dict.ofPairs (fields.map fun kv => (kv.1, kv.2.toStr)))
  | v => .error (.invalidOpaResponse
      ("'" ++ field ++ "' must be an object, got " ++ typeName v))

/-- The body of the `try` in `evaluate`. -/
def readDecision (result : Json) : Except OpaError PolicyDecision := do
  let allowed ← get result "allowed"
  let reason ← get result "reason" (.str "No reason provided.")
  let policyIds ← asStrTuple (← get result "policy_ids" (.arr [])) "policy_ids"
  let rowRestrictions ←
    asStrMapping (← get result "row_restrictions" (.obj [])) "row_restrictions"
  let maskedColumns ← asStrTuple (← get result "masked_columns" (.arr [])) "masked_columns"
  return {
    -- `is True`
    allowed := allowed.same (.bool true)
    reason := reason.toStr
    policyIds := policyIds
    rowRestrictions := rowRestrictions
    maskedColumns := maskedColumns.toFinset }

end OpaReply

open OpaReply

/-- The evaluator with its HTTP client: the reply to each input document. -/
structure OpaClient where
  enabled : Bool
  post : Rego.Input → Except OpaError Json

namespace OpaClient

variable [Python]

/-- `OpaPolicyEvaluator.evaluate` -/
def evaluate (self : OpaClient) (principal : Principal) (databaseId : String)
    (tables : List String) (referencedColumns : Finset String := ∅) :
    Except OpaError PolicyDecision :=
  if !self.enabled then .ok ⟨false, "OPA is disabled.", [], [], ∅⟩
  else if tables = [] then .ok ⟨false, "No protected table could be identified.", [], [], ∅⟩
  else
    match queryOpa (self.post (inputDoc principal databaseId tables referencedColumns)) with
    | .null =>
        .ok ⟨false, "OPA policy evaluation failed (unreachable or invalid response).", [], [], ∅⟩
    | .obj fields =>
        match readDecision (.obj fields) with
        | .error (.invalidOpaResponse _) =>
            .ok ⟨false, "Invalid OPA response structure.", [], [], ∅⟩
        | decision => decision
    | _ => .ok ⟨false, "Invalid OPA response structure.", [], [], ∅⟩

/-- The client as the evaluator of a gateway. -/
def evaluator (self : OpaClient) : OpaPolicyEvaluator where
  enabled := self.enabled
  queryOpa input := some (queryOpa (self.post input))

end OpaClient

/-! ## Nothing else is raised -/

namespace OpaReply

/-- Two readings of one value: both succeed alike, or one raises an
`_InvalidOpaResponse` and the other has no result. -/
def ReadAlike {α : Type} (raising : Except OpaError α) (reading : Option α) : Prop :=
  (∃ a, raising = .ok a ∧ reading = some a) ∨
    ∃ message, raising = .error (.invalidOpaResponse message) ∧ reading = none

theorem ReadAlike.bind {α β : Type} {x : Except OpaError α} {y : Option α} (h : ReadAlike x y)
    {f : α → Except OpaError β} {g : α → Option β} (hnext : ∀ a, ReadAlike (f a) (g a)) :
    ReadAlike (x >>= f) (y >>= g) := by
  cases h with
  | inl hok =>
      obtain ⟨a, rfl, rfl⟩ := hok
      exact hnext a
  | inr herror =>
      obtain ⟨message, rfl, rfl⟩ := herror
      exact .inr ⟨message, rfl, rfl⟩

variable [Python]

theorem readAlike_asStrTuple (value : Json) (field : String) :
    ReadAlike (asStrTuple value field) (Opa.asStrTuple value) := by
  cases value with
  | null => exact .inl ⟨_, rfl, rfl⟩
  | arr items => exact .inl ⟨_, rfl, rfl⟩
  | bool | int | float | str | obj => exact .inr ⟨_, rfl, rfl⟩

theorem readAlike_asStrMapping (value : Json) (field : String) :
    ReadAlike (asStrMapping value field) (Opa.asStrMapping value) := by
  cases value with
  | null => exact .inl ⟨_, rfl, rfl⟩
  | obj fields => exact .inl ⟨_, rfl, rfl⟩
  | bool | int | float | str | arr => exact .inr ⟨_, rfl, rfl⟩

/-- Reading an object of OPA's raises an `_InvalidOpaResponse` or nothing. -/
theorem readAlike_readDecision (fields : List (String × Json)) :
    ReadAlike (readDecision (.obj fields)) (Opa.readDecision (.obj fields)) := by
  have hallowed : ((fields.lookup "allowed").getD .null).same (.bool true) =
      (fields.lookup "allowed").any fun allowed => allowed.same (.bool true) := by
    cases fields.lookup "allowed" with
    | none => rfl
    | some allowed => rfl
  unfold readDecision Opa.readDecision
  refine (readAlike_asStrTuple _ _).bind fun policyIds => ?_
  refine (readAlike_asStrMapping _ _).bind fun rowRestrictions => ?_
  refine (readAlike_asStrTuple _ _).bind fun maskedColumns => ?_
  refine .inl ⟨_, rfl, ?_⟩
  rw [hallowed]
  rfl

end OpaReply

variable [Python]

/-- **No reply makes the evaluator raise**: it decides as the evaluator of
`DbGateway.Policy.Opa` does with what `_query_opa` makes of the reply. -/
theorem OpaClient.evaluate_eq (self : OpaClient) (principal : Principal) (databaseId : String)
    (tables : List String) (refs : Finset String) :
    self.evaluate principal databaseId tables refs =
      .ok (self.evaluator.evaluate principal databaseId tables refs) := by
  unfold OpaClient.evaluate OpaPolicyEvaluator.evaluate OpaClient.evaluator
  by_cases henabled : self.enabled = true
  swap
  · simp [henabled]
  by_cases htables : tables = []
  · simp [henabled, htables]
  simp only [henabled, htables, Bool.not_true, Bool.false_eq_true, if_false]
  cases queryOpa (self.post (inputDoc principal databaseId tables refs)) with
  | obj fields =>
      cases readAlike_readDecision fields with
      | inl hok =>
          obtain ⟨decision, hraising, hreading⟩ := hok
          simp only [hraising, hreading, Option.getD_some]
      | inr herror =>
          obtain ⟨message, hraising, hreading⟩ := herror
          simp only [hraising, hreading, Option.getD_none]
  | null | bool | int | float | str | arr => rfl

/-! ## Failing closed -/

namespace OpaReply

/-- A field is absent, `null` or an array. -/
def IsArray (result : Json) (field : String) : Prop :=
  result.getD field = .null ∨ ∃ items, result.getD field = .arr items

/-- A field is absent, `null` or an object. -/
def IsObject (result : Json) (field : String) : Prop :=
  result.getD field = .null ∨ ∃ fields, result.getD field = .obj fields

/-- The elements of an array field are strings. -/
def HoldsStrings (result : Json) (field : String) : Prop :=
  ∀ items, result.getD field = .arr items → ∀ item ∈ items, ∃ s, item = .str s

/-- The values of an object field are strings. -/
def MapsToStrings (result : Json) (field : String) : Prop :=
  ∀ fields, result.getD field = .obj fields → ∀ kv ∈ fields, ∃ s, kv.2 = .str s

/-- An object that allows and whose fields have the types of a decision's. -/
structure Shaped (result : Json) : Prop where
  isObject : ∃ fields, result = .obj fields
  allowed : result.get? "allowed" = some (.bool true)
  policyIds : IsArray result "policy_ids"
  rowRestrictions : IsObject result "row_restrictions"
  maskedColumns : IsArray result "masked_columns"

/-- A decision that allows, down to the elements of its fields. -/
structure WellFormed (result : Json) : Prop extends Shaped result where
  maskedStrings : HoldsStrings result "masked_columns"
  restrictionStrings : MapsToStrings result "row_restrictions"

/-- The evaluator does not raise, and allows only on a well-formed `result`. -/
def FailsClosed (client : OpaClient) (principal : Principal) (databaseId : String)
    (tables : List String) (refs : Finset String) : Prop :=
  ∃ decision, client.evaluate principal databaseId tables refs = .ok decision ∧
    (decision.allowed = true → ∃ data result,
      client.post (inputDoc principal databaseId tables refs) = .ok data ∧
        data.get? "result" = some result ∧ WellFormed result)

omit [Python] in
/-- A mask nested in an array of its own becomes the column `['ssn']`, and the
request is allowed. -/
theorem not_failsClosed_nestedMask :
    letI := Python.ascii
    ¬ ∀ (client : OpaClient) (principal : Principal) (databaseId : String)
      (tables : List String) (refs : Finset String),
      FailsClosed client principal databaseId tables refs := by
  let _ := Python.ascii
  intro h
  obtain ⟨decision, hdecision, hclosed⟩ := h
    ⟨true, fun _ => .ok (.obj [("result", .obj [("allowed", .bool true),
      ("masked_columns", .arr [.arr [.str "ssn"]])])])⟩
    ⟨"alice", "alice@corp.com", "tenant-a", ∅, []⟩ "db-a" ["employees"] ∅
  have hallowed : decision.allowed = true := by
    cases hdecision
    rfl
  obtain ⟨data, result, hpost, hresult, hwell⟩ := hclosed hallowed
  cases hpost
  cases hresult
  obtain ⟨s, hs⟩ := hwell.maskedStrings _ rfl _ List.mem_cons_self
  contradiction

/-- The `result` has the shape of a decision that allows, and a mask or the
attribute of a restriction is no string. -/
def Coerced (reply : Except OpaError Json) : Prop :=
  ∃ data result, reply = .ok data ∧ data.get? "result" = some result ∧ Shaped result ∧
    ¬ (HoldsStrings result "masked_columns" ∧ MapsToStrings result "row_restrictions")

theorem asStrTuple_isSome_iff {result : Json} {field : String} :
    (∃ strings, Opa.asStrTuple ((result.get? field).getD (.arr [])) = some strings) ↔
      IsArray result field := by
  unfold IsArray Json.getD
  cases result.get? field with
  | none => simp [Opa.asStrTuple]
  | some value => cases value <;> simp [Opa.asStrTuple]

theorem asStrMapping_isSome_iff {result : Json} {field : String} :
    (∃ strings, Opa.asStrMapping ((result.get? field).getD (.obj [])) = some strings) ↔
      IsObject result field := by
  unfold IsObject Json.getD
  cases result.get? field with
  | none => simp [Opa.asStrMapping]
  | some value => cases value <;> simp [Opa.asStrMapping]

omit [Python] in
/-- `result.get("allowed") is True` -/
theorem allowed_iff {result : Json} :
    ((result.get? "allowed").any fun allowed => allowed.same (.bool true)) = true ↔
      result.get? "allowed" = some (.bool true) := by
  cases result.get? "allowed" with
  | none => simp
  | some value => cases value <;> simp [Json.same]

/-- Only shaped objects are read as an allowing decision, and all of them are. -/
theorem readDecision_allowed_iff (fields : List (String × Json)) :
    (∃ decision, Opa.readDecision (.obj fields) = some decision ∧ decision.allowed = true) ↔
      Shaped (.obj fields) := by
  unfold Opa.readDecision
  constructor
  · intro ⟨decision, hread, hallowed⟩
    simp only [bind, Option.bind_eq_some_iff, pure, Option.some.injEq] at hread
    obtain ⟨policyIds, hpolicyIds, rowRestrictions, hrows, maskedColumns, hmasked, rfl⟩ := hread
    exact ⟨⟨fields, rfl⟩, allowed_iff.mp hallowed, asStrTuple_isSome_iff.mp ⟨_, hpolicyIds⟩,
      asStrMapping_isSome_iff.mp ⟨_, hrows⟩, asStrTuple_isSome_iff.mp ⟨_, hmasked⟩⟩
  · intro hshaped
    obtain ⟨policyIds, hpolicyIds⟩ := asStrTuple_isSome_iff.mpr hshaped.policyIds
    obtain ⟨rowRestrictions, hrows⟩ := asStrMapping_isSome_iff.mpr hshaped.rowRestrictions
    obtain ⟨maskedColumns, hmasked⟩ := asStrTuple_isSome_iff.mpr hshaped.maskedColumns
    rw [hpolicyIds, hrows, hmasked]
    exact ⟨_, rfl, allowed_iff.mpr hshaped.allowed⟩

omit [Python] in
theorem queryOpa_eq_obj_iff {reply : Except OpaError Json} {fields : List (String × Json)} :
    queryOpa reply = .obj fields ↔
      ∃ data, reply = .ok data ∧ data.get? "result" = some (.obj fields) := by
  cases reply with
  | error e => simp [queryOpa, Except.bind]
  | ok data =>
      cases data with
      | obj outer =>
          simp only [queryOpa, Except.bind, get, Except.ok.injEq, exists_eq_left', Json.get?]
          cases outer.lookup "result" <;> simp
      | null | bool | int | float | str | arr => simp [queryOpa, Except.bind, get, Json.get?]

/-- A decision that cannot be read denies. -/
theorem readDecision_getD_allowed_iff {result : Json} {reason : String} :
    ((Opa.readDecision result).getD ⟨false, reason, [], [], ∅⟩).allowed = true ↔
      ∃ decision, Opa.readDecision result = some decision ∧ decision.allowed = true := by
  cases Opa.readDecision result with
  | none => simp
  | some decision => simp

/-- A reply makes the evaluator allow exactly when its `result` is shaped. -/
theorem allowed_iff_shaped {client : OpaClient} {principal : Principal} {databaseId : String}
    {tables : List String} {refs : Finset String} :
    (client.evaluator.evaluate principal databaseId tables refs).allowed = true ↔
      client.enabled = true ∧ tables ≠ [] ∧ ∃ data result,
        client.post (inputDoc principal databaseId tables refs) = .ok data ∧
          data.get? "result" = some result ∧ Shaped result := by
  unfold OpaPolicyEvaluator.evaluate OpaClient.evaluator
  by_cases henabled : client.enabled = true
  swap
  · simp [henabled]
  by_cases htables : tables = []
  · simp [henabled, htables]
  simp only [henabled, htables, Bool.not_true, Bool.false_eq_true, if_false, true_and, ne_eq,
    not_false_eq_true]
  generalize client.post (inputDoc principal databaseId tables refs) = reply
  cases hquery : queryOpa reply with
  | obj fields =>
      obtain ⟨data, hreply, hresult⟩ := queryOpa_eq_obj_iff.mp hquery
      simp only [readDecision_getD_allowed_iff, readDecision_allowed_iff]
      constructor
      · exact fun hshaped => ⟨data, _, hreply, hresult, hshaped⟩
      · intro ⟨data', result, hreply', hresult', hshaped⟩
        rw [hreply, Except.ok.injEq] at hreply'
        rw [← hreply', hresult, Option.some.injEq] at hresult'
        exact hresult' ▸ hshaped
  | null | bool | int | float | str | arr =>
      simp only [Bool.false_eq_true, false_iff]
      intro ⟨data, result, hreply, hresult, hshaped⟩
      obtain ⟨fields, rfl⟩ := hshaped.isObject
      have hfields := queryOpa_eq_obj_iff.mpr ⟨data, hreply, hresult⟩
      rw [hquery] at hfields
      contradiction

/-- **When OPA's replies fail closed**: exactly unless a reply of the right
shape holds something else than strings. -/
theorem failsClosed_iff (client : OpaClient) (principal : Principal) (databaseId : String)
    (tables : List String) (refs : Finset String) :
    FailsClosed client principal databaseId tables refs ↔
      (client.enabled = true → tables ≠ [] →
        ¬ Coerced (client.post (inputDoc principal databaseId tables refs))) := by
  unfold FailsClosed
  rw [OpaClient.evaluate_eq]
  simp only [Except.ok.injEq, exists_eq_left', allowed_iff_shaped]
  constructor
  · intro hclosed henabled htables ⟨data, result, hpost, hresult, hshaped, hcoerced⟩
    obtain ⟨data', result', hpost', hresult', hwell⟩ :=
      hclosed ⟨henabled, htables, data, result, hpost, hresult, hshaped⟩
    rw [hpost, Except.ok.injEq] at hpost'
    rw [← hpost', hresult, Option.some.injEq] at hresult'
    rw [← hresult'] at hwell
    exact hcoerced ⟨hwell.maskedStrings, hwell.restrictionStrings⟩
  · intro hcond ⟨henabled, htables, data, result, hpost, hresult, hshaped⟩
    refine ⟨data, result, hpost, hresult, ?_⟩
    by_contra hill
    refine hcond henabled htables ⟨data, result, hpost, hresult, hshaped, fun hstrings => ?_⟩
    exact hill ⟨hshaped, hstrings.1, hstrings.2⟩

end OpaReply

end DbGateway
