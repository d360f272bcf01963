import DbGateway.Fallible
import DbGateway.Yaml

/-!
# DbGateway.SecurityExceptions.Controls

`scripts/check-security-exceptions.py`: the controls in a workflow that do not
fail the build.

What an action is told is compared as text.  What is found are the controls
whose inputs read so (`mem_workflowRecords_iff`).
-/

namespace DbGateway.SecurityExceptions

open Fallible
open Yaml (Key Mapping)

/-! ## Inputs of actions -/

/-- What can be raised. -/
inductive Raised where
  /-- `SystemExit`, with a text -/
  | exit (text : String)
  | attributeError
  | typeError
  /-- `yaml.YAMLError` -/
  | yamlError (text : String)

/-- `NON_BLOCKING_INPUTS` -/
def nonBlockingInputs : List (String × String × String) :=
  [("anchore/scan-action", "fail-build", "false"), ("aquasecurity/trivy-action", "exit-code", "0")]

/-- `NON_BLOCKING_DEFAULT_PREFIXES`, with the text of the default. -/
def nonBlockingDefaultPrefixes : List (String × String × String) :=
  [("zaproxy/action-", "fail_action", "False"),
    ("zaproxy/zap-baseline-action", "fail_action", "False")]

/-- `part in text` -/
def isPart (part text : String) : Bool := part.toList <:+: text.toList

/-- `value.get(name)` -/
def attrGet (value : Yaml) (name : String) : Except Raised Yaml :=
  match value with
  | .map entries => .ok (Mapping.field entries name)
  | _ => .error .attributeError

/-- `name in value` -/
def contains (value : Yaml) (name : String) : Except Raised Bool :=
  match value with
  | .map entries => .ok (Mapping.find entries name).isSome
  | .seq items => .ok (items.any fun item =>
      match item with
      | .str s => s = name
      | _ => false)
  | .str s => .ok (isPart name s)
  | _ => .error .typeError

/-- `value[name]`, where `name in value` -/
def getItem (value : Yaml) (name : String) : Except Raised Yaml :=
  match value with
  | .map entries => .ok (Mapping.field entries name)
  | _ => .error .typeError

/-- `for item in value`, as far as it matters: what is not a list has no
mappings in it. -/
def iterate : Yaml → Except Raised (List Yaml)
  | .seq items => .ok items
  | .map entries => .ok (entries.map fun entry => .other "key" entry.1.text entry.1.text)
  | .str s => .ok (s.toList.map fun c => .str (String.ofList [c]))
  | _ => .error .typeError

section

variable [Python]

/-! ## Steps -/

/-- A control and where it is. -/
abbrev Record := Key × String

/-- `str(step.get("uses") or "")` -/
def usesOf (step : Mapping) : String := ((Mapping.field step "uses").or (.str "")).toStr

/-- `step.get("with") or {}` -/
def inputsOf (step : Mapping) : Yaml := (Mapping.field step "with").or (.map [])

/-- The label of a step. -/
def labelOf (step : Mapping) (index : Nat) : String :=
  ((Mapping.field step "name").or (.str ("step " ++ toString index))).toStr

/-- The id of a step. -/
def stepId (job : Key) (step : Mapping) (index : Nat) : Key :=
  .str (job.text ++ "/" ++ labelOf step index)

/-- Where a step is. -/
def stepPlace (file : String) (job : Key) (step : Mapping) (index : Nat) : String :=
  file ++ ": step `" ++ labelOf step index ++ "` in job `" ++ job.text ++ "`"

/-- What one of `NON_BLOCKING_INPUTS` finds. -/
def inputRecord (control : Key) (place uses : String) (inputs : Yaml)
    (input : String × String × String) : Except Raised (List Record) :=
  let (action, key, badValue) := input
  if isPart action uses then do
    let value ← attrGet inputs key
    if value.toStr = badValue then
      pure [(control, place ++ " sets `" ++ key ++ ": " ++ badValue ++ "`")]
    else pure []
  else pure []

/-- What one of `NON_BLOCKING_DEFAULT_PREFIXES` finds. -/
def defaultRecord (control : Key) (place uses : String) (inputs : Yaml)
    (input : String × String × String) : Except Raised (List Record) :=
  let (front, key, badDefault) := input
  if !isPart front uses then pure []
  else do
    if !(← contains inputs key) then
      pure [(control, place ++ " omits `" ++ key ++ "`, which defaults to " ++ badDefault)]
    else
      let value ← getItem inputs key
      if lower value.toStr ∈ ["false", "0", "no"] then
        pure [(control, place ++ " sets `" ++ key ++ ": " ++ value.toStr ++ "`")]
      else pure []

/-- What a step records. -/
def stepRecords (file : String) (job : Key) (step : Yaml) (index : Nat) :
    Except Raised (List Record) :=
  match step with
  | .map step =>
      let control := stepId job step index
      let place := stepPlace file job step index
      if (Mapping.field step "continue-on-error").isTrue then pure [(control, place)]
      else do
        let set ← nonBlockingInputs.mapM (inputRecord control place (usesOf step) (inputsOf step))
        let default ← nonBlockingDefaultPrefixes.mapM
          (defaultRecord control place (usesOf step) (inputsOf step))
        pure (set.flatten ++ default.flatten)
  | _ => pure []

/-- What a job records. -/
def jobRecords (file : String) (entry : Key × Yaml) : Except Raised (List Record) :=
  match entry.2 with
  | .map job => do
      let own := if (Mapping.field job "continue-on-error").isTrue then
          [(entry.1, file ++ ": job `" ++ entry.1.text ++ "`")]
        else []
      let steps ← iterate ((Mapping.field job "steps").or (.seq []))
      let found ← steps.zipIdx.mapM fun step => stepRecords file entry.1 step.1 step.2
      pure (own ++ found.flatten)
  | _ => pure []

/-- The calls of `record`, in order. -/
def workflowRecords (workflow : Yaml) (file : String) : Except Raised (List Record) := do
  match (← attrGet workflow "jobs").or (.map []) with
  | .map jobs =>
      let found ← jobs.mapM (jobRecords file)
      pure found.flatten
  | _ => .error .attributeError

end

/-- `record`, with the ids that are ambiguous. -/
def record (state : List Record × List String) (new : Record) : List Record × List String :=
  match state.1.find? fun old => old.1.same new.1 with
  | some old =>
      (state.1, state.2 ++ ["control id `" ++ new.1.text ++ "` is ambiguous: " ++ old.2 ++ " and " ++
        new.2 ++ " cannot be distinguished; give the steps unique names"])
  | none => (state.1 ++ [new], state.2)

/-- `find_non_blocking_controls`, with the ids that are ambiguous. -/
def findNonBlockingControls [Python] (workflow : Yaml) (file : String) :
    Except Raised (List Record × List String) :=
  (workflowRecords workflow file).map fun records => records.foldl record ([], [])

/-! ## Markers -/

/-- How `false` and `0` are written. -/
structure Spelling where
  saysFalse : Yaml → Prop
  saysZero : Yaml → Prop

section

variable [Python]

/-- What the script compares: the text of a value. -/
def Spelling.compared : Spelling where
  saysFalse value := value.toStr = "false"
  saysZero value := value.toStr = "0"

/-- What the documentation speaks of: the text, the boolean, or any number that is zero. -/
def Spelling.documented : Spelling where
  saysFalse value := value = .bool false ∨ value.toStr = "false"
  saysZero value := value = .int 0 ∨ (∃ text, value = .float text ∧ Yaml.isZeroText text = true) ∨
    value.toStr = "0"

/-- The input of a step's action, where it is given. -/
def inputOf (step : Mapping) (name : String) : Option Yaml :=
  match inputsOf step with
  | .map inputs => Mapping.find inputs name
  | _ => none

/-- A step that does not fail the build. -/
inductive StepMarked (spelling : Spelling) (step : Mapping) : Prop where
  | continueOnError (h : Mapping.field step "continue-on-error" = .bool true)
  | grype (huses : isPart "anchore/scan-action" (usesOf step) = true) {value : Yaml}
      (hinput : inputOf step "fail-build" = some value) (hvalue : spelling.saysFalse value)
  | trivy (huses : isPart "aquasecurity/trivy-action" (usesOf step) = true) {value : Yaml}
      (hinput : inputOf step "exit-code" = some value) (hvalue : spelling.saysZero value)
  | zapOmitted {front : String} (hfront : front ∈ ["zaproxy/action-", "zaproxy/zap-baseline-action"])
      (huses : isPart front (usesOf step) = true) (hinput : inputOf step "fail_action" = none)
  | zapOff {front : String} (hfront : front ∈ ["zaproxy/action-", "zaproxy/zap-baseline-action"])
      (huses : isPart front (usesOf step) = true) {value : Yaml}
      (hinput : inputOf step "fail_action" = some value)
      (hvalue : lower value.toStr ∈ ["false", "0", "no"])

/-- The ids of what does not fail the build in a job. -/
inductive JobMarked (spelling : Spelling) (name : Key) (job : Mapping) : Key → Prop where
  | job (h : Mapping.field job "continue-on-error" = .bool true) : JobMarked spelling name job name
  | step {step : Mapping} {steps : List Yaml} {index : Nat}
      (hsteps : Mapping.find job "steps" = some (.seq steps)) (hstep : steps[index]? = some (.map step))
      (h : StepMarked spelling step) : JobMarked spelling name job (stepId name step index)

/-- The control is marked as non-blocking in the workflow: in one of its jobs. -/
inductive Marked (spelling : Spelling) (workflow : Mapping) (key : Key) : Prop where
  | intro {jobs job : Mapping} {name : Key} (hjobs : Mapping.find workflow "jobs" = some (.map jobs))
      (hjob : (name, .map job) ∈ jobs) (h : JobMarked spelling name job key)

/-- What is written as text is written. -/
theorem StepMarked.documented {step : Mapping} (h : StepMarked .compared step) :
    StepMarked .documented step := by
  cases h with
  | continueOnError h => exact .continueOnError h
  | grype huses hinput hvalue => exact .grype huses hinput (.inr hvalue)
  | trivy huses hinput hvalue => exact .trivy huses hinput (.inr (.inr hvalue))
  | zapOmitted hfront huses hinput => exact .zapOmitted hfront huses hinput
  | zapOff hfront huses hinput hvalue => exact .zapOff hfront huses hinput hvalue

theorem Marked.documented {workflow : Mapping} {key : Key} (h : Marked .compared workflow key) :
    Marked .documented workflow key := by
  obtain ⟨hjobs, hjob, hmarked⟩ := h
  refine ⟨hjobs, hjob, ?_⟩
  cases hmarked with
  | job h => exact .job h
  | step hsteps hstep h => exact .step hsteps hstep h.documented

/-- A step with an input that is off, but does not read so as text. -/
inductive StepMissed (step : Mapping) : Prop where
  | grype (huses : isPart "anchore/scan-action" (usesOf step) = true)
      (hinput : inputOf step "fail-build" = some (.bool false))
  | trivy (huses : isPart "aquasecurity/trivy-action" (usesOf step) = true) {text : String}
      (hinput : inputOf step "exit-code" = some (.float text)) (hzero : Yaml.isZeroText text = true)

/-- The ids of such steps in a workflow. -/
inductive Missed (workflow : Mapping) : Key → Prop where
  | intro {jobs job step : Mapping} {name : Key} {steps : List Yaml} {index : Nat}
      (hjobs : Mapping.find workflow "jobs" = some (.map jobs)) (hjob : (name, .map job) ∈ jobs)
      (hsteps : Mapping.find job "steps" = some (.seq steps)) (hstep : steps[index]? = some (.map step))
      (h : StepMissed step) : Missed workflow (stepId name step index)

theorem StepMissed.documented {step : Mapping} (h : StepMissed step) : StepMarked .documented step := by
  cases h with
  | grype huses hinput => exact .grype huses hinput (.inl rfl)
  | trivy huses hinput hzero => exact .trivy huses hinput (.inr (.inl ⟨_, rfl, hzero⟩))

/-- Only some inputs that are off are missed. -/
theorem stepMarked_documented_iff {step : Mapping} :
    StepMarked .documented step ↔ StepMarked .compared step ∨ StepMissed step := by
  constructor
  · intro h
    cases h with
    | continueOnError h => exact .inl (.continueOnError h)
    | grype huses hinput hvalue =>
        rcases hvalue with rfl | htext
        · exact .inr (.grype huses hinput)
        · exact .inl (.grype huses hinput htext)
    | trivy huses hinput hvalue =>
        rcases hvalue with rfl | ⟨text, rfl, hzero⟩ | htext
        · exact .inl (.trivy huses hinput rfl)
        · exact .inr (.trivy huses hinput hzero)
        · exact .inl (.trivy huses hinput htext)
    | zapOmitted hfront huses hinput => exact .inl (.zapOmitted hfront huses hinput)
    | zapOff hfront huses hinput hvalue => exact .inl (.zapOff hfront huses hinput hvalue)
  · rintro (h | h)
    · exact h.documented
    · exact h.documented

theorem marked_documented_iff {workflow : Mapping} {key : Key} :
    Marked .documented workflow key ↔ Marked .compared workflow key ∨ Missed workflow key := by
  constructor
  · rintro ⟨hjobs, hjob, hmarked⟩
    cases hmarked with
    | job h => exact .inl ⟨hjobs, hjob, .job h⟩
    | step hsteps hstep h =>
        rcases stepMarked_documented_iff.mp h with h | h
        · exact .inl ⟨hjobs, hjob, .step hsteps hstep h⟩
        · exact .inr (.intro hjobs hjob hsteps hstep h)
  · rintro (h | ⟨hjobs, hjob, hsteps, hstep, h⟩)
    · exact h.documented
    · exact ⟨hjobs, hjob, .step hsteps hstep h.documented⟩

/-! ## What is found -/

/-- The ids that are recorded. -/
abbrev keysOf (records : List Record) : List Key := records.map Prod.fst

omit [Python] in
theorem mem_keysOf_singleton {control key : Key} {place : String} :
    key ∈ keysOf [(control, place)] ↔ key = control := List.mem_singleton

omit [Python] in
theorem isTrue_iff {value : Yaml} : value.isTrue = true ↔ value = .bool true := by
  cases value with
  | bool b => cases b <;> simp [Yaml.isTrue]
  | _ => simp [Yaml.isTrue]

omit [Python] in
/-- What is recorded element by element. -/
theorem mem_keysOf_mapM {α : Type} {f : α → Except Raised (List Record)} {xs : List α}
    {found : List (List Record)} (h : xs.mapM f = .ok found) {P : α → Key → Prop}
    (hf : ∀ x ∈ xs, ∀ records, f x = .ok records → ∀ key, key ∈ keysOf records ↔ P x key)
    (key : Key) : key ∈ keysOf found.flatten ↔ ∃ x ∈ xs, P x key := by
  have hall := mapM_eq_ok_iff.mp h
  clear h
  induction hall with
  | nil => simp [keysOf]
  | @cons x records xs found hx _ ih =>
      have hhead := hf x List.mem_cons_self records hx key
      have htail := ih fun y hy => hf y (List.mem_cons_of_mem x hy)
      show key ∈ (records ++ found.flatten).map Prod.fst ↔ _
      rw [List.map_append, List.mem_append, List.exists_mem_cons_iff]
      exact or_congr hhead htail

/-- Reading an input, and finding nothing where there is none. -/
theorem exists_inputOf_iff {step inputs : Mapping} (hinputs : inputsOf step = .map inputs)
    (name text : String) (htext : text ≠ "None") :
    (∃ value, inputOf step name = some value ∧ value.toStr = text) ↔
      (Mapping.field inputs name).toStr = text := by
  rw [inputOf, hinputs, Mapping.field]
  dsimp only
  cases Mapping.find inputs name with
  | none => exact iff_of_false (fun ⟨_, h, _⟩ => nomatch h) htext.symm
  | some value => simp

theorem mem_inputRecord_iff {control : Key} {place : String} {step : Mapping}
    {input : String × String × String} (hbad : input.2.2 ≠ "None") {records : List Record}
    (h : inputRecord control place (usesOf step) (inputsOf step) input = .ok records) (key : Key) :
    key ∈ keysOf records ↔ (isPart input.1 (usesOf step) = true ∧
      ∃ value, inputOf step input.2.1 = some value ∧ value.toStr = input.2.2) ∧ key = control := by
  simp only [inputRecord] at h
  split at h
  case isFalse huses =>
    rw [← pure_eq_ok_iff.mp h]
    exact iff_of_false List.not_mem_nil fun h => huses h.1.1
  case isTrue huses =>
    obtain ⟨value, hvalue, hrecords⟩ := bind_eq_ok_iff.mp h
    cases hinputs : inputsOf step with
    | map inputs =>
        rw [hinputs] at hvalue
        rw [exists_inputOf_iff hinputs _ _ hbad, Except.ok.inj hvalue]
        split at hrecords
        case isTrue htext =>
          rw [← pure_eq_ok_iff.mp hrecords, mem_keysOf_singleton]
          exact (and_iff_right ⟨huses, htext⟩).symm
        case isFalse htext =>
          rw [← pure_eq_ok_iff.mp hrecords]
          exact iff_of_false List.not_mem_nil fun h => htext h.1.2
    | _ =>
        rw [hinputs] at hvalue
        contradiction

theorem mem_defaultRecord_iff {control : Key} {place : String} {step : Mapping}
    {input : String × String × String} {records : List Record}
    (h : defaultRecord control place (usesOf step) (inputsOf step) input = .ok records) (key : Key) :
    key ∈ keysOf records ↔ (isPart input.1 (usesOf step) = true ∧
      ∀ value, inputOf step input.2.1 = some value → lower value.toStr ∈ ["false", "0", "no"]) ∧
        key = control := by
  simp only [defaultRecord] at h
  split at h
  case isTrue huses =>
    rw [← pure_eq_ok_iff.mp h]
    refine iff_of_false List.not_mem_nil fun h => ?_
    rw [h.1.1] at huses
    contradiction
  case isFalse huses =>
    rw [Bool.not_eq_true, Bool.not_eq_false'] at huses
    obtain ⟨given, hgiven, hrest⟩ := bind_eq_ok_iff.mp h
    cases given with
    | false =>
        have hnone : inputOf step input.2.1 = none := by
          rw [inputOf]
          cases hinputs : inputsOf step with
          | map inputs =>
              rw [hinputs] at hgiven
              exact Option.not_isSome_iff_eq_none.mp (Bool.eq_false_iff.mp (Except.ok.inj hgiven))
          | _ => rfl
        rw [← pure_eq_ok_iff.mp hrest, mem_keysOf_singleton, hnone]
        exact (and_iff_right ⟨huses, nofun⟩).symm
    | true =>
        obtain ⟨value, hvalue, hrecords⟩ := bind_eq_ok_iff.mp hrest
        cases hinputs : inputsOf step with
        | map inputs =>
            rw [hinputs] at hgiven hvalue
            obtain ⟨found, hfound⟩ := Option.isSome_iff_exists.mp (Except.ok.inj hgiven)
            have hsame : found = value := by
              rw [← Except.ok.inj hvalue, Mapping.field, hfound]
              rfl
            have hinput : inputOf step input.2.1 = some value := by
              rw [inputOf, hinputs, ← hsame]
              exact hfound
            split at hrecords
            case isTrue htext =>
              rw [← pure_eq_ok_iff.mp hrecords, mem_keysOf_singleton]
              refine (and_iff_right ⟨huses, fun other hother => ?_⟩).symm
              rwa [Option.some_inj.mp (hother.symm.trans hinput)]
            case isFalse htext =>
              rw [← pure_eq_ok_iff.mp hrecords]
              exact iff_of_false List.not_mem_nil fun h => htext (h.1.2 value hinput)
        | _ =>
            rw [hinputs] at hvalue
            contradiction

/-- What marks a step, by the two tables. -/
theorem stepMarked_iff {step : Mapping} :
    StepMarked .compared step ↔ Mapping.field step "continue-on-error" = .bool true ∨
      (∃ input ∈ nonBlockingInputs, isPart input.1 (usesOf step) = true ∧
        ∃ value, inputOf step input.2.1 = some value ∧ value.toStr = input.2.2) ∨
      ∃ input ∈ nonBlockingDefaultPrefixes, isPart input.1 (usesOf step) = true ∧
        ∀ value, inputOf step input.2.1 = some value → lower value.toStr ∈ ["false", "0", "no"] := by
  have hprefix : ∀ front ∈ ["zaproxy/action-", "zaproxy/zap-baseline-action"],
      (front, "fail_action", "False") ∈ nonBlockingDefaultPrefixes := by decide
  constructor
  · intro h
    cases h with
    | continueOnError h => exact .inl h
    | grype huses hinput hvalue =>
        exact .inr (.inl ⟨_, List.mem_cons_self, huses, _, hinput, hvalue⟩)
    | trivy huses hinput hvalue =>
        exact .inr (.inl ⟨_, List.mem_cons_of_mem _ List.mem_cons_self, huses, _, hinput, hvalue⟩)
    | @zapOmitted front hfront huses hinput =>
        refine .inr (.inr ⟨_, hprefix front hfront, huses, fun value hvalue => ?_⟩)
        rw [hinput] at hvalue
        contradiction
    | @zapOff front hfront huses value hinput hvalue =>
        refine .inr (.inr ⟨_, hprefix front hfront, huses, fun other hother => ?_⟩)
        rwa [Option.some_inj.mp (hother.symm.trans hinput)]
  · rintro (h | ⟨input, hinput, huses, value, hvalue, htext⟩ | ⟨input, hinput, huses, hoff⟩)
    · exact .continueOnError h
    · simp only [nonBlockingInputs, List.mem_cons, List.not_mem_nil, or_false] at hinput
      rcases hinput with rfl | rfl
      · exact .grype huses hvalue htext
      · exact .trivy huses hvalue htext
    · have hfront : input.1 ∈ ["zaproxy/action-", "zaproxy/zap-baseline-action"] ∧
          input.2.1 = "fail_action" := by
        simp only [nonBlockingDefaultPrefixes, List.mem_cons, List.not_mem_nil, or_false] at hinput
        rcases hinput with rfl | rfl <;> exact ⟨by decide, rfl⟩
      rw [hfront.2] at hoff
      cases hvalue : inputOf step "fail_action" with
      | none => exact .zapOmitted hfront.1 huses hvalue
      | some value => exact .zapOff hfront.1 huses hvalue (hoff value hvalue)

theorem mem_stepRecords_iff {file : String} {job : Key} {step : Mapping} {index : Nat}
    {records : List Record} (h : stepRecords file job (.map step) index = .ok records) (key : Key) :
    key ∈ keysOf records ↔ StepMarked .compared step ∧ key = stepId job step index := by
  simp only [stepRecords] at h
  rw [stepMarked_iff]
  split at h
  case isTrue hcontinue =>
    rw [← pure_eq_ok_iff.mp h, mem_keysOf_singleton]
    exact (and_iff_right (.inl (isTrue_iff.mp hcontinue))).symm
  case isFalse hcontinue =>
    have hnot : Mapping.field step "continue-on-error" ≠ .bool true :=
      fun heq => hcontinue (isTrue_iff.mpr heq)
    obtain ⟨set, hset, hrest⟩ := bind_eq_ok_iff.mp h
    obtain ⟨default, hdefault, hrecords⟩ := bind_eq_ok_iff.mp hrest
    have hbad : ∀ input ∈ nonBlockingInputs, input.2.2 ≠ "None" := by decide
    have hset := mem_keysOf_mapM hset
      (fun input hinput records hr => mem_inputRecord_iff (hbad input hinput) hr) key
    have hdefault := mem_keysOf_mapM hdefault
      (fun input _ records hr => mem_defaultRecord_iff hr) key
    rw [← pure_eq_ok_iff.mp hrecords, keysOf, List.map_append, List.mem_append]
    refine (or_congr hset hdefault).trans ?_
    simp only [← and_assoc, hnot, false_or, or_and_right, exists_and_right]

omit [Python] in
/-- The steps that are mappings are those of a list. -/
theorem getElem?_iterate_iff {job : Mapping} {steps : List Yaml}
    (h : iterate ((Mapping.field job "steps").or (.seq [])) = .ok steps) (index : Nat)
    (step : Mapping) : steps[index]? = some (.map step) ↔
      ∃ items, Mapping.find job "steps" = some (.seq items) ∧ items[index]? = some (.map step) := by
  rw [Mapping.field] at h
  cases hfind : Mapping.find job "steps" with
  | none =>
      rw [hfind] at h
      have hsteps : [] = steps := Except.ok.inj h
      rw [← hsteps]
      exact iff_of_false nofun fun ⟨_, h, _⟩ => nomatch h
  | some value =>
      rw [hfind] at h
      have hvalue : iterate (value.or (.seq [])) = .ok steps := h
      rw [Yaml.or] at hvalue
      simp only [Option.some.injEq]
      split at hvalue
      case isTrue =>
        cases value with
        | seq items => rw [← Except.ok.inj hvalue]; simp
        | map entries => rw [← Except.ok.inj hvalue]; simp
        | str s => rw [← Except.ok.inj hvalue]; simp
        | _ => contradiction
      case isFalse hfalsy =>
        have hsteps : [] = steps := Except.ok.inj hvalue
        rw [← hsteps]
        refine iff_of_false nofun fun ⟨items, hitems, hstep⟩ => ?_
        rw [hitems, Yaml.truthy, Bool.not_eq_true, Bool.not_eq_false', List.isEmpty_iff] at hfalsy
        rw [hfalsy] at hstep
        contradiction

theorem mem_jobRecords_iff {file : String} {name : Key} {job : Mapping} {records : List Record}
    (h : jobRecords file (name, .map job) = .ok records) (key : Key) :
    key ∈ keysOf records ↔ JobMarked .compared name job key := by
  simp only [jobRecords] at h
  obtain ⟨steps, hsteps, hrest⟩ := bind_eq_ok_iff.mp h
  obtain ⟨found, hfound, hrecords⟩ := bind_eq_ok_iff.mp hrest
  have hiterate := getElem?_iterate_iff hsteps
  have hstep : ∀ entry ∈ steps.zipIdx, ∀ records,
      stepRecords file name entry.1 entry.2 = .ok records → ∀ key, key ∈ keysOf records ↔
        ∃ step, entry.1 = .map step ∧ StepMarked .compared step ∧ key = stepId name step entry.2 := by
    rintro ⟨value, index⟩ - records hr key
    cases value with
    | map step => rw [mem_stepRecords_iff hr]; simp
    | _ =>
        rw [← pure_eq_ok_iff.mp hr]
        exact iff_of_false List.not_mem_nil fun ⟨_, h, _⟩ => nomatch h
  have hfound := mem_keysOf_mapM hfound hstep key
  rw [← pure_eq_ok_iff.mp hrecords, keysOf, List.map_append, List.mem_append, hfound]
  constructor
  · rintro (hown | ⟨⟨value, index⟩, hmem, step, rfl, hmarked, rfl⟩)
    · split at hown
      case isTrue hcontinue =>
        obtain rfl := mem_keysOf_singleton.mp hown
        exact .job (isTrue_iff.mp hcontinue)
      case isFalse => exact absurd hown List.not_mem_nil
    · have hindex := List.mem_zipIdx_iff_getElem?.mp hmem
      obtain ⟨items, hitems, hitem⟩ := (hiterate index step).mp hindex
      exact .step hitems hitem hmarked
  · intro hmarked
    cases hmarked with
    | job hcontinue =>
        rw [if_pos (isTrue_iff.mpr hcontinue)]
        exact .inl (mem_keysOf_singleton.mpr rfl)
    | @step step items index hitems hitem hmarked =>
        have hindex := (hiterate index step).mpr ⟨items, hitems, hitem⟩
        exact .inr ⟨(.map step, index), List.mem_zipIdx_iff_getElem?.mpr hindex, step, rfl, hmarked,
          rfl⟩

omit [Python] in
/-- The jobs are those of a mapping. -/
theorem find_jobs_iff {workflow jobs : Mapping}
    (h : (Mapping.field workflow "jobs").or (.map []) = .map jobs) {entry : Key × Yaml} :
    entry ∈ jobs ↔ ∃ jobs', Mapping.find workflow "jobs" = some (.map jobs') ∧ entry ∈ jobs' := by
  rw [Mapping.field] at h
  cases hfind : Mapping.find workflow "jobs" with
  | none =>
      rw [hfind] at h
      obtain rfl := Yaml.map.inj h
      exact iff_of_false List.not_mem_nil fun ⟨_, h, _⟩ => nomatch h
  | some value =>
      rw [hfind, Option.getD_some, Yaml.or] at h
      simp only [Option.some.injEq]
      split at h
      case isTrue =>
        rw [h]
        simp
      case isFalse hfalsy =>
        obtain rfl := Yaml.map.inj h
        refine iff_of_false List.not_mem_nil fun ⟨jobs', hjobs, hentry⟩ => ?_
        rw [hjobs, Yaml.truthy, Bool.not_eq_true, Bool.not_eq_false', List.isEmpty_iff] at hfalsy
        rw [hfalsy] at hentry
        exact List.not_mem_nil hentry

/-- What is recorded for a workflow are the controls that are marked as they are
compared. -/
theorem mem_workflowRecords_iff {workflow : Yaml} {file : String} {records : List Record}
    (h : workflowRecords workflow file = .ok records) (key : Key) :
    key ∈ keysOf records ↔ ∃ entries, workflow = .map entries ∧ Marked .compared entries key := by
  obtain ⟨value, hvalue, hrest⟩ := bind_eq_ok_iff.mp h
  cases workflow with
  | map entries =>
      obtain rfl := Except.ok.inj hvalue
      split at hrest
      case h_1 jobs hjobs =>
        obtain ⟨found, hfound, hrecords⟩ := bind_eq_ok_iff.mp hrest
        have hjob : ∀ entry ∈ jobs, ∀ records, jobRecords file entry = .ok records → ∀ key,
            key ∈ keysOf records ↔ ∃ job, entry.2 = .map job ∧ JobMarked .compared entry.1 job key := by
          rintro ⟨name, value⟩ - records hr key
          cases value with
          | map job => rw [mem_jobRecords_iff hr]; simp
          | _ =>
              rw [← pure_eq_ok_iff.mp hr]
              exact iff_of_false List.not_mem_nil fun ⟨_, h, _⟩ => nomatch h
        rw [← pure_eq_ok_iff.mp hrecords, mem_keysOf_mapM hfound hjob key]
        constructor
        · rintro ⟨⟨name, _⟩, hmem, job, rfl, hmarked⟩
          obtain ⟨jobs', hjobs', hmem'⟩ := (find_jobs_iff hjobs).mp hmem
          exact ⟨entries, rfl, hjobs', hmem', hmarked⟩
        · rintro ⟨entries', heq, @⟨jobs', job, name, hjobs', hmem, hmarked⟩⟩
          obtain rfl := Yaml.map.inj heq
          exact ⟨_, (find_jobs_iff hjobs).mpr ⟨jobs', hjobs', hmem⟩, job, rfl, hmarked⟩
      case h_2 => contradiction
  | _ => contradiction

end

/-! ## Ids that are the same -/

/-- `keys`, with a key that is not among them. -/
def addKey (keys : List Key) (key : Key) : List Key :=
  if keys.any fun old => old.same key then keys else keys ++ [key]

/-- Some of the keys, and for each of them one that is the same. -/
structure Collects (all keys : List Key) : Prop where
  sound : ∀ key ∈ keys, key ∈ all
  complete : ∀ key ∈ all, ∃ key' ∈ keys, key'.same key = true

theorem Collects.addKey {all keys : List Key} (h : Collects all keys) (key : Key) :
    Collects (all ++ [key]) (addKey keys key) := by
  have hsplit : ∀ other ∈ all ++ [key], other ∈ all ∨ other = key := fun other hother =>
    (List.mem_append.mp hother).imp_right List.mem_singleton.mp
  unfold SecurityExceptions.addKey
  split
  case isTrue hany =>
    refine ⟨fun other hother => List.mem_append_left _ (h.sound other hother), fun other hother => ?_⟩
    rcases hsplit other hother with hother | rfl
    · exact h.complete other hother
    · exact List.any_eq_true.mp hany
  case isFalse =>
    refine ⟨fun other hother => ?_, fun other hother => ?_⟩
    · rcases List.mem_append.mp hother with hother | hother
      · exact List.mem_append_left _ (h.sound other hother)
      · exact List.mem_append_right _ hother
    · rcases hsplit other hother with hother | rfl
      · obtain ⟨key', hkey', hsame⟩ := h.complete other hother
        exact ⟨key', List.mem_append_left _ hkey', hsame⟩
      · exact ⟨other, List.mem_append_right _ (List.mem_singleton_self _), other.same_self⟩

theorem Collects.foldl_addKey {all keys : List Key} (h : Collects all keys) (more : List Key) :
    Collects (all ++ more) (more.foldl SecurityExceptions.addKey keys) := by
  induction more generalizing all keys with
  | nil => rwa [List.append_nil]
  | cons key more ih =>
      have hrest := ih (h.addKey key)
      rwa [List.append_assoc] at hrest

/-- Keys of keys. -/
theorem Collects.trans {all some keys : List Key} {front : List Key} (h : Collects all some)
    (h' : Collects (front ++ some) keys) : Collects (front ++ all) keys := by
  refine ⟨fun key hkey => ?_, fun key hkey => ?_⟩
  · rcases List.mem_append.mp (h'.sound key hkey) with hkey | hkey
    · exact List.mem_append_left _ hkey
    · exact List.mem_append_right _ (h.sound key hkey)
  · rcases List.mem_append.mp hkey with hkey | hkey
    · exact h'.complete key (List.mem_append_left _ hkey)
    · obtain ⟨key', hkey', hsame⟩ := h.complete key hkey
      obtain ⟨key'', hkey'', hsame'⟩ := h'.complete key' (List.mem_append_right _ hkey')
      exact ⟨key'', hkey'', Key.same_trans hsame' hsame⟩

/-- A key is there already exactly if a record with it is found. -/
theorem any_keysOf (records : List Record) (key : Key) :
    (keysOf records).any (fun old => old.same key) =
      (records.find? fun old => old.1.same key).isSome := by
  rw [List.isSome_find?, List.any_map]
  rfl

theorem keysOf_record (state : List Record × List String) (new : Record) :
    keysOf (record state new).1 = addKey (keysOf state.1) new.1 := by
  unfold record addKey
  rw [any_keysOf]
  split
  case h_1 hold => rw [hold]; rfl
  case h_2 hold => rw [hold]; exact List.map_append

/-- What is done record by record is done key by key. -/
theorem keysOf_foldl {f : List Record × List String → Record → List Record × List String}
    (hf : ∀ state new, keysOf (f state new).1 = addKey (keysOf state.1) new.1)
    (records : List Record) (state : List Record × List String) :
    keysOf (records.foldl f state).1 = (keysOf records).foldl addKey (keysOf state.1) := by
  induction records generalizing state with
  | nil => rfl
  | cons new records ih =>
      rw [List.foldl_cons, ih, hf]
      rfl

/-- The ids that are found are those recorded, one of those that are the same. -/
theorem collects_findNonBlockingControls [Python] {workflow : Yaml} {file : String}
    {found : List Record × List String} (h : findNonBlockingControls workflow file = .ok found) :
    ∃ records, workflowRecords workflow file = .ok records ∧
      Collects (keysOf records) (keysOf found.1) := by
  obtain ⟨records, hrecords, rfl⟩ := map_eq_ok_iff.mp h
  refine ⟨records, hrecords, ?_⟩
  have hnil : Collects [] [] := ⟨nofun, nofun⟩
  rw [keysOf_foldl keysOf_record]
  exact hnil.foldl_addKey (keysOf records)

end DbGateway.SecurityExceptions
