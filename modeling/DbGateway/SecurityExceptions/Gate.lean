import DbGateway.Calendar
import DbGateway.Dict
import DbGateway.SecurityExceptions.Controls
import Mathlib.Data.List.Sort
import Mathlib.Data.String.Basic

/-!
# DbGateway.SecurityExceptions.Gate

`scripts/check-security-exceptions.py`: the register of exceptions, and the gate
that holds it against the workflows.

A gate that passes has found an entry for every control it has found.  It says
the same of every control that is documented as long as those it does not find
share their id with one that it does (`gated_iff`).
-/

namespace DbGateway.SecurityExceptions

open Calendar (Date)
open Fallible
open Yaml (Key Mapping)

/-! ## Entries -/

/-- `date.fromisoformat`; `none` is a `ValueError`. -/
class PythonDates where
  fromisoformat : String → Option Date

export PythonDates (fromisoformat)

/-- The number that digits write. -/
def readDigits (digits : List Char) : Nat := digits.foldl (fun n c => 10 * n + (c.toNat - 48)) 0

/-- Python that reads a date as it is written by `isoformat`. -/
@[reducible] def PythonDates.extended : PythonDates where
  fromisoformat text :=
    let year := readDigits (text.toList.take 4)
    let month := readDigits ((text.toList.drop 5).take 2)
    let day := readDigits (text.toList.drop 8)
    if h : (1 ≤ year ∧ year ≤ 9999) ∧ (1 ≤ month ∧ month ≤ 12) ∧
        (1 ≤ day ∧ day ≤ Calendar.daysInMonth year month) then
      let date : Date := ⟨year, month, day, h.1, h.2.1, h.2.2⟩
      if date.isoformat = text then some date else none
    else none

/-- `MAX_EXPIRY_DAYS` -/
def maxExpiryDays : Nat := 180

/-- `REASON_MIN_CHARS` -/
def reasonMinChars : Nat := 80

section

variable [Python] [PythonTables] [PythonDates]

/-- `EXCEPTION_ID_RE.match`; a line may end after the digits. -/
def isExceptionId (id : String) : Bool :=
  let digits := id.toList.drop 8
  let digits := if digits.getLast? = some '\n' then digits.dropLast else digits
  "SEC-EXC-".toList.isPrefixOf id.toList && decide (3 ≤ digits.length) &&
    digits.all fun c => (PythonTables.decimal c).isSome

/-- What is wrong with an id. -/
def idErrors (id : Yaml) : List String :=
  let wrong := ["invalid exception id " ++ id.repr ++ ": expected SEC-EXC-NNN"]
  match id with
  | .str id => if isExceptionId id then [] else wrong
  | _ => wrong

omit [Python] [PythonTables] [PythonDates] in
/-- What is wrong with a field that must have a text. -/
def fieldErrors (entryId : String) (entry : Mapping) (field : String) : List String :=
  let missing := [entryId ++ ": missing required field `" ++ field ++ "`"]
  match Mapping.field entry field with
  | .str value => if strip value = "" then missing else []
  | _ => missing

omit [Python] [PythonTables] [PythonDates] in
def reasonErrors (entryId : String) (entry : Mapping) : List String :=
  let short := [entryId ++ ": `reason` must be a real decision record (at least " ++
    toString reasonMinChars ++ " characters)"]
  match Mapping.field entry "reason" with
  | .str reason => if (strip reason).length < reasonMinChars then short else []
  | _ => short

omit [Python] [PythonTables] [PythonDates] in
def compensatingErrors (entryId : String) (entry : Mapping) : List String :=
  let none := [entryId ++ ": `compensating_controls` must list at least one control"]
  match Mapping.field entry "compensating_controls" with
  | .seq items => if items.isEmpty then none else []
  | _ => none

omit [Python] [PythonTables] [PythonDates] in
/-- What is wrong with a status; a list or a mapping cannot be looked for in a set. -/
def statusErrors (entryId : String) : Yaml → Except Raised (List String)
  | .seq _ | .map _ => .error .typeError
  | .str status =>
      if status ∈ ["accepted", "revoked"] then .ok []
      else .ok [entryId ++ ": `status` must be one of ['accepted', 'revoked']"]
  | _ => .ok [entryId ++ ": `status` must be one of ['accepted', 'revoked']"]

omit [Python] [PythonTables] [PythonDates] in
/-- The controls an entry names, each of them once. -/
def claimedControls (entry : Mapping) : List String :=
  match Mapping.field entry "control" with
  | .str control =>
      if strip control = "" then []
      else
        (((control.toList.splitOn ',').map fun part => strip (String.ofList part)).filter
          (· ≠ "")).dedup
  | _ => []

/-- `parse_expiry`, with what is wrong. -/
def parseExpiry (value : Yaml) (entryId : String) : Option Date × List String :=
  match value with
  | .str text =>
      match fromisoformat text with
      | some expiry => (some expiry, [])
      | none => (none, [entryId ++ ": `expires` is not a valid ISO date: " ++ value.repr])
  | _ => (none, [entryId ++ ": `expires` must be an ISO date string, got " ++ value.repr])

omit [Python] [PythonTables] [PythonDates] in
/-- What is wrong with a date of expiry. -/
def expiryErrors (entryId : String) (today expiry : Date) : List String :=
  if expiry.toordinal < today.toordinal then
    [entryId ++ ": exception expired on " ++ expiry.isoformat ++
      "; make the control blocking or record a renewal decision"]
  else if expiry.toordinal - today.toordinal > maxExpiryDays then
    [entryId ++ ": `expires` is " ++ toString (expiry.toordinal - today.toordinal) ++
      " days out, more than the " ++ toString maxExpiryDays ++ "-day maximum"]
  else []

/-- `validate_entry`: what is wrong with an entry, and the controls it claims. -/
def validateEntry (entry : Yaml) (today : Date) : Except Raised (List String × List String) :=
  match entry with
  | .map fields => do
      let entryId := (Mapping.field fields "id").toStr
      let status := Mapping.field fields "status"
      let wrongStatus ← statusErrors entryId status
      let errors := idErrors (Mapping.field fields "id") ++
        ["control", "scope", "owner", "tracking"].flatMap (fieldErrors entryId fields) ++
        reasonErrors entryId fields ++ compensatingErrors entryId fields ++ wrongStatus
      match status with
      | .str "revoked" => pure (errors, [])
      | _ =>
          let (expiry, wrongExpiry) := parseExpiry (Mapping.field fields "expires") entryId
          let outside := expiry.elim [] (expiryErrors entryId today)
          pure (errors ++ wrongExpiry ++ outside, claimedControls fields)
  | _ => pure (["register entry must be a mapping, got " ++ entry.typeName], [])

/-! ## The register -/

/-- What the loop over the entries has come to. -/
structure Audit where
  seen : List String
  claimedBy : Dict String
  errors : List String

/-- The id of an entry. -/
def idOf : Yaml → Yaml
  | .map fields => Mapping.field fields "id"
  | _ => .str "?"

omit [Python] [PythonTables] [PythonDates] in
/-- An entry claims a control. -/
def claim (entryId : String) (audit : Audit) (control : String) : Audit :=
  match audit.claimedBy.get? control with
  | some other =>
      { audit with
        errors := audit.errors ++
          [entryId ++ ": control `" ++ control ++ "` is already covered by " ++ other] }
  | none => { audit with claimedBy := audit.claimedBy ++ [(control, entryId)] }

omit [Python] [PythonTables] [PythonDates] in
/-- An id is seen, perhaps again. -/
def see (audit : Audit) : Yaml → Audit
  | .str id =>
      { audit with
        seen := id :: audit.seen
        errors := audit.errors ++
          (if id ∈ audit.seen then
            [id ++ ": duplicate exception id; ids must be unique so an entry cannot be edited in " ++
              "place without review"]
          else []) }
  | _ => audit

/-- One round of the loop over the entries. -/
def auditEntry (today : Date) (audit : Audit) (entry : Yaml) : Except Raised Audit := do
  let seen := see audit (idOf entry)
  let (errors, claimed) ← validateEntry entry today
  pure (claimed.foldl (claim (idOf entry).toStr) { seen with errors := seen.errors ++ errors })

end

/-! ## The gate -/

/-- What the gate reads: the names of the workflows with what they parse to, and
the register (`none` without the file). -/
structure Inputs where
  workflowDir : String
  workflows : List (String × Except String Yaml)
  registerPath : String
  registerName : String
  register : Option (Except String Yaml)

/-- `value == 1` -/
def isOne : Yaml → Bool
  | .int n => n = 1
  | .bool b => b
  | .float text => text = "1.0"
  | _ => false

/-- `load_register` -/
def loadRegister (inputs : Inputs) : Except Raised (List Yaml) := do
  match inputs.register with
  | none => .error (.exit ("missing exception register: " ++ inputs.registerPath))
  | some (.error text) => .error (.yamlError text)
  | some (.ok document) => do
      let data := document.or (.map [])
      if !isOne (← attrGet data "version") then
        .error (.exit "exception register must declare `version: 1`")
      else
        match ← attrGet data "exceptions" with
        | .seq entries => pure entries
        | _ => .error (.exit "exception register must contain an `exceptions` list")

/-- A control of one more workflow, with the ids that are ambiguous. -/
def merge (state : List Record × List String) (new : Record) : List Record × List String :=
  match state.1.find? fun old => old.1.same new.1 with
  | some old =>
      (state.1.map fun record => if record.1.same new.1 then (record.1, new.2) else record,
        state.2 ++ ["control id `" ++ new.1.text ++ "` is ambiguous: produced by both " ++ old.2 ++
          " and " ++ new.2])
  | none => (state.1 ++ [new], state.2)

/-- The controls of one more workflow. -/
def mergeWorkflow [Python] (state : List Record × List String)
    (workflow : String × Except String Yaml) : Except Raised (List Record × List String) :=
  match workflow.2 with
  | .error text => .error (.exit (workflow.1 ++ ": invalid YAML: " ++ text))
  | .ok document => do
      let (found, ambiguous) ← findNonBlockingControls (document.or (.map [])) workflow.1
      pure (found.foldl merge (state.1, state.2 ++ ambiguous))

/-- A record with a text for an id. -/
def textRecord (record : Record) : Option (String × String) :=
  match record.1 with
  | .str s => some (s, record.2)
  | _ => none

/-- `sorted(non_blocking.items())`; other keys than strings or numbers have no order. -/
def sortedRecords (records : List Record) : Except Raised (List Record) :=
  if records.length ≤ 1 then .ok records
  else if records.all fun record => (textRecord record).isSome then
    .ok (records.insertionSort fun a b => a.1.text ≤ b.1.text)
  else if records.all fun record => record.1.number.isSome then
    .ok (records.insertionSort fun a b => a.1.number.getD 0 ≤ b.1.number.getD 0)
  else .error .typeError

/-- `control in claimed_by` -/
def isClaimed (claimedBy : Dict String) : Key → Bool
  | .str control => (claimedBy.get? control).isSome
  | _ => false

section

variable [Python] [PythonTables] [PythonDates]

/-- What `main` finds wrong. -/
def gateErrors (inputs : Inputs) (today : Date) : Except Raised (List String) := do
  if inputs.workflows.isEmpty then .error (.exit ("no workflows found in " ++ inputs.workflowDir))
  else
    let (nonBlocking, collisions) ← inputs.workflows.foldlM mergeWorkflow ([], [])
    let entries ← loadRegister inputs
    let audit ← entries.foldlM (auditEntry today)
      ⟨[], [], collisions.dedup.insertionSort fun a b => a ≤ b⟩
    let controls ← sortedRecords nonBlocking
    let uncovered := (controls.filter fun record => !isClaimed audit.claimedBy record.1).map
      fun record => "non-blocking control `" ++ record.1.text ++ "` has no registered exception (" ++
        record.2 ++ "); register it in " ++ inputs.registerName ++ " or make it blocking"
    let stale := ((audit.claimedBy.insertionSort fun a b => a.1 ≤ b.1).filter fun claimed =>
        !nonBlocking.any fun record => record.1.same (.str claimed.1)).map
      fun claimed => claimed.2 ++ ": exception covers `" ++ claimed.1 ++
        "`, which is no longer non-blocking; delete the stale entry"
    pure (audit.errors ++ uncovered ++ stale)

/-- `main`; what it prints is left out. -/
def main (inputs : Inputs) (today : Date) : Except Raised Nat :=
  (gateErrors inputs today).map fun errors => if errors.isEmpty then 0 else 1

end

/-! ## Entries that are accepted -/

/-- An entry that is not revoked covers a control. -/
def Claims (entry : Yaml) (control : String) : Prop :=
  ∃ fields, entry = .map fields ∧ Mapping.field fields "status" ≠ .str "revoked" ∧
    control ∈ claimedControls fields

section

variable [Python] [PythonTables] [PythonDates]

omit [Python] [PythonTables] in
/-- The expiry of an entry is from today on, and within the maximum. -/
def InWindow (today : Date) (entry : Yaml) : Prop :=
  ∃ fields text expiry, entry = .map fields ∧ Mapping.field fields "expires" = .str text ∧
    fromisoformat text = some expiry ∧ today.toordinal ≤ expiry.toordinal ∧
    expiry.toordinal ≤ today.toordinal + maxExpiryDays

/-- An entry that nothing is wrong with. -/
structure Accepted (today : Date) (entry : Yaml) (claimed : List String) : Prop where
  id : ∃ text, idOf entry = .str text
  window : ∀ control, Claims entry control → InWindow today entry
  claims : ∀ control, control ∈ claimed ↔ Claims entry control

omit [Python] [PythonTables] [PythonDates] in
theorem nodup_claimedControls (fields : Mapping) : (claimedControls fields).Nodup := by
  unfold claimedControls
  split
  · split
    · exact List.nodup_nil
    · exact List.nodup_dedup _
  · exact List.nodup_nil

omit [PythonDates] in
theorem exists_of_idErrors {id : Yaml} (h : idErrors id = []) : ∃ text, id = .str text := by
  cases id with
  | str text => exact ⟨text, rfl⟩
  | _ => contradiction

omit [PythonTables] in
theorem inWindow_of_expiry {fields : Mapping} {entryId : String} {today : Date}
    (hwrong : (parseExpiry (Mapping.field fields "expires") entryId).2 = [])
    (houtside : (parseExpiry (Mapping.field fields "expires") entryId).1.elim []
      (expiryErrors entryId today) = []) : InWindow today (.map fields) := by
  unfold parseExpiry at hwrong houtside
  split at hwrong
  case h_1 text htext =>
    rw [htext] at houtside
    cases hexpiry : fromisoformat text with
    | none =>
        rw [hexpiry] at hwrong
        contradiction
    | some expiry =>
        simp only [hexpiry, Option.elim_some, expiryErrors] at houtside
        split at houtside
        case isTrue => contradiction
        case isFalse hnotexpired =>
          split at houtside
          case isTrue => contradiction
          case isFalse hnear =>
            exact ⟨fields, text, expiry, rfl, htext, hexpiry, by omega, by omega⟩
  case h_2 => contradiction

theorem nodup_of_validateEntry {entry : Yaml} {today : Date} {result : List String × List String}
    (h : validateEntry entry today = .ok result) : result.2.Nodup := by
  unfold validateEntry at h
  split at h
  case h_1 fields =>
    obtain ⟨wrongStatus, -, hrest⟩ := bind_eq_ok_iff.mp h
    split at hrest
    case h_1 => exact pure_eq_ok_iff.mp hrest ▸ List.nodup_nil
    case h_2 => exact pure_eq_ok_iff.mp hrest ▸ nodup_claimedControls fields
  case h_2 => exact pure_eq_ok_iff.mp h ▸ List.nodup_nil

theorem accepted_of_validateEntry {entry : Yaml} {today : Date} {claimed : List String}
    (h : validateEntry entry today = .ok ([], claimed)) : Accepted today entry claimed := by
  unfold validateEntry at h
  split at h
  case h_1 fields =>
    obtain ⟨wrongStatus, -, hrest⟩ := bind_eq_ok_iff.mp h
    split at hrest
    case h_1 hrevoked =>
      obtain ⟨herrors, hclaimed⟩ := Prod.mk.inj (pure_eq_ok_iff.mp hrest)
      simp only [List.append_eq_nil_iff] at herrors
      have hnone : ∀ control, ¬ Claims (.map fields) control := by
        rintro control ⟨fields', hfields, hnot, -⟩
        exact hnot (Yaml.map.inj hfields ▸ hrevoked)
      refine ⟨exists_of_idErrors herrors.1.1.1.1, fun control hc => absurd hc (hnone control),
        fun control => ?_⟩
      rw [← hclaimed]
      exact iff_of_false List.not_mem_nil (hnone control)
    case h_2 hstatus =>
      obtain ⟨herrors, hclaimed⟩ := Prod.mk.inj (pure_eq_ok_iff.mp hrest)
      simp only [List.append_eq_nil_iff] at herrors
      obtain ⟨⟨herrors, hwrong⟩, houtside⟩ := herrors
      refine ⟨exists_of_idErrors herrors.1.1.1.1, fun _ _ => inWindow_of_expiry hwrong houtside,
        fun control => ?_⟩
      rw [← hclaimed]
      constructor
      · exact fun hmem => ⟨fields, rfl, hstatus, hmem⟩
      · rintro ⟨fields', hfields, -, hmem⟩
        exact Yaml.map.inj hfields ▸ hmem
  case h_2 => exact absurd (Prod.mk.inj (pure_eq_ok_iff.mp h)).1 (List.cons_ne_nil _ _)

/-! ## The loop over the entries -/

omit [Python] [PythonTables] [PythonDates] in
/-- Controls are claimed without an error exactly if they were not claimed before. -/
theorem foldl_claim {entryId : String} {claimed : List String} {audit : Audit}
    (hnodup : claimed.Nodup) (h : (claimed.foldl (claim entryId) audit).errors = []) :
    audit.errors = [] ∧ (∀ control ∈ claimed, control ∉ audit.claimedBy.map Prod.fst) ∧
      (claimed.foldl (claim entryId) audit).claimedBy.map Prod.fst =
        audit.claimedBy.map Prod.fst ++ claimed ∧
      (claimed.foldl (claim entryId) audit).seen = audit.seen := by
  induction claimed generalizing audit with
  | nil => exact ⟨h, nofun, (List.append_nil _).symm, rfl⟩
  | cons control claimed ih =>
      obtain ⟨hnotin, hnodup⟩ := List.nodup_cons.mp hnodup
      rw [List.foldl_cons] at h ⊢
      obtain ⟨herrors, hfresh, hkeys, hseen⟩ := ih hnodup h
      cases hget : audit.claimedBy.get? control with
      | some other =>
          simp only [claim, hget] at herrors
          exact absurd (List.append_eq_nil_iff.mp herrors).2 (List.cons_ne_nil _ _)
      | none =>
          have hclaim : claim entryId audit control =
              { audit with claimedBy := audit.claimedBy ++ [(control, entryId)] } := by
            simp only [claim, hget]
          rw [hclaim] at herrors hfresh hkeys hseen ⊢
          simp only [List.map_append, List.map_cons, List.map_nil, List.mem_append,
            List.mem_singleton, not_or] at hfresh
          refine ⟨herrors, fun other hother => ?_, ?_, hseen⟩
          · rcases List.mem_cons.mp hother with rfl | hother
            · exact Dict.get?_eq_none_iff.mp hget
            · exact (hfresh other hother).1
          · rw [hkeys, List.map_append, List.append_assoc]
            rfl

omit [Python] [PythonTables] [PythonDates] in
/-- An id is seen without an error exactly if it was not seen before. -/
theorem see_str {audit : Audit} {id : String} (h : (see audit (.str id)).errors = []) :
    audit.errors = [] ∧ id ∉ audit.seen := by
  obtain ⟨herrors, hduplicate⟩ := List.append_eq_nil_iff.mp h
  refine ⟨herrors, fun hmem => ?_⟩
  rw [if_pos hmem] at hduplicate
  contradiction

/-- A round of the loop over the entries that reports no error. -/
structure Round (today : Date) (audit : Audit) (entry : Yaml) (audit' : Audit) (id : String)
    (claimed : List String) : Prop where
  errors : audit.errors = []
  accepted : Accepted today entry claimed
  idOf_eq : idOf entry = .str id
  unseen : id ∉ audit.seen
  seen : audit'.seen = id :: audit.seen
  fresh : ∀ control ∈ claimed, control ∉ audit.claimedBy.map Prod.fst
  keys : audit'.claimedBy.map Prod.fst = audit.claimedBy.map Prod.fst ++ claimed

theorem round_of_auditEntry {today : Date} {audit audit' : Audit} {entry : Yaml}
    (h : auditEntry today audit entry = .ok audit') (herrors : audit'.errors = []) :
    ∃ id claimed, Round today audit entry audit' id claimed := by
  obtain ⟨⟨errors, claimed⟩, hvalid, hrest⟩ := bind_eq_ok_iff.mp h
  obtain rfl := pure_eq_ok_iff.mp hrest
  obtain ⟨hbefore, hfresh, hkeys, hseen⟩ := foldl_claim (nodup_of_validateEntry hvalid) herrors
  obtain ⟨hsee, hnone⟩ := List.append_eq_nil_iff.mp hbefore
  rw [hnone] at hvalid
  have haccepted := accepted_of_validateEntry hvalid
  obtain ⟨id, hid⟩ := haccepted.id
  rw [hid] at hsee hfresh hkeys hseen
  obtain ⟨haudit, hunseen⟩ := see_str hsee
  exact ⟨id, claimed, haudit, haccepted, hid, hunseen, hid ▸ hseen, hfresh, hid ▸ hkeys⟩

/-- The rounds for some entries without an error. -/
structure Rounds (today : Date) (audit : Audit) (entries : List Yaml) (audit' : Audit) : Prop where
  errors : audit.errors = []
  window : ∀ entry ∈ entries, ∀ control, Claims entry control → InWindow today entry
  unseen : ∀ entry ∈ entries, ∃ id, idOf entry = .str id ∧ id ∉ audit.seen
  distinct : entries.Pairwise fun entry entry' => idOf entry ≠ idOf entry'
  fresh : ∀ entry ∈ entries, ∀ control, Claims entry control →
    control ∉ audit.claimedBy.map Prod.fst
  once : entries.Pairwise fun entry entry' => ∀ control, Claims entry control → ¬ Claims entry' control
  keys : ∀ control, control ∈ audit'.claimedBy.map Prod.fst ↔
    control ∈ audit.claimedBy.map Prod.fst ∨ ∃ entry ∈ entries, Claims entry control

omit [Python] [PythonTables] in
theorem Round.cons {today : Date} {audit audit' audit'' : Audit} {entry : Yaml} {id : String}
    {claimed : List String} {entries : List Yaml} (h : Round today audit entry audit' id claimed)
    (hrest : Rounds today audit' entries audit'') : Rounds today audit (entry :: entries) audit'' := by
  have hkey : ∀ control, control ∈ audit'.claimedBy.map Prod.fst ↔
      control ∈ audit.claimedBy.map Prod.fst ∨ Claims entry control := by
    intro control
    rw [h.keys, List.mem_append, h.accepted.claims]
  refine ⟨h.errors, ?_, ?_, ?_, ?_, ?_, ?_⟩
  · exact List.forall_mem_cons.mpr ⟨h.accepted.window, hrest.window⟩
  · refine List.forall_mem_cons.mpr ⟨⟨id, h.idOf_eq, h.unseen⟩, fun other hother => ?_⟩
    obtain ⟨id', hid', hunseen⟩ := hrest.unseen other hother
    rw [h.seen, List.mem_cons, not_or] at hunseen
    exact ⟨id', hid', hunseen.2⟩
  · refine List.pairwise_cons.mpr ⟨fun other hother heq => ?_, hrest.distinct⟩
    obtain ⟨id', hid', hunseen⟩ := hrest.unseen other hother
    rw [h.idOf_eq, hid'] at heq
    rw [h.seen, Yaml.str.inj heq] at hunseen
    exact hunseen List.mem_cons_self
  · refine List.forall_mem_cons.mpr ⟨fun control hc => ?_, fun other hother control hc hmem => ?_⟩
    · exact h.fresh control ((h.accepted.claims control).mpr hc)
    · exact hrest.fresh other hother control hc ((hkey control).mpr (.inl hmem))
  · refine List.pairwise_cons.mpr ⟨fun other hother control hc hc' => ?_, hrest.once⟩
    exact hrest.fresh other hother control hc' ((hkey control).mpr (.inr hc))
  · intro control
    rw [hrest.keys, hkey, List.exists_mem_cons_iff, or_assoc]

/-- A loop without an error is one of rounds without one. -/
theorem rounds_of_foldlM {today : Date} {entries : List Yaml} {audit audit' : Audit}
    (h : entries.foldlM (auditEntry today) audit = .ok audit') (herrors : audit'.errors = []) :
    Rounds today audit entries audit' := by
  induction entries generalizing audit with
  | nil =>
      obtain rfl := pure_eq_ok_iff.mp h
      exact ⟨herrors, nofun, nofun, .nil, nofun, .nil, fun control => by simp⟩
  | cons entry entries ih =>
      rw [List.foldlM_cons] at h
      obtain ⟨next, hround, hrest⟩ := bind_eq_ok_iff.mp h
      have hrounds := ih hrest
      obtain ⟨id, claimed, hone⟩ := round_of_auditEntry hround hrounds.errors
      exact hone.cons hrounds

end

/-- What pairs exclude, two places exclude. -/
theorem eq_of_pairwise {α : Type} {R : α → α → Prop} {xs : List α} (h : xs.Pairwise R)
    {i j : Nat} {x y : α} (hx : xs[i]? = some x) (hy : xs[j]? = some y) (hxy : ¬ R x y)
    (hyx : ¬ R y x) : j = i := by
  obtain ⟨hi, rfl⟩ := List.getElem?_eq_some_iff.mp hx
  obtain ⟨hj, rfl⟩ := List.getElem?_eq_some_iff.mp hy
  rcases lt_trichotomy i j with hlt | heq | hgt
  · exact absurd (List.pairwise_iff_getElem.mp h i j hi hj hlt) hxy
  · exact heq.symm
  · exact absurd (List.pairwise_iff_getElem.mp h j i hj hi hgt) hyx

/-! ## The workflows -/

/-- The id of a control in one of the workflows that does not fail the build. -/
def MarkedIn [Python] (spelling : Spelling) (workflows : List (String × Except String Yaml))
    (key : Key) : Prop :=
  ∃ file entries, (file, .ok (.map entries)) ∈ workflows ∧ Marked spelling entries key

/-- The id of a step in one of them with an input that is off, but does not read so. -/
def MissedIn [Python] (workflows : List (String × Except String Yaml)) (key : Key) : Prop :=
  ∃ file entries, (file, .ok (.map entries)) ∈ workflows ∧ Missed entries key

theorem markedIn_documented_iff [Python] {workflows : List (String × Except String Yaml)} {key : Key} :
    MarkedIn .documented workflows key ↔ MarkedIn .compared workflows key ∨ MissedIn workflows key := by
  simp only [MarkedIn, MissedIn, marked_documented_iff, and_or_left, exists_or]

theorem keysOf_merge (state : List Record × List String) (new : Record) :
    keysOf (merge state new).1 = addKey (keysOf state.1) new.1 := by
  unfold merge addKey
  rw [any_keysOf]
  split
  case h_1 hold =>
    rw [hold, Option.isSome_some, if_pos rfl, keysOf, List.map_map]
    refine List.map_congr_left fun record _ => ?_
    show (if record.1.same new.1 then (record.1, new.2) else record).1 = record.1
    split <;> rfl
  case h_2 hold => rw [hold]; exact List.map_append

section

variable [Python]

/-- An empty document has no controls. -/
theorem mem_workflowRecords_or_iff {document : Yaml} {file : String} {records : List Record}
    (h : workflowRecords (document.or (.map [])) file = .ok records) (key : Key) :
    key ∈ keysOf records ↔ ∃ entries, document = .map entries ∧ Marked .compared entries key := by
  rw [mem_workflowRecords_iff h, Yaml.or]
  split
  case isTrue => rfl
  case isFalse hfalsy =>
    constructor
    · rintro ⟨entries, hentries, hjobs, -, -⟩
      obtain rfl := Yaml.map.inj hentries
      contradiction
    · rintro ⟨entries, rfl, hmarked⟩
      rw [Yaml.truthy, Bool.not_eq_true, Bool.not_eq_false', List.isEmpty_iff] at hfalsy
      exact ⟨[], rfl, hfalsy ▸ hmarked⟩

theorem collects_mergeWorkflow {state state' : List Record × List String}
    {workflow : String × Except String Yaml} (h : mergeWorkflow state workflow = .ok state')
    {all : List Key} (hall : Collects all (keysOf state.1)) :
    ∃ more, Collects (all ++ more) (keysOf state'.1) ∧
      ∀ key, key ∈ more ↔
        ∃ entries, workflow.2 = .ok (.map entries) ∧ Marked .compared entries key := by
  unfold mergeWorkflow at h
  split at h
  case h_1 => contradiction
  case h_2 document hdocument =>
    obtain ⟨⟨found, ambiguous⟩, hfound, hrest⟩ := bind_eq_ok_iff.mp h
    obtain ⟨records, hrecords, hcollects⟩ := collects_findNonBlockingControls hfound
    refine ⟨keysOf records, ?_, fun key => ?_⟩
    · rw [← pure_eq_ok_iff.mp hrest, keysOf_foldl keysOf_merge]
      exact hcollects.trans (hall.foldl_addKey _)
    · rw [mem_workflowRecords_or_iff hrecords, hdocument]
      simp only [Except.ok.injEq]

/-- What is collected from the workflows are the controls marked as they are
compared. -/
theorem collects_foldlM {workflows : List (String × Except String Yaml)}
    {state state' : List Record × List String}
    (h : workflows.foldlM mergeWorkflow state = .ok state') {all : List Key}
    (hall : Collects all (keysOf state.1)) :
    ∃ more, Collects (all ++ more) (keysOf state'.1) ∧
      ∀ key, key ∈ more ↔ MarkedIn .compared workflows key := by
  induction workflows generalizing state all with
  | nil =>
      obtain rfl := pure_eq_ok_iff.mp h
      refine ⟨[], by rwa [List.append_nil], fun key => ?_⟩
      exact iff_of_false List.not_mem_nil fun ⟨_, _, hmem, _⟩ => List.not_mem_nil hmem
  | cons workflow workflows ih =>
      rw [List.foldlM_cons] at h
      obtain ⟨next, hfirst, hrest⟩ := bind_eq_ok_iff.mp h
      obtain ⟨first, hcollects, hfirst⟩ := collects_mergeWorkflow hfirst hall
      obtain ⟨more, hcollects', hmore⟩ := ih hrest hcollects
      refine ⟨first ++ more, by rwa [← List.append_assoc], fun key => ?_⟩
      rw [List.mem_append, hfirst, hmore]
      constructor
      · rintro (⟨entries, hentries, hmarked⟩ | ⟨file, entries, hmem, hmarked⟩)
        · refine ⟨workflow.1, entries, ?_, hmarked⟩
          rw [← hentries]
          exact List.mem_cons_self
        · exact ⟨file, entries, List.mem_cons_of_mem _ hmem, hmarked⟩
      · rintro ⟨file, entries, hmem, hmarked⟩
        rcases List.mem_cons.mp hmem with rfl | hmem
        · exact .inl ⟨entries, rfl, hmarked⟩
        · exact .inr ⟨file, entries, hmem, hmarked⟩

end

/-- Sorting leaves the records as they are. -/
theorem mem_sortedRecords {records sorted : List Record} (h : sortedRecords records = .ok sorted)
    (record : Record) : record ∈ sorted ↔ record ∈ records := by
  unfold sortedRecords at h
  split at h
  case isTrue => rw [Except.ok.inj h]
  case isFalse =>
    split at h
    case isTrue => rw [← Except.ok.inj h, List.mem_insertionSort]
    case isFalse =>
      split at h
      case isTrue => rw [← Except.ok.inj h, List.mem_insertionSort]
      case isFalse => contradiction

/-! ## Runs that pass -/

/-- The entries that a register lists. -/
def Inputs.entries (inputs : Inputs) : List Yaml :=
  match inputs.register with
  | some (.ok (.map document)) =>
      match Mapping.field document "exceptions" with
      | .seq entries => entries
      | _ => []
  | _ => []

theorem entries_of_loadRegister {inputs : Inputs} {entries : List Yaml}
    (h : loadRegister inputs = .ok entries) : inputs.entries = entries := by
  unfold loadRegister at h
  unfold Inputs.entries
  split at h
  case h_1 => contradiction
  case h_2 => contradiction
  case h_3 document hdocument =>
    rw [hdocument]
    obtain ⟨version, hversion, hrest⟩ := bind_eq_ok_iff.mp h
    rw [Yaml.or] at hversion hrest
    split at hversion
    case isTrue =>
      cases document with
      | map fields =>
          split at hrest
          case isTrue => contradiction
          case isFalse =>
            obtain ⟨exceptions, hexceptions, hentries⟩ := bind_eq_ok_iff.mp hrest
            dsimp only
            rw [Except.ok.inj hexceptions]
            cases exceptions with
            | seq items => exact pure_eq_ok_iff.mp hentries
            | _ => contradiction
      | _ => contradiction
    case isFalse =>
      -- an empty register declares no version
      obtain rfl : Yaml.null = version := Except.ok.inj hversion
      contradiction

section

variable [Python] [PythonTables] [PythonDates]

/-- A control is claimed by one entry, of an id that no other has and with an
expiry that is near. -/
def CoveredOnce (today : Date) (entries : List Yaml) (control : String) : Prop :=
  ∃ (i : Nat) (entry : Yaml), entries[i]? = some entry ∧ Claims entry control ∧
    InWindow today entry ∧
    (∀ (j : Nat) (other : Yaml), entries[j]? = some other → Claims other control → j = i) ∧
    ∀ (j : Nat) (other : Yaml), entries[j]? = some other → idOf other = idOf entry → j = i

/-- What a gate that passes is for. -/
structure Gated (inputs : Inputs) (today : Date) : Prop where
  covered : ∀ key, MarkedIn .documented inputs.workflows key →
    ∃ control, key = .str control ∧ CoveredOnce today inputs.entries control
  current : ∀ entry ∈ inputs.entries, ∀ control, Claims entry control →
    MarkedIn .documented inputs.workflows (.str control)

/-- What a gate that passes has found: the ids of controls, and the controls
that are claimed. -/
structure Passed (inputs : Inputs) (today : Date) (keys : List Key) (claimed : List String) :
    Prop where
  sound : ∀ key ∈ keys, MarkedIn .compared inputs.workflows key
  complete : ∀ key, MarkedIn .compared inputs.workflows key → ∃ key' ∈ keys, key'.same key = true
  claims : ∀ control, control ∈ claimed ↔ ∃ entry ∈ inputs.entries, Claims entry control
  window : ∀ entry ∈ inputs.entries, ∀ control, Claims entry control → InWindow today entry
  distinct : inputs.entries.Pairwise fun entry entry' => idOf entry ≠ idOf entry'
  once : inputs.entries.Pairwise fun entry entry' => ∀ control, Claims entry control →
    ¬ Claims entry' control
  covered : ∀ key ∈ keys, ∃ control ∈ claimed, key = .str control
  current : ∀ control ∈ claimed, .str control ∈ keys

omit [Python] [PythonTables] [PythonDates] in
theorem isClaimed_iff {claimedBy : Dict String} {key : Key} :
    isClaimed claimedBy key = true ↔ ∃ control ∈ claimedBy.map Prod.fst, key = .str control := by
  cases key with
  | str control =>
      rw [isClaimed, Option.isSome_iff_ne_none, Ne, Dict.get?_eq_none_iff, not_not]
      simp
  | _ => exact iff_of_false Bool.false_ne_true fun ⟨_, _, h⟩ => nomatch h

/-- A gate without an error. -/
theorem passed_of_main {inputs : Inputs} {today : Date} (h : main inputs today = .ok 0) :
    ∃ keys claimed, Passed inputs today keys claimed := by
  obtain ⟨errors, herrors, hzero⟩ := map_eq_ok_iff.mp h
  obtain rfl : errors = [] := by
    cases errors with
    | nil => rfl
    | cons => contradiction
  unfold gateErrors at herrors
  split at herrors
  case isTrue => contradiction
  case isFalse =>
    obtain ⟨⟨nonBlocking, collisions⟩, hworkflows, hrest⟩ := bind_eq_ok_iff.mp herrors
    obtain ⟨entries, hregister, hrest⟩ := bind_eq_ok_iff.mp hrest
    obtain ⟨audit, haudit, hrest⟩ := bind_eq_ok_iff.mp hrest
    obtain ⟨controls, hcontrols, hrest⟩ := bind_eq_ok_iff.mp hrest
    obtain ⟨hbefore, hstale⟩ := List.append_eq_nil_iff.mp (pure_eq_ok_iff.mp hrest)
    obtain ⟨hnone, huncovered⟩ := List.append_eq_nil_iff.mp hbefore
    have hrounds := rounds_of_foldlM haudit hnone
    have hempty : Collects [] (keysOf []) := ⟨nofun, nofun⟩
    obtain ⟨all, hcollects, hall⟩ := collects_foldlM hworkflows hempty
    rw [List.nil_append] at hcollects
    refine ⟨keysOf nonBlocking, audit.claimedBy.map Prod.fst, ?_⟩
    rw [← entries_of_loadRegister hregister] at hrounds
    refine ⟨?_, ?_, ?_, hrounds.window, hrounds.distinct, hrounds.once, ?_, ?_⟩
    · exact fun key hkey => (hall key).mp (hcollects.sound key hkey)
    · exact fun key hkey => hcollects.complete key ((hall key).mpr hkey)
    · intro control
      rw [hrounds.keys]
      simp
    · intro key hkey
      obtain ⟨record, hrecord, rfl⟩ := List.mem_map.mp hkey
      rw [List.map_eq_nil_iff, List.filter_eq_nil_iff] at huncovered
      have hclaimed := huncovered record ((mem_sortedRecords hcontrols record).mpr hrecord)
      rw [Bool.not_eq_true, Bool.not_eq_false'] at hclaimed
      exact isClaimed_iff.mp hclaimed
    · intro control hcontrol
      obtain ⟨claimed, hclaimed, rfl⟩ := List.mem_map.mp hcontrol
      rw [List.map_eq_nil_iff, List.filter_eq_nil_iff] at hstale
      have hfound := hstale claimed ((List.mem_insertionSort _).mpr hclaimed)
      rw [Bool.not_eq_true, Bool.not_eq_false', List.any_eq_true] at hfound
      obtain ⟨record, hrecord, hsame⟩ := hfound
      rw [Yaml.Key.same_str_iff'] at hsame
      exact hsame ▸ List.mem_map_of_mem hrecord

omit [PythonTables] in
/-- Everything that is found is covered once. -/
theorem Passed.coveredOnce {inputs : Inputs} {today : Date} {keys : List Key}
    {claimed : List String} (h : Passed inputs today keys claimed) {key : Key}
    (hkey : MarkedIn .compared inputs.workflows key) :
    ∃ control, key = .str control ∧ CoveredOnce today inputs.entries control := by
  obtain ⟨key', hkey', hsame⟩ := h.complete key hkey
  obtain ⟨control, hcontrol, rfl⟩ := h.covered key' hkey'
  refine ⟨control, Yaml.Key.same_str_iff.mp hsame, ?_⟩
  obtain ⟨entry, hentry, hclaims⟩ := (h.claims control).mp hcontrol
  obtain ⟨i, hi⟩ := List.mem_iff_getElem?.mp hentry
  refine ⟨i, entry, hi, hclaims, h.window entry hentry control hclaims, ?_, ?_⟩
  · intro j other hj hother
    exact eq_of_pairwise h.once hi hj (fun hnot => hnot control hclaims hother)
      fun hnot => hnot control hother hclaims
  · intro j other hj hid
    exact eq_of_pairwise h.distinct hi hj (fun hne => hne hid.symm) fun hne => hne hid

/-- A gate that passes holds what it is for exactly if what it misses shares its
id with something that it finds. -/
theorem gated_iff {inputs : Inputs} {today : Date} (h : main inputs today = .ok 0) :
    Gated inputs today ↔
      ∀ key, MissedIn inputs.workflows key → MarkedIn .compared inputs.workflows key := by
  obtain ⟨keys, claimed, hpassed⟩ := passed_of_main h
  constructor
  · intro hgated key hmissed
    obtain ⟨control, rfl, i, entry, hi, hclaims, -⟩ :=
      hgated.covered key (markedIn_documented_iff.mpr (.inr hmissed))
    have hclaimed := (hpassed.claims control).mpr ⟨entry, List.mem_of_getElem? hi, hclaims⟩
    exact hpassed.sound _ (hpassed.current control hclaimed)
  · intro hshared
    refine ⟨fun key hkey => hpassed.coveredOnce ?_, fun entry hentry control hclaims => ?_⟩
    · exact (markedIn_documented_iff.mp hkey).elim id (hshared key)
    · have hclaimed := (hpassed.claims control).mpr ⟨entry, hentry, hclaims⟩
      exact markedIn_documented_iff.mpr (.inl (hpassed.sound _ (hpassed.current control hclaimed)))

end

/-- A scan. -/
def scanStep (failBuild : Yaml) : Mapping :=
  [(.str "name", .str "Grype"), (.str "uses", .str "anchore/scan-action@v6"),
    (.str "with", .map [(.str "fail-build", failBuild)])]

/-- A workflow with one scan, and a register. -/
def scanInputs (failBuild : Yaml) (entries : List Yaml) : Inputs where
  workflowDir := ".github/workflows"
  workflows :=
    let job := .map [(.str "steps", .seq [.map (scanStep failBuild)])]
    [("ci.yml", .ok (.map [(.str "jobs", .map [(.str "scan", job)])]))]
  registerPath := ".github/security-exceptions.yml"
  registerName := "security-exceptions.yml"
  register := some (.ok (.map [(.str "version", .int 1), (.str "exceptions", .seq entries)]))

/-- An entry for the scan. -/
def scanEntry : Yaml := .map
  [(.str "id", .str "SEC-EXC-001"), (.str "control", .str "scan/Grype"),
    (.str "scope", .str "the image"), (.str "owner", .str "platform"),
    (.str "tracking", .str "#12"), (.str "status", .str "accepted"),
    (.str "expires", .str "2025-06-01"),
    (.str "compensating_controls", .seq [.str "a nightly scan"]),
    (.str "reason", .str ("The base image has findings that have no fix yet; they are listed in " ++
      "the tracking issue and read each week."))]

/-- 9 March 2025 -/
def scanDay : Date := ⟨2025, 3, 9, by decide, by decide, by decide⟩

set_option maxRecDepth 10000 in
theorem main_scan :
    letI := Python.folding
    letI := PythonTables.folding
    letI := PythonDates.extended
    main (scanInputs (.str "false") [scanEntry]) scanDay = .ok 0 := by
  rfl

/-- A scan that is off by a text, and has an entry. -/
theorem gated_scan :
    letI := Python.folding
    letI := PythonTables.folding
    letI := PythonDates.extended
    Gated (scanInputs (.str "false") [scanEntry]) scanDay := by
  let _ := Python.folding
  let _ := PythonTables.folding
  let _ := PythonDates.extended
  refine (gated_iff main_scan).mpr fun key ⟨file, entries, hmem, hmissed⟩ => ?_
  obtain ⟨-, hdocument⟩ := Prod.mk.inj (List.mem_singleton.mp hmem)
  obtain rfl := Yaml.map.inj (Except.ok.inj hdocument)
  cases hmissed with
  | @intro jobs job step name steps index hjobs hjob hsteps hstep h =>
      obtain rfl := Yaml.map.inj (Option.some.inj hjobs)
      obtain ⟨rfl, hvalue⟩ := Prod.mk.inj (List.mem_singleton.mp hjob)
      obtain rfl := Yaml.map.inj hvalue
      obtain rfl := Yaml.seq.inj (Option.some.inj hsteps)
      obtain rfl := Yaml.map.inj (List.mem_singleton.mp (List.mem_of_getElem? hstep))
      cases h with
      | grype huses hinput => exact nomatch Option.some.inj hinput
      | trivy huses hinput hzero => exact absurd huses (by decide)

set_option maxRecDepth 10000 in
/-- A scan that is off by a boolean, as actions take it, is not found. -/
theorem not_gated_boolean :
    letI := Python.folding
    letI := PythonTables.folding
    letI := PythonDates.extended
    ¬ ∀ (inputs : Inputs) (today : Date), main inputs today = .ok 0 → Gated inputs today := by
  let _ := Python.folding
  let _ := PythonTables.folding
  let _ := PythonDates.extended
  intro h
  have hgated := h (scanInputs (.bool false) []) scanDay rfl
  have hmarked : MarkedIn .documented (scanInputs (.bool false) []).workflows (.str "scan/Grype") := by
    have hid : Key.str "scan/Grype" = stepId (.str "scan") (scanStep (.bool false)) 0 := rfl
    rw [hid]
    refine ⟨_, _, List.mem_singleton_self _, .intro rfl (List.mem_singleton_self _) ?_⟩
    exact .step rfl rfl (.grype (by decide) rfl (.inl rfl))
  obtain ⟨control, -, i, entry, hi, -⟩ := hgated.covered _ hmarked
  contradiction

end DbGateway.SecurityExceptions
