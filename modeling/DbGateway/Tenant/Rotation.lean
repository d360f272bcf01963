import DbGateway.Json.Roundtrip
import DbGateway.LastWrite
import DbGateway.Runs
import DbGateway.Tenant.Resolver

/-!
# DbGateway.Tenant.Rotation

`scripts/rotate_creds.sh`: the sidecar that changes the passwords of the
tenants' database roles and writes each to a file.

The directory is a store of files named `{tenant_id}_{role_name}.json`.  The
name says neither the host nor the database, and runs tenant and role
together, so two bindings can share a file; where none do, a binding's file
holds what was last rotated for it (`filesAfter_of_separate`).
-/

namespace DbGateway.Tenant

open Json (isPlain)

/-- `/creds`: the text of each file in it. -/
abbrev Directory := String → Option String

/-- `{tenant_id}_{role_name}.json`, to the rotator and to the loader alike. -/
def credsFile (tenantId roleName : String) : String := tenantId ++ "_" ++ roleName ++ ".json"

/-! ## The rotator -/

/-- The alphabet of `openssl rand -base64`. -/
def isBase64 (c : Char) : Bool := c.isAlphanum || c = '+' || c = '/' || c = '='

abbrev Base64 := { text : List Char // ∀ c ∈ text, isBase64 c = true }

/-- The characters of `date -u +'%Y-%m-%dT%H:%M:%SZ'`. -/
def isInstant (c : Char) : Bool := c.isDigit || c = '-' || c = ':' || c = 'T' || c = 'Z'

abbrev Instant := { text : List Char // ∀ c ∈ text, isInstant c = true }

/-- How the commands of one `rotate_tenant` end. -/
structure Outcome where
  /-- What `openssl` prints; `none` when it fails. -/
  random : Option Base64
  /-- `psql` has changed the password of the role. -/
  altered : Bool
  rotatedAt : Instant
  /-- `cat`, `chgrp`, `chmod` and `mv` have put the file in place. -/
  written : Bool

/-- A call of `rotate_tenant`. -/
structure Rotation where
  tenantId : String
  roleName : String
  dbName : String
  host : String
  port : Int
  outcome : Outcome

namespace Rotation

/-- The call `main` makes for a binding. -/
def ofBinding (binding : TenantDatabaseConfig) (outcome : Outcome) : Rotation :=
  ⟨binding.orgId, binding.roleName, binding.dbName, binding.host, binding.port, outcome⟩

/-- `openssl rand -base64 32 | tr -d '=+/' | cut -c1-48` -/
def password (random : Base64) : List Char :=
  (random.1.filter fun c => c ≠ '=' && c ≠ '+' && c ≠ '/').take 48

/-- `new_pass`, unless it is empty. -/
def newPass (call : Rotation) : Option (List Char) :=
  match call.outcome.random with
  | none => none
  | some random => if password random = [] then none else some (password random)

/-- The password depends on the outcome alone. -/
theorem newPass_ofBinding (binding binding' : TenantDatabaseConfig) (outcome : Outcome) :
    (ofBinding binding outcome).newPass = (ofBinding binding' outcome).newPass := rfl

/-- A line of the file up to the next one: a name and a text. -/
def line (name value : List Char) : List Char :=
  '"' :: name ++ '"' :: ':' :: ' ' :: '"' :: value ++ ['"', ',', '\n', ' ', ' ']

/-- The names and the texts of the file, in order. -/
def entries (call : Rotation) (newPass : List Char) : List (String × List Char) :=
  [("tenant_id", call.tenantId.toList), ("role_name", call.roleName.toList),
    ("database", call.dbName.toList), ("username", call.roleName.toList), ("password", newPass),
    ("rotated_at", call.outcome.rotatedAt.1), ("host", call.host.toList)]

/-- The file's text. -/
def text (call : Rotation) (newPass : List Char) : List Char :=
  '\x7b' :: '\n' :: ' ' :: ' ' ::
    ((call.entries newPass).flatMap (fun entry => line entry.1.toList entry.2) ++
      ('"' :: "port".toList ++ '"' :: ':' :: ' ' :: Json.printInt call.port ++
        '\n' :: '\x7d' :: ['\n']))

def file (call : Rotation) : String := credsFile call.tenantId call.roleName

end Rotation

/-- `rotate_tenant`: whether it succeeds, and the directory it leaves.  It is
called on the left of `||`, where `set -e` is off: when `psql` fails, the
password PostgreSQL does not have is written all the same. -/
def rotateTenant (files : Directory) (call : Rotation) : Bool × Directory :=
  match call.newPass with
  | none => (false, files)
  | some newPass =>
      if call.outcome.written then
        (true, Function.update files call.file (some (String.ofList (call.text newPass))))
      else (true, files)

/-- A call that writes its file. -/
theorem rotateTenant_file (files : Directory) {call : Rotation} {newPass : List Char}
    (hpass : call.newPass = some newPass) (hwritten : call.outcome.written = true) :
    (rotateTenant files call).2 call.file = some (String.ofList (call.text newPass)) := by
  rw [rotateTenant, hpass]
  simp only [hwritten, if_true, Function.update_self]

/-- A database in the rotator's configuration, and how rotating it ends. -/
structure Entry where
  binding : TenantDatabaseConfig
  rotationEnabled : Bool
  outcome : Outcome

/-- The databases `main` does not skip. -/
def Entry.isDue (entry : Entry) : Bool :=
  entry.binding.credentialMode = .rotated && entry.rotationEnabled &&
    entry.binding.roleName ≠ "" && entry.binding.host ≠ "" && entry.binding.dbName ≠ ""

/-- `main`: one pass over the configuration, given up at the first failure. -/
def rotationPass (files : Directory) : List Entry → Bool × Directory
  | [] => (true, files)
  | entry :: entries =>
      if entry.isDue then
        match rotateTenant files (.ofBinding entry.binding entry.outcome) with
        | (false, files) => (false, files)
        | (true, files) => rotationPass files entries
      else rotationPass files entries

/-! ## Plain text -/

theorem isPlain_of_isAlphanum {c : Char} (h : c.isAlphanum = true) : isPlain c = true := by
  have hquote : c ≠ '"' := fun hc => by rw [hc] at h; contradiction
  have hbackslash : c ≠ '\\' := fun hc => by rw [hc] at h; contradiction
  have hcontrol : 0x20 ≤ c.toNat := by
    unfold Char.isAlphanum Char.isAlpha Char.isUpper Char.isLower Char.isDigit at h
    simp only [Bool.or_eq_true, Bool.and_eq_true, decide_eq_true_eq, ge_iff_le,
      UInt32.le_iff_toNat_le] at h
    have hnat : c.toNat = c.val.toNat := rfl
    simp at h
    omega
  simp [isPlain, hquote, hbackslash, hcontrol]

theorem isPlain_of_isBase64 {c : Char} (h : isBase64 c = true) : isPlain c = true := by
  simp only [isBase64, Bool.or_eq_true, decide_eq_true_eq] at h
  obtain ((h | h) | h) | h := h
  · exact isPlain_of_isAlphanum h
  · rw [h]; rfl
  · rw [h]; rfl
  · rw [h]; rfl

theorem isPlain_of_isInstant {c : Char} (h : isInstant c = true) : isPlain c = true := by
  simp only [isInstant, Bool.or_eq_true, decide_eq_true_eq] at h
  obtain (((h | h) | h) | h) | h := h
  · exact isPlain_of_isAlphanum (by simp [Char.isAlphanum, h])
  · rw [h]; rfl
  · rw [h]; rfl
  · rw [h]; rfl
  · rw [h]; rfl

/-- The names of a rotation can stand in the file, and in its name, as they
are. -/
structure Plain (tenantId roleName dbName host : String) : Prop where
  text : ∀ name ∈ [tenantId, roleName, dbName, host], ∀ c ∈ name.toList, isPlain c = true
  file : ∀ c ∈ (credsFile tenantId roleName).toList, c ≠ '/'

/-- Plain names, checked character by character. -/
theorem Plain.of_all {tenantId roleName dbName host : String}
    (htext : ([tenantId, roleName, dbName, host].all fun name => name.toList.all isPlain) = true)
    (hfile : ((credsFile tenantId roleName).toList.all (· ≠ '/')) = true) :
    Plain tenantId roleName dbName host where
  text := fun name hname => List.all_eq_true.mp (List.all_eq_true.mp htext name hname)
  file := fun c hc => of_decide_eq_true (List.all_eq_true.mp hfile c hc)

def Rotation.Plain (call : Rotation) : Prop :=
  Tenant.Plain call.tenantId call.roleName call.dbName call.host

theorem isPlain_of_newPass {call : Rotation} {newPass : List Char} (h : call.newPass = some newPass) :
    ∀ c ∈ newPass, isPlain c = true := by
  intro c hc
  cases hrandom : call.outcome.random with
  | none => simp [Rotation.newPass, hrandom] at h
  | some random =>
      by_cases hempty : Rotation.password random = []
      · simp [Rotation.newPass, hrandom, hempty] at h
      · simp only [Rotation.newPass, hrandom, if_neg hempty, Option.some.injEq] at h
        rw [← h] at hc
        have hmem := List.mem_filter.mp (List.mem_of_mem_take hc)
        exact isPlain_of_isBase64 (random.2 c hmem.1)

theorem isPlain_entries {call : Rotation} (hcall : call.Plain) {newPass : List Char}
    (hpass : call.newPass = some newPass) :
    ∀ entry ∈ call.entries newPass,
      (∀ c ∈ entry.1.toList, isPlain c = true) ∧ ∀ c ∈ entry.2, isPlain c = true := by
  have hnames : (["tenant_id", "role_name", "database", "username", "password", "rotated_at",
      "host"].all fun name => name.toList.all isPlain) = true := by decide
  intro entry hentry
  have hname : entry.1 ∈ (call.entries newPass).map Prod.fst := List.mem_map_of_mem hentry
  refine ⟨List.all_eq_true.mp (List.all_eq_true.mp hnames _ hname), ?_⟩
  simp only [Rotation.entries, List.mem_cons, List.not_mem_nil, or_false] at hentry
  obtain h | h | h | h | h | h | h := hentry <;> rw [h]
  · exact hcall.text call.tenantId (by simp)
  · exact hcall.text call.roleName (by simp)
  · exact hcall.text call.dbName (by simp)
  · exact hcall.text call.roleName (by simp)
  · exact isPlain_of_newPass hpass
  · exact fun c hc => isPlain_of_isInstant (call.outcome.rotatedAt.2 c hc)
  · exact hcall.text call.host (by simp)

/-! ## Runs -/

/-- The directory after some calls of `rotate_tenant`. -/
def filesAfter (files : Directory) (run : List Rotation) : Directory :=
  Runs.after (fun files call => (rotateTenant files call).2) files run

namespace Rotation

/-- The call leaves a file behind. -/
def writes (call : Rotation) : Bool := call.newPass.isSome && call.outcome.written

/-- The call has changed the password of the role. -/
def rotated (call : Rotation) : Bool := call.newPass.isSome && call.outcome.altered

/-- Once it has a password, nothing fails. -/
def Succeeds (call : Rotation) : Prop :=
  call.newPass.isSome = true → call.outcome.altered = true ∧ call.outcome.written = true

/-- Whose credentials the call rotates: tenant, role, host and database. -/
def target (call : Rotation) : String × String × String × String :=
  (call.tenantId, call.roleName, call.host, call.dbName)

end Rotation

def TenantDatabaseConfig.target (binding : TenantDatabaseConfig) :
    String × String × String × String :=
  (binding.orgId, binding.roleName, binding.host, binding.dbName)

/-- The last time the credentials of a binding were rotated. -/
def lastRotation (binding : TenantDatabaseConfig) (run : List Rotation) : Option Rotation :=
  LastWrite.last (fun call => call.rotated && call.target = binding.target) run

/-- A call changes no file but its own. -/
theorem rotateTenant_of_ne (files : Directory) (call : Rotation) {name : String}
    (h : call.writes = true → call.file ≠ name) : (rotateTenant files call).2 name = files name := by
  rw [rotateTenant]
  cases hpass : call.newPass with
  | none => rfl
  | some newPass =>
      cases hwritten : call.outcome.written with
      | false => rfl
      | true =>
          have hwrites : call.writes = true := by rw [Rotation.writes, hpass, hwritten]; rfl
          simp only [if_true]
          exact Function.update_of_ne (Ne.symm (h hwrites)) _ _

/-- A run of the rotator over a configuration: passes over it, cut off anywhere. -/
def IsRun (bindings : List TenantDatabaseConfig) (run : List Rotation) : Prop :=
  ∀ call ∈ run, ∃ binding ∈ bindings, binding.credentialMode = .rotated ∧
    ∃ outcome, call = .ofBinding binding outcome

theorem filesAfter_append (files : Directory) (run run' : List Rotation) :
    filesAfter files (run ++ run') = filesAfter (filesAfter files run) run' :=
  Runs.after_append ..

theorem isRun_nil (bindings : List TenantDatabaseConfig) : IsRun bindings [] :=
  fun _ h => absurd h List.not_mem_nil

theorem isRun_append {bindings : List TenantDatabaseConfig} {run run' : List Rotation}
    (h : IsRun bindings run) (h' : IsRun bindings run') : IsRun bindings (run ++ run') := by
  intro call hcall
  cases List.mem_append.mp hcall with
  | inl hcall => exact h call hcall
  | inr hcall => exact h' call hcall

/-- A pass is a run. -/
theorem rotationPass_isRun {bindings : List TenantDatabaseConfig} (entries : List Entry)
    (hentries : ∀ entry ∈ entries, entry.binding ∈ bindings) (files : Directory) :
    ∃ run, IsRun bindings run ∧ (rotationPass files entries).2 = filesAfter files run := by
  induction entries generalizing files with
  | nil => exact ⟨[], isRun_nil bindings, rfl⟩
  | cons entry entries ih =>
      have hrest := ih fun e he => hentries e (List.mem_cons_of_mem _ he)
      by_cases hdue : entry.isDue = true
      · have hmode : entry.binding.credentialMode = .rotated := by
          simp only [Entry.isDue, Bool.and_eq_true, decide_eq_true_eq] at hdue
          exact hdue.1.1.1.1
        have hone : IsRun bindings [.ofBinding entry.binding entry.outcome] := by
          intro call hcall
          exact ⟨entry.binding, hentries entry List.mem_cons_self, hmode, entry.outcome,
            List.mem_singleton.mp hcall⟩
        rw [rotationPass, if_pos hdue]
        cases hcall : rotateTenant files (.ofBinding entry.binding entry.outcome) with
        | mk succeeded files' =>
            have hfiles : filesAfter files [.ofBinding entry.binding entry.outcome] = files' :=
              congrArg Prod.snd hcall
            cases succeeded with
            | false => exact ⟨_, hone, hfiles.symm⟩
            | true =>
                obtain ⟨run, hrun, hpass⟩ := hrest files'
                refine ⟨_ ++ run, isRun_append hone hrun, ?_⟩
                rw [filesAfter_append, hfiles]
                exact hpass
      · rw [rotationPass, if_neg hdue]
        exact hrest files

/-- Any sequence of passes of the script is a run of rotations. -/
theorem rotationPasses_isRun {bindings : List TenantDatabaseConfig} (passes : List (List Entry))
    (hpasses : ∀ entries ∈ passes, ∀ entry ∈ entries, entry.binding ∈ bindings)
    (files : Directory) :
    ∃ run, IsRun bindings run ∧
      passes.foldl (fun files entries => (rotationPass files entries).2) files =
        filesAfter files run := by
  induction passes generalizing files with
  | nil => exact ⟨[], isRun_nil bindings, rfl⟩
  | cons entries passes ih =>
      obtain ⟨first, hfirst, hpass⟩ :=
        rotationPass_isRun entries (hpasses entries List.mem_cons_self) files
      obtain ⟨run, hrun, hrest⟩ := ih (fun e he => hpasses e (List.mem_cons_of_mem _ he))
        (rotationPass files entries).2
      refine ⟨first ++ run, isRun_append hfirst hrun, ?_⟩
      rw [List.foldl_cons, hrest, hpass, filesAfter_append]

/-- Two rotated bindings with one file have one target. -/
def FileNamesSeparate (bindings : List TenantDatabaseConfig) : Prop :=
  ∀ binding ∈ bindings, binding.credentialMode = .rotated →
    ∀ binding' ∈ bindings, binding'.credentialMode = .rotated →
      credsFile binding.orgId binding.roleName = credsFile binding'.orgId binding'.roleName →
        binding.target = binding'.target

/-- The directory is a store of files, each under its name. -/
theorem filesAfter_eq_store (run : List Rotation) :
    filesAfter (fun _ => none) run = LastWrite.store Rotation.file
      (fun call => String.ofList (call.text (call.newPass.getD []))) (run.filter Rotation.writes) := by
  induction run using List.reverseRecOn with
  | nil => rfl
  | append_singleton run call ih =>
      rw [filesAfter, Runs.after_concat, ← filesAfter, List.filter_append, rotateTenant]
      cases hpass : call.newPass with
      | none =>
          have hwrites : call.writes = false := by rw [Rotation.writes, hpass]; rfl
          rw [List.filter_singleton, hwrites, ih]
          simp
      | some newPass =>
          cases hwritten : call.outcome.written with
          | false =>
              have hwrites : call.writes = false := by simp [Rotation.writes, hwritten]
              rw [List.filter_singleton, hwrites, ih]
              simp
          | true =>
              have hwrites : call.writes = true := by simp [Rotation.writes, hpass, hwritten]
              rw [List.filter_singleton, hwrites, ih]
              simp only [if_true, cond_true, LastWrite.store_concat, hpass, Option.getD_some]

/-- A rotation in which everything goes well. -/
def smooth : Outcome where
  random := some
    ⟨"3q2+7wAAq83vEjRWeJCrze8SNFZ4kKvN7xI0VniQq80=".toList, List.all_eq_true.mp (by decide)⟩
  altered := true
  rotatedAt := ⟨"2026-01-01T00:00:00Z".toList, List.all_eq_true.mp (by decide)⟩
  written := true

instance (bindings : List TenantDatabaseConfig) : Decidable (FileNamesSeparate bindings) :=
  inferInstanceAs (Decidable (∀ _ ∈ _, _ → ∀ _ ∈ _, _))

/-- Where no file is shared, a binding's file holds its last rotation. -/
theorem filesAfter_of_separate {bindings : List TenantDatabaseConfig}
    (hseparate : FileNamesSeparate bindings) {run : List Rotation} (hrun : IsRun bindings run)
    (hsucceeds : ∀ call ∈ run, call.Succeeds) {binding : TenantDatabaseConfig}
    (hbinding : binding ∈ bindings) (hrotated : binding.credentialMode = .rotated) :
    filesAfter (fun _ => none) run (credsFile binding.orgId binding.roleName) =
      (lastRotation binding run).map fun call =>
        String.ofList (call.text (call.newPass.getD [])) := by
  let S : Set Rotation := fun call => IsRun bindings [call]
  have hS : ∀ call, IsRun bindings [call] → ∃ binding ∈ bindings,
      binding.credentialMode = .rotated ∧ ∃ outcome, call = .ofBinding binding outcome :=
    fun call h => h call (List.mem_singleton_self call)
  have hcells : LastWrite.Separate Rotation.file Rotation.target S := by
    intro call hcall call' hcall' hfile
    obtain ⟨b, hb, hmode, outcome, hcall⟩ := hS call hcall
    obtain ⟨b', hb', hmode', outcome', hcall'⟩ := hS call' hcall'
    subst hcall hcall'
    exact hseparate b hb hmode b' hb' hmode' hfile
  have howner : ∀ call ∈ S, ∀ call' ∈ S, call.target = call'.target → call.file = call'.file := by
    intro call _ call' _ htarget
    simp only [Rotation.target, Prod.mk.injEq] at htarget
    rw [Rotation.file, Rotation.file, htarget.1, htarget.2.1]
  have hwrites : ∀ call ∈ run.filter Rotation.writes, call ∈ S := by
    intro call hcall other hother
    rw [List.mem_singleton.mp hother]
    exact hrun call (List.mem_filter.mp hcall).1
  have hown : Rotation.ofBinding binding smooth ∈ S := by
    intro call hcall
    exact ⟨binding, hbinding, hrotated, smooth, List.mem_singleton.mp hcall⟩
  have hstore := LastWrite.store_of_separate hcells howner
    (fun call => String.ofList (call.text (call.newPass.getD []))) hwrites hown
  have hlast : LastWrite.last (fun call => call.target = (Rotation.ofBinding binding smooth).target)
      (run.filter Rotation.writes) = lastRotation binding run := by
    rw [LastWrite.last_filter, lastRotation]
    refine LastWrite.last_congr fun call hcall => ?_
    have hsame : call.writes = call.rotated := by
      rw [Rotation.writes, Rotation.rotated]
      cases hpass : call.newPass.isSome with
      | false => rfl
      | true => rw [(hsucceeds call hcall hpass).1, (hsucceeds call hcall hpass).2]
    rw [hsame]
    rfl
  rw [filesAfter_eq_store, ← hlast]
  exact hstore

end DbGateway.Tenant
