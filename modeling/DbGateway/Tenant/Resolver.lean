import DbGateway.Multimap
import DbGateway.Policy.Model

/-!
# DbGateway.Tenant.Resolver

`services/tenant_database_resolver.py`: the server-owned binding of a logical
database, and the resolver that picks one for a principal.

The bindings are grouped by organisation and identifier, and the organisation
looked up is always the principal's own.  So resolution is a function of the
bindings of that organisation alone (`resolve_own`): it can neither return nor
reveal a binding of another.
-/

namespace DbGateway.Tenant

/-! ## Bindings -/

/-- `credential_mode` -/
inductive CredentialMode where
  | static
  | rotated
deriving DecidableEq

/-- `TenantDatabaseConfig` -/
structure TenantDatabaseConfig where
  orgId : String
  databaseId : String
  credentialMode : CredentialMode := .static
  connectionString : String := ""
  replicaConnectionString : Option String := none
  useReadReplica : Bool := false
  roleName : String := ""
  credsDir : String := "/creds"
  host : String := ""
  port : Int := 5432
  dbName : String := ""
  dataSchema : String := "public"
  metadataSchema : String := "meta"
  poolSize : Option Int := none
  maxOverflow : Option Int := none
  poolTimeout : Option Rat := none
  poolRecycle : Option Int := none
deriving DecidableEq

/-! ## Identifiers -/

/-- `[A-Za-z0-9_.-]` -/
def isIdentifierChar (c : Char) : Bool := c.isAlphanum || c = '_' || c = '.' || c = '-'

/-- `^[A-Za-z0-9][A-Za-z0-9_.-]{0,127}$` -/
def databaseIdPattern : List Char → Bool
  | [] => false
  | c :: cs => c.isAlphanum && cs.length ≤ 127 && cs.all isIdentifierChar

/-- `is_valid_database_id` -/
def isValidDatabaseId (databaseId : String) : Bool := databaseIdPattern (strip databaseId).toList

/-! ## The resolver -/

/-- `TenantDatabaseResolver`: its binding map. -/
structure TenantDatabaseResolver where
  bindings : Multimap (String × String) TenantDatabaseConfig

namespace TenantDatabaseResolver

/-- `TenantDatabaseResolver(bindings)` -/
def ofBindings (bindings : List TenantDatabaseConfig) : TenantDatabaseResolver :=
  ⟨Multimap.ofList (fun binding => (binding.orgId, binding.databaseId)) bindings⟩

/-- `resolve`; a `TenantDatabaseResolutionError` is its message.  The principal
is `none` when it is not a `Principal`. -/
def resolve (self : TenantDatabaseResolver) (principal : Option Principal)
    (databaseId : Option String) : Except String TenantDatabaseConfig :=
  match principal with
  | none => .error "Authenticated organisation is required."
  | some principal =>
      if strip principal.orgId = "" then .error "Authenticated organisation is required."
      -- `database_id or ""`
      else if !isValidDatabaseId (databaseId.getD "") then
        .error "A valid logical database_id is required."
      else
        match self.bindings.get (principal.orgId, strip (databaseId.getD "")) with
        | [] => .error "Database is not available for this organisation."
        | [binding] => .ok binding
        | _ => .error "Database configuration is ambiguous."

/-! ## What resolution depends on -/

/-- The bindings of an organisation, in order. -/
def own (org : String) (bindings : List TenantDatabaseConfig) : List TenantDatabaseConfig :=
  bindings.filter fun binding => binding.orgId = org

/-- The candidates for an identifier are among the organisation's own. -/
theorem get_ofBindings (bindings : List TenantDatabaseConfig) (org databaseId : String) :
    (ofBindings bindings).bindings.get (org, databaseId) =
      (own org bindings).filter fun binding => binding.databaseId = databaseId := by
  rw [ofBindings, Multimap.get_ofList, own, List.filter_filter]
  refine List.filter_congr fun binding _ => ?_
  simp only [Prod.mk.injEq, Bool.decide_and, Bool.and_comm]

/-- Resolution sees the bindings of the principal's organisation only. -/
theorem resolve_own (bindings : List TenantDatabaseConfig) (principal : Principal)
    (databaseId : Option String) :
    (ofBindings bindings).resolve (some principal) databaseId =
      (ofBindings (own principal.orgId bindings)).resolve (some principal) databaseId := by
  have hown : own principal.orgId (own principal.orgId bindings) =
      own principal.orgId bindings := by
    rw [own, own, List.filter_filter]
    simp
  simp only [resolve, get_ofBindings, hown]

/-- What a successful resolution has established. -/
theorem resolve_spec {bindings : List TenantDatabaseConfig} {principal : Principal}
    {databaseId : Option String} {binding : TenantDatabaseConfig}
    (h : (ofBindings bindings).resolve (some principal) databaseId = .ok binding) :
    strip principal.orgId ≠ "" ∧ isValidDatabaseId (databaseId.getD "") = true ∧
      (own principal.orgId bindings).filter
        (fun b => b.databaseId = strip (databaseId.getD "")) = [binding] := by
  simp only [resolve, get_ofBindings] at h
  by_cases horg : strip principal.orgId = ""
  · rw [if_pos horg] at h
    contradiction
  · rw [if_neg horg] at h
    cases hvalid : isValidDatabaseId (databaseId.getD "") with
    | false => simp [hvalid] at h
    | true =>
        simp only [hvalid, Bool.not_true, Bool.false_eq_true, if_false] at h
        cases hfound : (own principal.orgId bindings).filter
            (fun b => b.databaseId = strip (databaseId.getD "")) with
        | nil => simp [hfound] at h
        | cons first rest =>
            cases rest with
            | nil =>
                simp only [hfound] at h
                exact ⟨horg, rfl, by rw [Except.ok.inj h]⟩
            | cons second rest => simp [hfound] at h

/-- The binding returned is the principal's own, for the identifier asked for. -/
theorem resolve_ids {bindings : List TenantDatabaseConfig} {principal : Principal}
    {databaseId : Option String} {binding : TenantDatabaseConfig}
    (h : (ofBindings bindings).resolve (some principal) databaseId = .ok binding) :
    binding.orgId = principal.orgId ∧ binding.databaseId = strip (databaseId.getD "") := by
  have hmem : binding ∈ (own principal.orgId bindings).filter
      (fun b => b.databaseId = strip (databaseId.getD "")) := by
    rw [(resolve_spec h).2.2]
    exact List.mem_singleton_self binding
  have hmem := List.mem_filter.mp hmem
  have horg := (List.mem_filter.mp hmem.1).2
  exact ⟨of_decide_eq_true horg, of_decide_eq_true hmem.2⟩

/-- **Tenant noninterference**: two configurations with the same bindings, in
order, for the principal's organisation resolve every request alike; what is
returned belongs to that organisation and has the stripped identifier asked
for; and nothing is returned where the organisation has several bindings for it. -/
theorem resolve_noninterference (org : String) (bindings bindings' : List TenantDatabaseConfig)
    (hsame : own org bindings = own org bindings') (principal : Principal)
    (hprincipal : principal.orgId = org) (databaseId : Option String) :
    (ofBindings bindings).resolve (some principal) databaseId =
        (ofBindings bindings').resolve (some principal) databaseId ∧
      (∀ binding, (ofBindings bindings).resolve (some principal) databaseId = .ok binding →
        binding.orgId = org ∧
          ∃ requested, databaseId = some requested ∧ binding.databaseId = strip requested) ∧
      (∀ requested, databaseId = some requested →
        2 ≤ (bindings.filter fun b => b.orgId = org ∧ b.databaseId = strip requested).length →
        ∀ binding, (ofBindings bindings).resolve (some principal) databaseId ≠ .ok binding) := by
  subst hprincipal
  refine ⟨?_, ?_, ?_⟩
  · rw [resolve_own bindings, resolve_own bindings', hsame]
  · intro binding h
    obtain ⟨horg, hid⟩ := resolve_ids h
    cases databaseId with
    | none =>
        have hvalid := (resolve_spec h).2.1
        exact absurd hvalid (by decide)
    | some requested => exact ⟨horg, requested, rfl, hid⟩
  · intro requested hrequested hmany binding h
    subst hrequested
    have hone := congrArg List.length (resolve_spec h).2.2
    rw [own, List.filter_filter] at hone
    simp only [Option.getD_some, List.length_singleton, Bool.and_comm] at hone
    simp only [Bool.decide_and] at hmany
    omega

/-- An administrator of `org-a`. -/
def orgAdmin : Principal := ⟨"user-1", "user@org-a.com", "org-a", {"admin"}, []⟩

/-- Two databases with one identifier. -/
def financeOfA : TenantDatabaseConfig := { orgId := "org-a", databaseId := "finance" }

def financeOfB : TenantDatabaseConfig := { orgId := "org-b", databaseId := "finance" }

/-- Each organisation's own database is found with and without the other's, and without
one of its own it is not told apart from one that does not exist. -/
theorem resolve_noninterference_finance :
    (ofBindings [financeOfB, financeOfA]).resolve (some orgAdmin) (some " finance ") =
        (ofBindings [financeOfA]).resolve (some orgAdmin) (some " finance ") ∧
      (ofBindings [financeOfA]).resolve (some orgAdmin) (some " finance ") = .ok financeOfA ∧
      (∀ binding, (ofBindings [financeOfB, financeOfA]).resolve (some orgAdmin)
        (some " finance ") = .ok binding → binding.orgId = "org-a") ∧
      (ofBindings [financeOfB]).resolve (some orgAdmin) (some " finance ") =
        (ofBindings []).resolve (some orgAdmin) (some " finance ") := by
  have hfound := resolve_noninterference "org-a" [financeOfB, financeOfA] [financeOfA]
    (by decide) orgAdmin rfl (some " finance ")
  have hhidden := resolve_noninterference "org-a" [financeOfB] [] (by decide) orgAdmin rfl
    (some " finance ")
  exact ⟨hfound.1, by decide, fun binding h => (hfound.2.1 binding h).1, hhidden.1⟩

end TenantDatabaseResolver

end DbGateway.Tenant
