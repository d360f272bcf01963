import DbGateway.Policy.Sidecar
import DbGateway.Fallible

/-!
# DbGateway.Policy.Tenancy

The policies of one organisation among all others.

Both engines keep, for each question, only policies that match the principal, and a policy
bound to another organisation matches none of this one's principals.  So both answer from
the policies that concern the organisation alone (`own`), about queries and about what they
display.
-/

namespace DbGateway

open AccessControl

section

variable {α : Type} {keep choose : α → Bool} {xs ys : List α}

/-- Lists that agree on what is kept agree on what is chosen of it. -/
theorem filter_congr_of_imp (h : xs.filter keep = ys.filter keep)
    (himp : ∀ x, choose x = true → keep x = true) : xs.filter choose = ys.filter choose := by
  have hchosen : ∀ zs : List α, zs.filter choose = (zs.filter keep).filter choose := by
    intro zs
    rw [List.filter_filter]
    refine List.filter_congr fun x _ => ?_
    cases hchoose : choose x with
    | false => rfl
    | true => rw [himp x hchoose, Bool.and_self]
  rw [hchosen, h, ← hchosen]

theorem any_congr_of_imp (h : xs.filter keep = ys.filter keep)
    (himp : ∀ x, choose x = true → keep x = true) : xs.any choose = ys.any choose := by
  have hany : ∀ zs : List α, zs.any choose = true ↔ ∃ x, x ∈ zs.filter choose := by
    intro zs
    simp only [List.any_eq_true, List.mem_filter]
  rw [Bool.eq_iff_iff, hany, hany, filter_congr_of_imp h himp]

end

/-! ## The in-process engine -/

namespace PolicyEvaluator

/-- The policies that can match a principal of the organisation. -/
def own (orgId : String) (policies : List Policy) : List Policy :=
  policies.filter fun policy => Policy.boundTo policy.orgId orgId

variable [Python] {self self' : PolicyEvaluator} {principal : Principal}

theorem boundTo_of_matches {policy : Policy} {databaseId table : String}
    (h : policy.matches_ principal databaseId table = true) :
    Policy.boundTo policy.orgId principal.orgId = true := by
  simp only [Policy.matches_, Bool.and_eq_true] at h
  exact h.1.1.1.1.1

theorem applicable_congr
    (h : own principal.orgId self.policies = own principal.orgId self'.policies)
    (databaseId : String) (tables : List String) :
    self.applicable principal databaseId tables = self'.applicable principal databaseId tables := by
  have howned : ∀ policy : Policy,
      (tables.any fun table => policy.matches_ principal databaseId table) = true →
        Policy.boundTo policy.orgId principal.orgId = true := by
    intro policy hany
    obtain ⟨table, -, hmatches⟩ := List.any_eq_true.mp hany
    exact boundTo_of_matches hmatches
  exact filter_congr_of_imp h howned

theorem displayed_congr
    (h : own principal.orgId self.policies = own principal.orgId self'.policies)
    (databaseId : String) :
    self.displayed principal databaseId = self'.displayed principal databaseId :=
  filter_congr_of_imp h fun _ hmatches => boundTo_of_matches hmatches

/-- A decision is made of the organisation's own policies. -/
theorem evaluate_congr (henabled : self.enabled = self'.enabled)
    (h : own principal.orgId self.policies = own principal.orgId self'.policies)
    (databaseId : String) (tables : List String) (refs : Finset String) :
    self.evaluate principal databaseId tables refs =
      self'.evaluate principal databaseId tables refs := by
  unfold evaluate tablePolicies
  rw [henabled, applicable_congr h]

/-- What is displayed to a principal is made of the organisation's own policies too. -/
theorem effectiveAccess_congr (henabled : self.enabled = self'.enabled)
    (h : own principal.orgId self.policies = own principal.orgId self'.policies)
    (databaseId : String) :
    self.effectiveAccess principal databaseId = self'.effectiveAccess principal databaseId := by
  unfold effectiveAccess allowByTable
  rw [henabled, displayed_congr h]

end PolicyEvaluator

/-! ## The Rego engine -/

namespace Rego

/-- The documents that can match a principal of the organisation. -/
def own (orgId : String) (policies : Json) : List Json :=
  (items policies).filter fun policy => boundRule policy "org_id" orgId true

variable [Opa] {policies policies' : Json}

theorem bound_of_matchesForAccess {policy : Json} {input : Input}
    (h : matchesPolicyForAccess policy input = true) :
    boundRule policy "org_id" input.principal.orgId true = true := by
  rw [matchesPolicyForAccess, ← Bool.true_and (matchesPolicyPartialAccess policy input),
    boundRule_and, Bool.and_eq_true] at h
  exact h.1

theorem bound_of_matches {policy : Json} {input : Input} (h : matchesPolicy policy input = true) :
    boundRule policy "org_id" input.principal.orgId true = true := by
  rw [matchesPolicy_eq, Bool.and_eq_true] at h
  let access : Input := { input with tables := [], referencedColumns := [] }
  have haccess : matchesPolicyForAccess policy access = true := h.1
  exact bound_of_matchesForAccess haccess

theorem evaluate_congr (input : Input)
    (h : own input.principal.orgId policies = own input.principal.orgId policies') :
    evaluate policies input = evaluate policies' input := by
  have hallows : evaluateAllows policies input = evaluateAllows policies' input :=
    filter_congr_of_imp h fun p hp => bound_of_matches (Bool.and_eq_true _ _ |>.mp hp).1
  have hdenies : evaluateDenies policies input = evaluateDenies policies' input :=
    filter_congr_of_imp h fun p hp => bound_of_matches (Bool.and_eq_true _ _ |>.mp hp).1
  unfold evaluate
  rw [hallows, hdenies]

theorem hasDenyAll_congr {principal : InputPrincipal}
    (h : own principal.orgId policies = own principal.orgId policies') (databaseId : String) :
    hasDenyAll policies principal databaseId = hasDenyAll policies' principal databaseId := by
  refine any_congr_of_imp h fun p hp => ?_
  have hmatches : matchesPolicy p { principal, databaseId } = true :=
    (Bool.and_eq_true _ _ |>.mp hp).2
  exact bound_of_matches hmatches

theorem effectiveAccess_congr (input : Input)
    (h : own input.principal.orgId policies = own input.principal.orgId policies') :
    effectiveAccess policies input = effectiveAccess policies' input := by
  have hallows : accessAllows policies input = accessAllows policies' input :=
    filter_congr_of_imp h fun p hp => bound_of_matchesForAccess (Bool.and_eq_true _ _ |>.mp hp).1
  have hdenied : deniedTables policies input = deniedTables policies' input := by
    refine congrArg (List.filterMap (·.get? "table")) (filter_congr_of_imp h fun p hp => ?_)
    rw [Bool.and_eq_true, Bool.and_eq_true] at hp
    exact bound_of_matchesForAccess hp.1.1
  unfold effectiveAccess
  rw [hasDenyAll_congr h, hallows, hdenied]

end Rego

namespace Sidecar

variable [Rego.Opa] [Python] {policies policies' : Json} {principal : Principal}

theorem evaluate_client_congr (encoder : Encoder)
    (h : Rego.own principal.orgId policies = Rego.own principal.orgId policies')
    (databaseId : String) (tables : List String) (refs : Finset String) :
    (client encoder policies).evaluate principal databaseId tables refs =
      (client encoder policies').evaluate principal databaseId tables refs := by
  have hrule := Rego.evaluate_congr (inputDoc principal databaseId tables refs) h
  by_cases htables : tables = []
  · rw [htables]
    rfl
  · rw [evaluate_client encoder policies principal databaseId htables refs,
      evaluate_client encoder policies' principal databaseId htables refs, hrule]

theorem effectiveAccess_client_congr (encoder : Encoder)
    (h : Rego.own principal.orgId policies = Rego.own principal.orgId policies')
    (databaseId : String) :
    (client encoder policies).effectiveAccess principal databaseId =
      (client encoder policies').effectiveAccess principal databaseId := by
  have hrule := Rego.effectiveAccess_congr (accessDoc principal databaseId) h
  rw [effectiveAccess_client, effectiveAccess_client, hrule]

end Sidecar

/-! ## Documents of other organisations -/

/-- The document is bound to an organisation, and not to this one. -/
def BoundElsewhere (orgId : String) (doc : Json) : Prop :=
  ∃ other, doc.get? "org_id" = some (.str other) ∧ other ≠ "" ∧ other ≠ orgId

theorem own_of_elsewhere {orgId : String} {docs others enlarged : List Json}
    (h : Inserted docs others enlarged) (hothers : ∀ doc ∈ others, BoundElsewhere orgId doc) :
    Rego.own orgId (.arr enlarged) = Rego.own orgId (.arr docs) := by
  refine h.filter_eq fun doc hdoc => ?_
  obtain ⟨other, horg, -, hother⟩ := hothers doc hdoc
  have hnot : Rego.fieldIs doc "org_id" orgId = false := by
    rw [Bool.eq_false_iff, ne_eq, Rego.fieldIs_iff, horg]
    exact fun hsame => hother (Json.str.inj (Option.some.inj hsame))
  rw [Rego.boundRule, hnot, Rego.hasField, horg]
  simp

/-- What is loaded from inserted documents is inserted. -/
theorem inserted_of_forall₂ {α β : Type} {R : α → β → Prop} {xs ys zs : List α} {zs' : List β}
    (h : Inserted xs ys zs) (hzs : List.Forall₂ R zs zs') :
    ∃ xs' ys', Inserted xs' ys' zs' ∧ List.Forall₂ R xs xs' ∧ List.Forall₂ R ys ys' := by
  induction h generalizing zs' with
  | nil =>
      cases hzs
      exact ⟨[], [], .nil, .nil, .nil⟩
  | keep x _ ih =>
      cases hzs with
      | cons hx htail =>
          obtain ⟨xs', ys', hinserted, hxs, hys⟩ := ih htail
          exact ⟨_, ys', .keep _ hinserted, .cons hx hxs, hys⟩
  | insert y _ ih =>
      cases hzs with
      | cons hy htail =>
          obtain ⟨xs', ys', hinserted, hxs, hys⟩ := ih htail
          exact ⟨xs', _, .insert _ hinserted, hxs, .cons hy hys⟩

variable [Python]

theorem boundTo_of_elsewhere {orgId : String} {doc : Json} {policy : Policy}
    (hdoc : BoundElsewhere orgId doc) (hload : Policy.fromDict doc = .ok policy) :
    Policy.boundTo policy.orgId orgId = false := by
  obtain ⟨other, horg, hne, hother⟩ := hdoc
  have hbound : policy.orgId = .str other := by
    rw [(Policy.loadedFrom_of_fromDict hload).orgId, getD_of_get? horg,
      Json.or_of_truthy _ (Json.truthy_str_iff.mpr hne)]
  rw [Bool.eq_false_iff, ne_eq, Policy.boundTo_iff, hbound]
  rintro (hnull | hsame)
  · contradiction
  · exact hother (Json.str.inj hsame)

theorem own_loaded_of_elsewhere {orgId : String} {docs others enlarged : List Json}
    {policies policies' : List Policy} (h : Inserted docs others enlarged)
    (hothers : ∀ doc ∈ others, BoundElsewhere orgId doc)
    (hload : docs.mapM Policy.fromDict = .ok policies)
    (hload' : enlarged.mapM Policy.fromDict = .ok policies') :
    PolicyEvaluator.own orgId policies' = PolicyEvaluator.own orgId policies := by
  obtain ⟨policies₁, added, hinserted, hpolicies, hadded⟩ :=
    inserted_of_forall₂ h (Fallible.mapM_eq_ok_iff.mp hload')
  have hsame : policies = policies₁ := by
    have hloaded := Fallible.mapM_eq_ok_iff.mpr hpolicies
    rw [hload] at hloaded
    exact Except.ok.inj hloaded
  subst hsame
  have hbound : ∀ policy ∈ added, Policy.boundTo policy.orgId orgId = false := by
    have hfrom := (List.forall₂_and_left _ _).mpr ⟨hothers, hadded⟩
    clear h hothers hadded hinserted
    induction hfrom with
    | nil => exact fun policy hpolicy => absurd hpolicy List.not_mem_nil
    | cons hfirst _ ih =>
        exact List.forall_mem_cons.mpr ⟨boundTo_of_elsewhere hfirst.1 hfirst.2, ih⟩
  exact hinserted.filter_eq hbound

/-- **Policies of others**: documents bound to other organisations, put anywhere among the
rest, change no decision about a principal and nothing that is displayed to it.  The
in-process engine answers where both collections load, the sidecar whatever they hold. -/
theorem policies_isolated [Rego.Opa] {docs others enlarged : List Json}
    (h : Inserted docs others enlarged) (principal : Principal)
    (hothers : ∀ doc ∈ others, BoundElsewhere principal.orgId doc) (encoder : Encoder)
    (databaseId : String) :
    (∀ policies policies', docs.mapM Policy.fromDict = .ok policies →
      enlarged.mapM Policy.fromDict = .ok policies' →
      (∀ tables refs, (PolicyEvaluator.ofPolicies policies').evaluate principal databaseId tables
          refs = (PolicyEvaluator.ofPolicies policies).evaluate principal databaseId tables refs) ∧
        (PolicyEvaluator.ofPolicies policies').effectiveAccess principal databaseId =
          (PolicyEvaluator.ofPolicies policies).effectiveAccess principal databaseId) ∧
      (∀ tables refs, (Sidecar.client encoder (.arr enlarged)).evaluate principal databaseId tables
        refs = (Sidecar.client encoder (.arr docs)).evaluate principal databaseId tables refs) ∧
      (Sidecar.client encoder (.arr enlarged)).effectiveAccess principal databaseId =
        (Sidecar.client encoder (.arr docs)).effectiveAccess principal databaseId := by
  have hdocs := own_of_elsewhere h hothers
  refine ⟨fun policies policies' hload hload' => ?_,
    fun tables refs => Sidecar.evaluate_client_congr encoder hdocs databaseId tables refs,
    Sidecar.effectiveAccess_client_congr encoder hdocs databaseId⟩
  have hpolicies := own_loaded_of_elsewhere h hothers hload hload'
  have henabled : (PolicyEvaluator.ofPolicies policies').enabled =
      (PolicyEvaluator.ofPolicies policies).enabled := rfl
  exact ⟨fun tables refs =>
      PolicyEvaluator.evaluate_congr henabled hpolicies databaseId tables refs,
    PolicyEvaluator.effectiveAccess_congr henabled hpolicies databaseId⟩

/-- Keys that are texts. -/
def textEncoder : Encoder where
  key
    | .str s => s
    | _ => ""
  key_str _ := rfl

/-- Opens `album`. -/
def openAlbum : Json := .obj [("id", .str "p"), ("table", .str "album")]

/-- Another organisation's deny of everything. -/
def denyElsewhere : Json :=
  .obj [("id", .str "q"), ("effect", .str "deny"), ("org_id", .str "tenant-b")]

omit [Python] in
/-- The deny leaves `album` as it is, for both engines. -/
theorem policies_isolated_album :
    letI := Python.ascii
    letI := Rego.Opa.ascii
    let alice : Principal := ⟨"alice", "alice@corp.com", "tenant-a", ∅, []⟩
    let album : Policy := { id := "p", table := some "album" }
    let denyAll : Policy := { id := "q", effect := "deny", orgId := .str "tenant-b" }
    (PolicyEvaluator.ofPolicies [denyAll, album]).evaluate alice "db-a" ["album"] ∅ =
        (PolicyEvaluator.ofPolicies [album]).evaluate alice "db-a" ["album"] ∅ ∧
      (Sidecar.client textEncoder (.arr [denyElsewhere, openAlbum])).evaluate alice "db-a"
          ["album"] ∅ =
        (Sidecar.client textEncoder (.arr [openAlbum])).evaluate alice "db-a" ["album"] ∅ := by
  have helsewhere : ∀ doc ∈ [denyElsewhere], BoundElsewhere "tenant-a" doc := by
    intro doc hdoc
    obtain rfl := List.mem_singleton.mp hdoc
    exact ⟨"tenant-b", rfl, by decide, by decide⟩
  have hisolated := @policies_isolated Python.ascii Rego.Opa.ascii _ _ _
    (.insert denyElsewhere (.keep openAlbum .nil))
    ⟨"alice", "alice@corp.com", "tenant-a", ∅, []⟩ helsewhere textEncoder "db-a"
  exact ⟨(hisolated.1 _ _ rfl rfl).1 ["album"] ∅, hisolated.2.1 ["album"] ∅⟩

end DbGateway
