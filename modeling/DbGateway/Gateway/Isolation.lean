import DbGateway.Gateway.Mediation

/-!
# DbGateway.Gateway.Isolation

The requests of one organisation among all others.

A quota is kept for each organisation and database, under the organisation of the
request's own principal.  A request therefore does the same in all quotas that agree on
its organisation, and leaves those of other organisations alone; so the requests of one
organisation do in any interleaving what they could do without the others
(`tenant_isolated`).
-/

namespace DbGateway.Gateway

open Cooperative

/-- The request is of the organisation. -/
def Task.ofOrg (orgId : String) (t : Task) : Bool :=
  match t.request.principal with
  | some principal => principal.orgId = orgId
  | none => false

/-- The quotas of the organisation's databases. -/
def AgreeOn (orgId : String) (quotas quotas' : Quotas) : Prop :=
  ∀ databaseId, quotas (orgId, databaseId) = quotas' (orgId, databaseId)

/-- A resolved request counts against its own principal. -/
def Stage.Own (request : Request) : Stage → Prop
  | .waiting r | .deciding r _ | .running r _ => request.principal = some r.principal
  | _ => True

def Task.Own (t : Task) : Prop := t.stage.Own t.request

/-! ## Whom a request counts against -/

theorem principal_of_resolve {o : Outcomes} {request : Request} {log log' : List Event}
    {r : Resolved} (h : authenticateAndResolve o request log = (.ok r, log')) :
    request.principal = some r.principal := by
  unfold authenticateAndResolve at h
  cases hp : request.principal with
  | none =>
      rw [hp] at h
      exact nomatch (Prod.mk.inj h).1
  | some principal =>
      simp only [hp] at h
      by_cases hsql : (request.sql = "" || strip request.sql = "") = true
      · rw [if_pos hsql] at h
        exact nomatch (Prod.mk.inj h).1
      · rw [if_neg hsql] at h
        cases hprovider : o.providerInstance with
        | error e =>
            rw [hprovider, Run.of_bind_error] at h
            exact nomatch (Prod.mk.inj h).1
        | ok _ =>
            cases hresolve : o.resolve with
            | error e =>
                rw [hprovider, hresolve, Run.of_bind_ok, Run.call_bind_error] at h
                exact nomatch (Prod.mk.inj h).1
            | ok found =>
                rw [hprovider, hresolve, Run.of_bind_ok, Run.call_bind_ok] at h
                rw [← Except.ok.inj (Prod.mk.inj h).1]

theorem own_dispatch {config : Config} {quotas : Quotas} {request : Request} {r : Resolved}
    {outcome : Except Exn Execution × List Event} (h : request.principal = some r.principal) :
    (dispatch config quotas request r outcome).2.Own := by
  obtain ⟨result, log⟩ := outcome
  cases result with
  | ok e => exact h
  | error e => trivial

theorem Task.Own.advance {config : Config} {quotas quotas' : Quotas} {t t' : Task} {wake : Wake}
    (h : t.Own) (ha : t.advance config quotas wake = some (quotas', t')) :
    t'.Own ∧ t'.request = t.request := by
  have hadvances := t.advances ha
  obtain ⟨request, stage, log⟩ := t
  replace h : stage.Own request := h
  have hdispatch : ∀ {quotas quotas' : Quotas} {r : Resolved}
      {outcome : Except Exn Execution × List Event} {t' : Task},
      request.principal = some r.principal →
        dispatch config quotas request r outcome = (quotas', t') →
        t'.Own ∧ t'.request = request := by
    intro quotas quotas' r outcome t' hprincipal ht
    have howned := @own_dispatch config quotas request r outcome hprincipal
    rw [ht] at howned
    refine ⟨howned, ?_⟩
    obtain ⟨result, log⟩ := outcome
    cases result with
    | ok e => rw [← (Prod.mk.inj ht).2]
    | error e => rw [← (Prod.mk.inj ht).2]
  cases hadvances with
  | refused o _ => exact ⟨trivial, rfl⟩
  | full o _ => exact ⟨trivial, rfl⟩
  | admitted o hresolve _ => exact ⟨principal_of_resolve hresolve, rfl⟩
  | failed o r _ _ => exact ⟨trivial, rfl⟩
  | suspended o r _ _ => exact ⟨h, rfl⟩
  | submitted o r answer _ _ ht => exact hdispatch h ht
  | timedOut o r => exact ⟨trivial, rfl⟩
  | cancelled r => exact ⟨trivial, rfl⟩
  | decided o r s answer ht => exact hdispatch h ht
  | answered o r e answer => exact ⟨trivial, rfl⟩

/-! ## What a segment depends on -/

section

variable {config : Config} {orgId : String} {quotas quotas₁ : Quotas} {r : Resolved}

theorem AgreeOn.quota_eq (h : AgreeOn orgId quotas quotas₁) (hr : r.principal.orgId = orgId) :
    getTenantQuota config quotas r.key = getTenantQuota config quotas₁ r.key := by
  rw [getTenantQuota, getTenantQuota, Resolved.key, hr, h]

/-- One quota of the organisation is set. -/
theorem AgreeOn.update (h : AgreeOn orgId quotas quotas₁) (key : String × String)
    (quota : Option TenantQuota) :
    AgreeOn orgId (Function.update quotas key quota) (Function.update quotas₁ key quota) := by
  intro databaseId
  by_cases hkey : (orgId, databaseId) = key
  · rw [hkey, Function.update_self, Function.update_self]
  · rw [Function.update_of_ne hkey, Function.update_of_ne hkey]
    exact h databaseId

/-- The quota of another organisation is set. -/
theorem AgreeOn.update_other (h : AgreeOn orgId quotas quotas₁) (hr : r.principal.orgId ≠ orgId)
    (quota : Option TenantQuota) : AgreeOn orgId (Function.update quotas r.key quota) quotas₁ := by
  intro databaseId
  rw [Function.update_of_ne]
  · exact h databaseId
  · intro hkey
    exact hr (Prod.mk.inj hkey).1.symm

theorem AgreeOn.release (h : AgreeOn orgId quotas quotas₁) (hr : r.principal.orgId = orgId)
    (held : Bool) :
    AgreeOn orgId (release config quotas r held) (release config quotas₁ r held) := by
  rw [Gateway.release, Gateway.release, h.quota_eq hr]
  exact h.update r.key _

/-- The same task, and quotas that agree on the organisation. -/
def SameAfter (orgId : String) (a b : Quotas × Task) : Prop :=
  AgreeOn orgId a.1 b.1 ∧ a.2 = b.2

theorem AgreeOn.dispatch (h : AgreeOn orgId quotas quotas₁) (hr : r.principal.orgId = orgId)
    (request : Request) (outcome : Except Exn Execution × List Event) :
    SameAfter orgId (dispatch config quotas request r outcome)
      (dispatch config quotas₁ request r outcome) := by
  obtain ⟨result, log⟩ := outcome
  cases result with
  | ok e => exact ⟨h, rfl⟩
  | error e => exact ⟨h.release hr true, rfl⟩

/-- **A request does the same** in all quotas that agree on its organisation. -/
theorem Task.advance_agree {t : Task} (hown : t.Own) (hmine : t.ofOrg orgId = true)
    (h : AgreeOn orgId quotas quotas₁) (wake : Wake) :
    Option.Rel (SameAfter orgId) (t.advance config quotas wake)
      (t.advance config quotas₁ wake) := by
  obtain ⟨request, stage, log⟩ := t
  have horg : ∀ {r : Resolved}, request.principal = some r.principal →
      r.principal.orgId = orgId := by
    intro r hprincipal
    simp only [Task.ofOrg, hprincipal] at hmine
    exact of_decide_eq_true hmine
  replace hown : stage.Own request := hown
  cases wake with
  | «begin» o =>
      cases stage with
      | start =>
          simp only [Task.advance]
          cases hresolve : authenticateAndResolve o request log with
          | mk result log' =>
              cases result with
              | error e => exact .some ⟨h, rfl⟩
              | ok r =>
                  have hr := horg (principal_of_resolve hresolve)
                  simp only [← @AgreeOn.quota_eq config _ _ _ _ h hr]
                  split
                  · exact .some ⟨h.update r.key _, rfl⟩
                  · exact .some ⟨h.update r.key _, rfl⟩
      | _ => exact .none
  | acquired o =>
      cases stage with
      | waiting r =>
          have hr := horg hown
          simp only [Task.advance, ← @AgreeOn.quota_eq config _ _ _ _ h hr]
          split
          · exact .none
          · have hacquired := h.update r.key (some
              { getTenantQuota config quotas r.key with
                available := (getTenantQuota config quotas r.key).available - 1 })
            cases submit config o request log with
            | mk result log' =>
                cases result with
                | error e => exact .some ⟨hacquired.release hr true, rfl⟩
                | ok s =>
                    cases o.evaluate with
                    | error e => exact .some (hacquired.dispatch hr request _)
                    | ok answer =>
                        cases answer with
                        | none => exact .some ⟨hacquired, rfl⟩
                        | some decision => exact .some (hacquired.dispatch hr request _)
      | _ => exact .none
  | timedOut o =>
      cases stage with
      | waiting r =>
          have hr := horg hown
          simp only [Task.advance, ← @AgreeOn.quota_eq config _ _ _ _ h hr]
          exact .some ⟨h.release hr false, rfl⟩
      | _ => exact .none
  | cancelled =>
      cases stage with
      | waiting r => exact .some ⟨h.release (horg hown) false, rfl⟩
      | _ => exact .none
  | decided o answer =>
      cases stage with
      | deciding r s => exact .some (h.dispatch (horg hown) request _)
      | _ => exact .none
  | answered o answer =>
      cases stage with
      | running r e => exact .some ⟨h.release (horg hown) true, rfl⟩
      | _ => exact .none

theorem AgreeOn.release_other (h : AgreeOn orgId quotas quotas₁)
    (hr : r.principal.orgId ≠ orgId) (held : Bool) :
    AgreeOn orgId (Gateway.release config quotas r held) quotas₁ :=
  h.update_other hr _

theorem AgreeOn.dispatch_other (h : AgreeOn orgId quotas quotas₁)
    (hr : r.principal.orgId ≠ orgId) {request : Request}
    {outcome : Except Exn Execution × List Event} {quotas' : Quotas} {t' : Task}
    (ht : Gateway.dispatch config quotas request r outcome = (quotas', t')) :
    AgreeOn orgId quotas' quotas₁ := by
  obtain ⟨result, log⟩ := outcome
  cases result with
  | ok e =>
      rw [← (Prod.mk.inj ht).1]
      exact h
  | error e =>
      rw [← (Prod.mk.inj ht).1]
      exact h.release_other hr true

/-- **A request leaves alone** the quotas of other organisations. -/
theorem Task.advance_other {t t' : Task} {wake : Wake} {quotas' : Quotas} (hown : t.Own)
    (hother : t.ofOrg orgId = false) (h : AgreeOn orgId quotas quotas₁)
    (ha : t.advance config quotas wake = some (quotas', t')) : AgreeOn orgId quotas' quotas₁ := by
  have hadvances := t.advances ha
  obtain ⟨request, stage, log⟩ := t
  have horg : ∀ {r : Resolved}, request.principal = some r.principal →
      r.principal.orgId ≠ orgId := by
    intro r hprincipal
    simp only [Task.ofOrg, hprincipal] at hother
    exact of_decide_eq_false hother
  replace hown : stage.Own request := hown
  cases hadvances with
  | refused o _ => exact h
  | full o hresolve => exact h.update_other (horg (principal_of_resolve hresolve)) _
  | admitted o hresolve _ => exact h.update_other (horg (principal_of_resolve hresolve)) _
  | failed o r _ _ => exact (h.update_other (horg hown) _).release_other (horg hown) true
  | suspended o r _ _ => exact h.update_other (horg hown) _
  | submitted o r answer _ _ ht =>
      have hacquired : AgreeOn orgId (acquire config quotas r) quotas₁ :=
        h.update_other (horg hown) _
      exact hacquired.dispatch_other (horg hown) ht
  | timedOut o r => exact h.release_other (horg hown) false
  | cancelled r => exact h.release_other (horg hown) false
  | decided o r s answer ht => exact h.dispatch_other (horg hown) ht
  | answered o r e answer => exact h.release_other (horg hown) true

/-! ## Every interleaving -/

/-- The requests of an organisation keep to themselves. -/
theorem projection (config : Config) (orgId : String) :
    Projection Task.Fresh (Segment config) Task.Own (Task.ofOrg orgId) (AgreeOn orgId) where
  fresh := by
    intro t hfresh
    rw [Task.Own, hfresh.1]
    trivial
  keeps := by
    intro quotas t quotas' t' ⟨wake, ha⟩ hown
    exact (hown.advance ha).1
  kind := by
    intro quotas t quotas' t' ⟨wake, ha⟩ hown
    rw [Task.ofOrg, Task.ofOrg, (hown.advance ha).2]
  other := by
    intro quotas t quotas' t' quotas₁ ⟨wake, ha⟩ hown hother hagree
    exact Task.advance_other hown hother hagree ha
  own := by
    intro quotas t quotas' t' quotas₁ ⟨wake, ha⟩ hown hmine hagree
    have hrel := @Task.advance_agree config _ _ _ _ hown hmine hagree wake
    rw [ha] at hrel
    cases h₁ : t.advance config quotas₁ wake with
    | none =>
        rw [h₁] at hrel
        contradiction
    | some after =>
        obtain ⟨quotas₁', t₁'⟩ := after
        rw [h₁] at hrel
        cases hrel with
        | some hsame =>
            obtain ⟨hagree', rfl⟩ := hsame
            exact ⟨quotas₁', ⟨wake, h₁⟩, hagree'⟩

/-- **Tenants do not notice each other**: without the requests of all other organisations,
those of one organisation could have come to where they are, with the same calls made and
the same results.  From there each goes on the same with the others as without them: it
waits, gets a permit, is turned away or finishes alike. -/
theorem tenant_isolated {quotas : Quotas} {S : System Quotas Task}
    (h : Reachable config quotas S) (orgId : String) :
    ∃ quotas₁, Reachable config quotas ⟨quotas₁, S.tasks.filter (Task.ofOrg orgId)⟩ ∧
      (∀ databaseId, S.shared (orgId, databaseId) = quotas₁ (orgId, databaseId)) ∧
      ∀ t ∈ S.tasks, t.ofOrg orgId = true → ∀ wake,
        (t.advance config S.shared wake).map Prod.snd =
          (t.advance config quotas₁ wake).map Prod.snd := by
  have hown : ∀ t ∈ S.tasks, t.Own :=
    Cooperative.Reachable.forall_task (projection config orgId).fresh
      (projection config orgId).keeps h
  obtain ⟨quotas₁, hreached, hagree⟩ :=
    Cooperative.Reachable.project (projection config orgId) (fun _ => rfl) h
  refine ⟨quotas₁, hreached, hagree, fun t ht hmine wake => ?_⟩
  have hrel := @Task.advance_agree config _ _ _ _ (hown t ht) hmine hagree wake
  cases hafter : t.advance config S.shared wake with
  | none =>
      rw [hafter] at hrel
      cases h₁ : t.advance config quotas₁ wake with
      | none => rfl
      | some after =>
          rw [h₁] at hrel
          contradiction
  | some after =>
      rw [hafter] at hrel
      cases h₁ : t.advance config quotas₁ wake with
      | none =>
          rw [h₁] at hrel
          contradiction
      | some after₁ =>
          rw [h₁] at hrel
          cases hrel with
          | some hsame => exact congrArg some hsame.2

end

/-- A request of another organisation. -/
def otherRequest : Request where
  principal := some ⟨"bob", "bob@corp.com", "tenant-b", ∅, []⟩
  databaseId := "db-b"
  sql := "SELECT title FROM album"

/-- What is returned to the other request: its own binding. -/
def otherReturn : Outcomes :=
  { allReturn with resolve := .ok (⟨"tenant-b", "db-b"⟩, ⟨"primary-service", .ok "primary"⟩) }

/-- A request at the database could have come there without the one that waits beside it. -/
theorem tenant_isolated_title : ∃ (t : Task) (quotas₁ : Quotas), t.request = titleRequest ∧
    (∃ r e, t.stage = .running r e) ∧ Reachable ⟨5, 10, 10000⟩ (fun _ => none) ⟨quotas₁, [t]⟩ := by
  have harrive : Reachable ⟨5, 10, 10000⟩ (fun _ => none)
      ⟨fun _ => none, [⟨titleRequest, .start, []⟩]⟩ :=
    .tail .refl (.arrive ⟨rfl, rfl⟩)
  have hboth := harrive.tail (.arrive (t := ⟨otherRequest, .start, []⟩) ⟨rfl, rfl⟩)
  have hbegin := hboth.tail (.run [] [_] ⟨.begin allReturn, rfl⟩)
  have hother := hbegin.tail (.run [_] [] ⟨.begin otherReturn, rfl⟩)
  have hacquired := hother.tail (.run [] [_] ⟨.acquired allReturn, rfl⟩)
  obtain ⟨quotas₁, hreached, -⟩ := tenant_isolated hacquired "tenant-a"
  exact ⟨_, quotas₁, rfl, ⟨_, _, rfl⟩, hreached⟩

end DbGateway.Gateway
