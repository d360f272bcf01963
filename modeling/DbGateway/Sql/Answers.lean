import DbGateway.Sql.Approval
import DbGateway.Sql.Masking
import DbGateway.Sql.RowNoninterference
import DbGateway.Sql.WellScoped

/-!
# DbGateway.Sql.Answers

What the gateway answers, after both rewritings: the rows of a statement that is first
restricted to a scope and then cleared of masked columns, masked once more by name.

The two rewritings touch different nodes, so they may be done in either order
(`rewrite_restricted_masked`).  In one order the restricted rows do not interfere, in the
other the masked columns do not; together an answer depends on the visible columns of the
rows in scope alone (`answers_separated`).
-/

namespace DbGateway.Sql

open List (Forall₂)
open Rows

/-! ## One rewriting after another -/

/-- At each node, the third rewriting does what the first two do in turn. -/
structure Rewriting.Composes (w₁ w₂ w : Rewriting) : Prop where
  column : ∀ t n, w.column t n =
    match w₁.column t n with
    | some e => some (e.rewrite w₂)
    | none => w₂.column t n
  where_ : ∀ from_ joins where_,
    w.where_ from_ joins (Expr.rewriteOption w₂ where_) =
      w₂.where_ (Source.rewriteOption w₁ from_) (Join.rewriteList w₁ joins)
        (Expr.rewriteOption w₂ (w₁.where_ from_ joins where_))

section

variable {w₁ w₂ w : Rewriting}

theorem Rewriting.Composes.rewrite_column (h : w₁.Composes w₂ w) (t : Option Identifier)
    (n : Identifier) :
    ((Expr.column t n).rewrite w₁).rewrite w₂ = (Expr.column t n).rewrite w := by
  rw [Expr.rewrite, Expr.rewrite, h.column]
  cases w₁.column t n with
  | none => rfl
  | some e => rfl

/-- A projection with a name keeps it. -/
theorem Projection.rewrite_item_some (w : Rewriting) (e : Expr) (a : Identifier) :
    (Projection.item e (some a)).rewrite w = .item (e.rewrite w) (some a) := by
  cases e <;> rfl

/-- A projection stays the projection of its expression, under some name. -/
theorem Projection.exists_rewrite_item (w : Rewriting) (e : Expr) (as_ : Option Identifier) :
    ∃ a, (Projection.item e as_).rewrite w = .item (e.rewrite w) a := by
  cases as_ with
  | some a => exact ⟨_, Projection.rewrite_item_some w e a⟩
  | none =>
      cases e with
      | column t n =>
          rw [Projection.rewrite, Expr.rewrite]
          cases w.column t n with
          | none => exact ⟨_, rfl⟩
          | some e => exact ⟨_, rfl⟩
      | _ => exact ⟨_, rfl⟩

mutual

theorem Expr.rewrite_rewrite (h : w₁.Composes w₂ w) : ∀ e : Expr,
    (e.rewrite w₁).rewrite w₂ = e.rewrite w
  | .column t n => h.rewrite_column t n
  | .literal _ => rfl
  | .func f args => by
      simp only [Expr.rewrite, Expr.rewriteList_rewriteList h args]
  | .eq l r => by simp only [Expr.rewrite, l.rewrite_rewrite h, r.rewrite_rewrite h]
  | .and_ l r => by simp only [Expr.rewrite, l.rewrite_rewrite h, r.rewrite_rewrite h]
  | .aggregate f args => by
      simp only [Expr.rewrite, Expr.rewriteList_rewriteList h args]
  | .scalar q => by simp only [Expr.rewrite, q.rewrite_rewrite h]
  | .exists_ q => by simp only [Expr.rewrite, q.rewrite_rewrite h]
  | .in_ e q => by simp only [Expr.rewrite, e.rewrite_rewrite h, q.rewrite_rewrite h]

theorem Expr.rewriteList_rewriteList (h : w₁.Composes w₂ w) : ∀ es : List Expr,
    Expr.rewriteList w₂ (Expr.rewriteList w₁ es) = Expr.rewriteList w es
  | [] => rfl
  | e :: es => by
      simp only [Expr.rewriteList, e.rewrite_rewrite h, Expr.rewriteList_rewriteList h es]

theorem Expr.rewriteOption_rewriteOption (h : w₁.Composes w₂ w) : ∀ e : Option Expr,
    Expr.rewriteOption w₂ (Expr.rewriteOption w₁ e) = Expr.rewriteOption w e
  | none => rfl
  | some e => congrArg some (e.rewrite_rewrite h)

theorem Projection.rewrite_rewrite (h : w₁.Composes w₂ w) : ∀ p : Projection,
    (p.rewrite w₁).rewrite w₂ = p.rewrite w
  | .star => rfl
  | .tableStar t => by
      rw [Projection.rewrite, Projection.rewrite, h.column]
      cases w₁.column (some t) ⟨"*", false⟩ with
      | none => rfl
      | some e => exact Projection.rewrite_item_some w₂ e _
  | .item e as_ => by
      have he := e.rewrite_rewrite h
      cases e with
      | column t n =>
          cases as_ with
          | none =>
              rw [Projection.rewrite, Projection.rewrite, h.column]
              cases w₁.column t n with
              | none => rfl
              | some e => exact Projection.rewrite_item_some w₂ e _
          | some a =>
              rw [Projection.rewrite_item_some, Projection.rewrite_item_some,
                Projection.rewrite_item_some, he]
      | _ => cases as_ <;> exact congrArg (Projection.item · _) he

theorem Projection.rewriteList_rewriteList (h : w₁.Composes w₂ w) : ∀ ps : List Projection,
    Projection.rewriteList w₂ (Projection.rewriteList w₁ ps) = Projection.rewriteList w ps
  | [] => rfl
  | p :: ps => by
      simp only [Projection.rewriteList, p.rewrite_rewrite h,
        Projection.rewriteList_rewriteList h ps]

theorem Query.rewrite_rewrite (h : w₁.Composes w₂ w) : ∀ q : Query,
    (q.rewrite w₁).rewrite w₂ = q.rewrite w
  | .select _ expressions from_ joins where_ group having order _ => by
      have hwhere := h.where_ from_ joins (Expr.rewriteOption w₁ where_)
      rw [Expr.rewriteOption_rewriteOption h] at hwhere
      simp only [Query.rewrite, Projection.rewriteList_rewriteList h expressions,
        Source.rewriteOption_rewriteOption h from_, Join.rewriteList_rewriteList h joins,
        Expr.rewriteList_rewriteList h group, Expr.rewriteOption_rewriteOption h having,
        Expr.rewriteList_rewriteList h order, hwhere]
  | .setOperation _ _ l r order _ => by
      simp only [Query.rewrite, l.rewrite_rewrite h, r.rewrite_rewrite h,
        Expr.rewriteList_rewriteList h order]
  | .with_ _ ctes q => by
      simp only [Query.rewrite, Cte.rewriteList_rewriteList h ctes, q.rewrite_rewrite h]
  | .subquery q => congrArg Query.subquery (q.rewrite_rewrite h)

theorem Cte.rewriteList_rewriteList (h : w₁.Composes w₂ w) : ∀ cs : List Cte,
    Cte.rewriteList w₂ (Cte.rewriteList w₁ cs) = Cte.rewriteList w cs
  | [] => rfl
  | .cte _ _ q :: cs => by
      simp only [Cte.rewriteList, q.rewrite_rewrite h, Cte.rewriteList_rewriteList h cs]

theorem Source.rewrite_rewrite (h : w₁.Composes w₂ w) : ∀ s : Source,
    (s.rewrite w₁).rewrite w₂ = s.rewrite w
  | .table _ _ _ => rfl
  | .derived q _ => by simp only [Source.rewrite, q.rewrite_rewrite h]
  | .paren s joins _ => by
      simp only [Source.rewrite, s.rewrite_rewrite h, Join.rewriteList_rewriteList h joins]

theorem Source.rewriteOption_rewriteOption (h : w₁.Composes w₂ w) : ∀ s : Option Source,
    Source.rewriteOption w₂ (Source.rewriteOption w₁ s) = Source.rewriteOption w s
  | none => rfl
  | some s => congrArg some (s.rewrite_rewrite h)

theorem Join.rewriteList_rewriteList (h : w₁.Composes w₂ w) : ∀ js : List Join,
    Join.rewriteList w₂ (Join.rewriteList w₁ js) = Join.rewriteList w js
  | [] => rfl
  | .join _ s on _ :: js => by
      simp only [Join.rewriteList, s.rewrite_rewrite h, Expr.rewriteOption_rewriteOption h on,
        Join.rewriteList_rewriteList h js]

end

end

/-! ## Restricting and masking -/

section Commute

variable [Python] [Sqlglot] {nulled : Identifier → Bool} {resolved : Dict String}

/-- The row predicates and the nulled columns in one rewriting. -/
def restrictAndNull (resolved : Dict String) (nulled : Identifier → Bool) : Rewriting where
  column := (nullColumns nulled).column
  where_ := (rowScope resolved).where_

omit [Sqlglot] in
theorem qualifier?_rewrite (w : Rewriting) (s : Source) :
    (s.rewrite w).qualifier? = s.qualifier? := by
  cases s <;> rfl

omit [Sqlglot] in
theorem qualifiers_rewrite (w : Rewriting) (from_ : Option Source) (joins : List Join) :
    qualifiers (Source.rewriteOption w from_) (Join.rewriteList w joins) =
      qualifiers from_ joins := by
  have hfrom : (Source.rewriteOption w from_).toList.filterMap Source.qualifier? =
      from_.toList.filterMap Source.qualifier? := by
    cases from_ with
    | none => rfl
    | some s =>
        simp only [Source.rewriteOption, Option.toList_some, List.filterMap_cons,
          qualifier?_rewrite]
  have hjoins : ((Join.rewriteList w joins).map Join.source).filterMap Source.qualifier? =
      (joins.map Join.source).filterMap Source.qualifier? := by
    induction joins with
    | nil => rfl
    | cons j joins ih =>
        obtain ⟨kind, s, on, matching⟩ := j
        simp only [Join.rewriteList, List.map_cons, Join.source, List.filterMap_cons,
          qualifier?_rewrite, ih]
  rw [qualifiers, qualifiers, List.filterMap_append, List.filterMap_append, hfrom, hjoins]

/-- Masked first, then restricted: a masked reference leaves nothing to restrict. -/
theorem composes_null_restrict :
    (nullColumns nulled).Composes (rowScope resolved) (restrictAndNull resolved nulled) where
  column t n := by
    show (nullColumns nulled).column t n = _
    rw [nullColumns]
    dsimp only
    split <;> rfl
  where_ from_ joins where_ := by
    rw [where_rowScope, scopePredicates, qualifiers_rewrite]
    rfl

omit [Python] [Sqlglot] in
theorem rewriteOption_addPredicates {w : Rewriting} {predicates : List Expr}
    (h : ∀ p ∈ predicates, p.rewrite w = p) (where_ : Option Expr) :
    Expr.rewriteOption w (addPredicates where_ predicates) =
      addPredicates (Expr.rewriteOption w where_) predicates := by
  induction predicates generalizing where_ with
  | nil => rfl
  | cons p predicates ih =>
      obtain ⟨hp, hrest⟩ := List.forall_mem_cons.mp h
      rw [addPredicates, addPredicates, List.foldl_cons, List.foldl_cons, ← addPredicates,
        ← addPredicates, ih hrest]
      cases where_ with
      | none => rw [Expr.rewriteOption, Expr.rewriteOption, hp]
      | some e => rw [Expr.rewriteOption, Expr.rewriteOption, Expr.rewrite, hp]

/-- Restricted first, then masked: the predicates stay, where none is about a masked
column. -/
theorem composes_restrict_null
    (hkept : ∀ cv ∈ resolved, nulled (Sqlglot.toIdentifier cv.1) = false) :
    (rowScope resolved).Composes (nullColumns nulled) (restrictAndNull resolved nulled) where
  column _ _ := rfl
  where_ from_ joins where_ := by
    have hpredicates : ∀ p ∈ scopePredicates resolved from_ joins,
        p.rewrite (nullColumns nulled) = p := by
      intro p hp
      obtain ⟨cv, hcv, hp⟩ := List.mem_flatMap.mp hp
      obtain ⟨q, -, rfl⟩ := List.mem_map.mp hp
      simp [scopePredicate, Expr.rewrite, nullColumns, hkept cv hcv]
    show addPredicates _ _ = Expr.rewriteOption _ (addPredicates _ _)
    rw [rewriteOption_addPredicates hpredicates]

/-- **The rewritings commute.** -/
theorem rewrite_restricted_masked
    (hkept : ∀ cv ∈ resolved, nulled (Sqlglot.toIdentifier cv.1) = false) (q : Query) :
    (q.rewrite (rowScope resolved)).rewrite (nullColumns nulled) =
      (q.rewrite (nullColumns nulled)).rewrite (rowScope resolved) := by
  rw [q.rewrite_rewrite (composes_restrict_null hkept),
    q.rewrite_rewrite composes_null_restrict]

end Commute

/-! ## Masking keeps where tables stand -/

section Placed

variable [Python] [Sqlglot] {catalog : Catalog} {restricted : List String}
  {nulled : Identifier → Bool}

mutual

theorem Expr.scoped_null {scope : List String} : ∀ e : Expr, e.Scoped catalog restricted scope →
    (e.rewrite (nullColumns nulled)).Scoped catalog restricted scope
  | .column t n, _ => by
      rw [Expr.rewrite, nullColumns]
      dsimp only
      split <;> exact trivial
  | .literal _, h => h
  | .func _ args, h => Expr.scopedList_null args h
  | .eq l r, ⟨hl, hr⟩ => ⟨l.scoped_null hl, r.scoped_null hr⟩
  | .and_ l r, ⟨hl, hr⟩ => ⟨l.scoped_null hl, r.scoped_null hr⟩
  | .aggregate _ args, h => Expr.scopedList_null args h
  | .scalar q, h => q.scoped_null h
  | .exists_ q, h => q.scoped_null h
  | .in_ e q, ⟨he, hq⟩ => ⟨e.scoped_null he, q.scoped_null hq⟩

theorem Expr.scopedList_null {scope : List String} : ∀ es : List Expr,
    Expr.ScopedList catalog restricted scope es →
      Expr.ScopedList catalog restricted scope (Expr.rewriteList (nullColumns nulled) es)
  | [], h => h
  | e :: es, ⟨he, hes⟩ => ⟨e.scoped_null he, Expr.scopedList_null es hes⟩

theorem Expr.scopedOption_null {scope : List String} : ∀ e : Option Expr,
    Expr.ScopedOption catalog restricted scope e →
      Expr.ScopedOption catalog restricted scope (Expr.rewriteOption (nullColumns nulled) e)
  | none, h => h
  | some e, h => e.scoped_null h

theorem Projection.scopedList_null {scope : List String} : ∀ ps : List Projection,
    Projection.ScopedList catalog restricted scope ps →
      Projection.ScopedList catalog restricted scope
        (Projection.rewriteList (nullColumns nulled) ps)
  | [], h => h
  | .star :: ps, h => Projection.scopedList_null ps h
  | .tableStar t :: ps, h => by
      have hps := Projection.scopedList_null ps h
      rw [Projection.rewriteList, Projection.rewrite, nullColumns]
      dsimp only
      split
      · next e he =>
          split at he
          · exact ⟨Option.some.inj he ▸ trivial, hps⟩
          · contradiction
      · exact hps
  | .item e as_ :: ps, ⟨he, hps⟩ => by
      obtain ⟨a, hitem⟩ := Projection.exists_rewrite_item (nullColumns nulled) e as_
      rw [Projection.rewriteList, hitem]
      exact ⟨e.scoped_null he, Projection.scopedList_null ps hps⟩

theorem Query.scoped_null {scope : List String} : ∀ q : Query, q.Scoped catalog restricted scope →
    (q.rewrite (nullColumns nulled)).Scoped catalog restricted scope
  | .select _ expressions from_ joins where_ group having order _, h => by
      obtain ⟨hexpressions, hfrom, hjoins, hwhere, hgroup, hhaving, horder⟩ := h
      exact ⟨Projection.scopedList_null expressions hexpressions,
        Source.scopedFrom_null from_ hfrom, Join.scopedList_null joins hjoins,
        Expr.scopedOption_null where_ hwhere, Expr.scopedList_null group hgroup,
        Expr.scopedOption_null having hhaving, Expr.scopedList_null order horder⟩
  | .setOperation _ _ l r order _, ⟨hl, hr, horder⟩ =>
      ⟨l.scoped_null hl, r.scoped_null hr, Expr.scopedList_null order horder⟩
  | .with_ recursive ctes q, h => by
      rw [Query.rewrite]
      unfold Query.Scoped at h ⊢
      rw [map_name_rewriteList]
      split at h
      · next hrecursive =>
          rw [if_pos hrecursive]
          exact ⟨Cte.scopedTogether_null ctes h.1, q.scoped_null h.2⟩
      · next hplain =>
          rw [if_neg hplain]
          exact ⟨Cte.scopedList_null ctes h.1, q.scoped_null h.2⟩
  | .subquery q, h => q.scoped_null h

theorem Cte.scopedList_null {scope : List String} : ∀ cs : List Cte,
    Cte.ScopedList catalog restricted scope cs →
      Cte.ScopedList catalog restricted scope (Cte.rewriteList (nullColumns nulled) cs)
  | [], h => h
  | .cte _ _ q :: cs, ⟨hq, hcs⟩ => ⟨q.scoped_null hq, Cte.scopedList_null cs hcs⟩

theorem Cte.scopedTogether_null {scope : List String} : ∀ cs : List Cte,
    Cte.ScopedTogether catalog restricted scope cs →
      Cte.ScopedTogether catalog restricted scope (Cte.rewriteList (nullColumns nulled) cs)
  | [], h => h
  | .cte _ _ q :: cs, ⟨hq, hcs⟩ => ⟨q.scoped_null hq, Cte.scopedTogether_null cs hcs⟩

theorem Source.scoped_null {scope : List String} : ∀ s : Source,
    s.Scoped catalog restricted scope →
      (s.rewrite (nullColumns nulled)).Scoped catalog restricted scope
  | .table _ _ _, h => h
  | .derived q _, h => q.scoped_null h
  | .paren s joins _, ⟨hs, hjoins⟩ => ⟨s.closed_null hs, Join.closedList_null joins hjoins⟩

theorem Source.scopedFrom_null {scope : List String} : ∀ s : Option Source,
    Source.ScopedFrom catalog restricted scope s →
      Source.ScopedFrom catalog restricted scope (Source.rewriteOption (nullColumns nulled) s)
  | none, h => h
  | some s, h => s.scoped_null h

theorem Join.scopedList_null {scope : List String} : ∀ js : List Join,
    Join.ScopedList catalog restricted scope js →
      Join.ScopedList catalog restricted scope (Join.rewriteList (nullColumns nulled) js)
  | [], h => h
  | .join _ s on _ :: js, ⟨hs, hon, hjs⟩ =>
      ⟨s.scoped_null hs, Expr.scopedOption_null on hon, Join.scopedList_null js hjs⟩

theorem Source.closed_null {scope : List String} : ∀ s : Source,
    s.Closed catalog restricted scope →
      (s.rewrite (nullColumns nulled)).Closed catalog restricted scope
  | .table _ _ _, h => h
  | .derived q _, h => q.scoped_null h
  | .paren s joins _, ⟨hs, hjoins⟩ => ⟨s.closed_null hs, Join.closedList_null joins hjoins⟩

theorem Join.closedList_null {scope : List String} : ∀ js : List Join,
    Join.ClosedList catalog restricted scope js →
      Join.ClosedList catalog restricted scope (Join.rewriteList (nullColumns nulled) js)
  | [], h => h
  | .join _ s on _ :: js, ⟨hs, hon, hjs⟩ =>
      ⟨s.closed_null hs, Expr.scopedOption_null on hon, Join.closedList_null js hjs⟩

end

end Placed

/-! ## Answers -/

section Answers

variable [Sqlglot] {V : Type} [Domain V] {catalog : Catalog}

/-- The rows in scope agree on the columns that are not hidden. -/
def SameInScope (resolved : Dict String) (hidden : String → Bool) (d₁ d₂ : Database V catalog) :
    Prop :=
  ∀ db name, Forall₂ (fun r s => ∀ i c, (catalog db name)[i]? = some c → hidden c = false →
      r.getD i null = s.getD i null)
    ((d₁.rows db name).filter (inScope resolved (catalog db name)))
    ((d₂.rows db name).filter (inScope resolved (catalog db name)))

/-- The database without the rows out of scope. -/
def Database.within (resolved : Dict String) (d : Database V catalog) : Database V catalog where
  rows db name := (d.rows db name).filter (inScope resolved (catalog db name))
  width db name row hrow := d.width db name row (List.mem_filter.mp hrow).1

theorem Database.agree_within (resolved : Dict String) (d : Database V catalog) :
    AgreeInScope resolved d (d.within resolved) := by
  intro db name
  show _ = List.filter _ (List.filter _ _)
  rw [List.filter_filter]
  simp only [Bool.and_self]

theorem Database.within_nil (d : Database V catalog) : d.within [] = d := by
  have hrows : (d.within []).rows = d.rows := by
    funext db name
    exact List.filter_eq_self.mpr fun row _ => rfl
  obtain ⟨rows, width⟩ := d
  unfold Database.within at hrows ⊢
  congr

theorem SameInScope.within {resolved : Dict String} {hidden : String → Bool}
    {d₁ d₂ : Database V catalog} (h : SameInScope resolved hidden d₁ d₂) :
    SameExcept hidden (d₁.within resolved) (d₂.within resolved) := h

variable [Python] {sql : String} {q : Query} {principal : Principal}
  {maskedColumns : Finset String}

/-- The statement that is executed, as its tree. -/
theorem tree_masked {execution : Statement} {tree : Query} (hparse : parseOne sql = some q)
    (hrewrite : rewriteMaskedColumns sql maskedColumns = .ok execution)
    (htree : execution.tree? = some tree) :
    tree = q.rewrite (maskLabels V maskedColumns).rewriting := by
  rw [rewriteMaskedColumns] at hrewrite
  split at hrewrite
  · next hempty =>
      obtain rfl := Except.ok.inj hrewrite
      have hnothing : (maskLabels V maskedColumns).rewriting = nullNothing := by
        refine congrArg nullColumns ?_
        funext n
        simp [maskLabels, loweredColumns, hempty]
      rw [hnothing, q.rewrite_nullNothing]
      exact Option.some.inj (htree.symm.trans hparse)
  · rw [hparse] at hrewrite
    obtain rfl := Except.ok.inj hrewrite
    exact (Option.some.inj htree).symm

/-- The statement a request is answered by, from its rewritings to the rows returned, gives
the same rows on databases whose rows in scope agree on the columns that are not masked. -/
def AnswersSeparated (V : Type) [Domain V] [DecidableEq V] (catalog : Catalog) (fuel : Nat)
    (sql : String) (decision : PolicyDecision) (principal : Principal) : Prop :=
  ∀ d₁ d₂ : Database V catalog,
    SameInScope (restrictionPredicates principal decision.rowRestrictions)
      (isNamed decision.maskedColumns) d₁ d₂ →
    ∀ restricted restrictedSql execution tree,
      applyRowRestrictions sql decision.rowRestrictions principal = .ok restricted →
      restricted.Reads restrictedSql →
      rewriteMaskedColumns restrictedSql decision.maskedColumns = .ok execution →
      execution.tree? = some tree →
        maskRows (execute d₁ fuel tree).dicts decision.maskedColumns restrictedSql =
          maskRows (execute d₂ fuel tree).dicts decision.maskedColumns restrictedSql

variable [DecidableEq V] {fuel : Nat} {decision : PolicyDecision}

/-- A statement that is restricted and masked reads rows in scope only. -/
theorem execute_within {resolved : Dict String} {nulled : Identifier → Bool}
    {restricted : List String} (hne : resolved ≠ [])
    (hcolumns : ∀ cv ∈ resolved, cv.1 ∈ restricted)
    (hkept : ∀ cv ∈ resolved, nulled (Sqlglot.toIdentifier cv.1) = false)
    (hscoped : q.Scoped catalog restricted []) (d : Database V catalog) :
    execute d fuel ((q.rewrite (rowScope resolved)).rewrite (nullColumns nulled)) =
      execute (d.within resolved) fuel
        ((q.rewrite (rowScope resolved)).rewrite (nullColumns nulled)) := by
  have hruns : SharedScope restricted resolved d (d.within resolved) :=
    ⟨hne, hcolumns, d.agree_within resolved⟩
  rw [rewrite_restricted_masked hkept, execute, execute]
  refine Query.Scoped.congr hruns _ ?_ [] []
  exact q.scoped_null hscoped

/-- **An answer depends on the visible columns of the rows in scope alone**: for a statement
whose physical tables all stand where their predicates reach them, restricted by columns
that are not masked, and of whose restricted form no row and no output that is not masked by
name depends on a masked value. -/
theorem answers_separated (hparse : parseOne sql = some q)
    (hsame : ∀ r ∈ decision.rowRestrictions, ∀ r' ∈ decision.rowRestrictions,
      lower r.1 = lower r'.1 →
        restrictionValue? principal r.2 = restrictionValue? principal r'.2)
    (hscoped : q.Scoped catalog (decision.rowRestrictions.map fun r => lower r.1) [])
    (hkept : ∀ r ∈ decision.rowRestrictions, lower r.1 ∉ loweredColumns decision.maskedColumns)
    (hmasked : ∀ restricted restrictedSql tree,
      applyRowRestrictions sql decision.rowRestrictions principal = .ok restricted →
      restricted.Reads restrictedSql → parseOne restrictedSql = some tree →
        OutputsMasked decision.maskedColumns restrictedSql
          (flow (maskLabels V decision.maskedColumns) catalog fuel tree)) :
    AnswersSeparated V catalog fuel sql decision principal := by
  intro d₁ d₂ hagree restricted restrictedSql execution tree happly hreads hrewrite htree
  have hmem : ∀ cv, cv ∈ resolvedRestrictions principal decision.rowRestrictions ↔
      cv ∈ restrictionPredicates principal decision.rowRestrictions := mem_resolved_iff hsame
  have hrestricted := parseOne_restricted hparse happly hreads
  obtain rfl := tree_masked (V := V) hrestricted hrewrite htree
  set resolved := resolvedRestrictions principal decision.rowRestrictions with hresolved
  -- rows out of scope change nothing
  have hwithin : ∀ d : Database V catalog,
      execute d fuel ((q.rewrite (rowScope resolved)).rewrite
          (maskLabels V decision.maskedColumns).rewriting) =
        execute (d.within resolved) fuel ((q.rewrite (rowScope resolved)).rewrite
          (maskLabels V decision.maskedColumns).rewriting) := by
    intro d
    by_cases hnil : resolved = []
    · rw [hnil, d.within_nil]
    · refine execute_within hnil (fun cv hcv => ?_) (fun cv hcv => ?_) hscoped d
      · obtain ⟨r, hr, rfl⟩ := List.mem_map.mp ((hmem cv).mp hcv)
        exact List.mem_map_of_mem hr
      · obtain ⟨r, hr, rfl⟩ := List.mem_map.mp ((hmem cv).mp hcv)
        refine decide_eq_false ?_
        rw [Sqlglot.toIdentifier_name, Python.lower_lower]
        exact hkept r hr
  have hagree : SameExcept (isNamed decision.maskedColumns) (d₁.within resolved)
      (d₂.within resolved) := by
    refine SameInScope.within fun db name => ?_
    rw [inScope_congr_mem hmem]
    exact hagree db name
  rw [hwithin d₁, hwithin d₂]
  by_cases hne : decision.maskedColumns = ∅
  · rw [hagree.eq fun c => by simp [isNamed, loweredColumns, hne]]
  · exact maskRows_agree hne (flow_sound ⟨rfl, hagree⟩ (q.rewrite (rowScope resolved)))
      (hmasked restricted restrictedSql _ happly hreads hrestricted)

end Answers

/-- The decision that leaves a principal the rows of its tenant, without their titles. -/
def untitledDecision : PolicyDecision := { tenantDecision with maskedColumns := {"title"} }

/-- What the analysis finds of the restricted statement. -/
theorem outputsMasked_tenantTitle (restrictedSql : String) :
    letI := Python.ascii
    OutputsMasked {"title"} restrictedSql
      (flow (maskLabels Value {"title"}) albumCatalog 0 tenantTitleQuery) := by
  refine @OutputsMasked.mk Python.ascii _ _ _ (by decide +kernel) fun output houtput htainted => ?_
  have hclean : ∀ output ∈ (@flow (@maskLabels Python.ascii Value _ {"title"}) albumCatalog 0
      tenantTitleQuery).headers.zip (flow (@maskLabels Python.ascii Value _ {"title"})
        albumCatalog 0 tenantTitleQuery).columns, output.2 = false := by decide +kernel
  rw [hclean output houtput] at htainted
  contradiction

theorem tenantParser_scoped :
    @Query.Scoped Python.ascii tenantParser albumCatalog [@lower Python.ascii "tenant"] []
      titleQuery := by
  simp only [titleQuery, Query.Scoped, Projection.ScopedList, Expr.Scoped, Source.ScopedFrom,
    Source.Scoped, Join.ScopedList, Expr.ScopedOption, Expr.ScopedList, and_true, true_and]
  obtain ⟨hnamed, hqualifier, hkept⟩ := album_placed (.inl rfl)
  exact .inr (@Placed.mk Python.ascii tenantParser _ _ _ _ _ hnamed hqualifier hkept)

/-- The title of one's own albums is asked for, and nothing is told about the others. -/
theorem answers_separated_title :
    letI := Python.ascii
    letI := tenantParser
    AnswersSeparated Value albumCatalog 0 titleText untitledDecision tenantPrincipal := by
  have hcarries : @Carries Python.ascii tenantPrincipal [("tenant", "tenant")] := by
    unfold Carries
    decide
  refine @answers_separated tenantParser Value _ albumCatalog Python.ascii titleText titleQuery
    tenantPrincipal _ 0 untitledDecision rfl (by decide +kernel) tenantParser_scoped
    (by decide +kernel) fun restricted restrictedSql tree happly hreads hparse => ?_
  have htree := @parseOne_restricted Python.ascii tenantParser titleText restrictedSql titleQuery
    _ _ restricted rfl happly hreads
  obtain rfl : tree = tenantTitleQuery := Option.some.inj (hparse.symm.trans htree)
  exact outputsMasked_tenantTitle restrictedSql

end DbGateway.Sql
