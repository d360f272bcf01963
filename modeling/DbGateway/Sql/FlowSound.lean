import DbGateway.Sql.Flow

/-!
# DbGateway.Sql.FlowSound

Two runs of a statement on databases that differ in hidden columns only: the
results have the headers of the statement's shape, and if its rows do not
depend on tainted data they correspond one to one, equal at every output that
is not tainted.

The rows of the two runs are related at each step of the evaluation by
`Agree`; the operators carry the relation through by their parametricity
(`DbGateway.Rows`).
-/

namespace DbGateway.Sql

open Rows List

/-! ## Agreement -/

section Agreement

variable {V : Type} [Domain V] {ts us : List Bool} {r s r' s' : Row V}

/-- Two rows are equal where they are not tainted. -/
structure Agree (ts : List Bool) (r s : Row V) : Prop where
  length : r.length = s.length
  values : ∀ i, ts.getD i false = false → r.getD i null = s.getD i null

namespace Agree

theorem refl (r : Row V) : Agree ts r r := ⟨rfl, fun _ _ => rfl⟩

theorem weaken (h : Agree ts r s) (hle : ∀ i, us.getD i false = false → ts.getD i false = false) :
    Agree us r s :=
  ⟨h.length, fun i hi => h.values i (hle i hi)⟩

/-- Rows without tainted positions are equal. -/
theorem eq (h : Agree ts r s) (hclean : ts.any id = false) : r = s := by
  refine List.ext_getElem h.length fun i hr hs => ?_
  have hti : ts.getD i false = false := by
    rw [List.getD_eq_getElem?_getD]
    cases hget : ts[i]? with
    | none => rfl
    | some t =>
        have hmem := List.mem_of_getElem? hget
        simpa using List.any_eq_false.mp hclean t hmem
  have hvalue := h.values i hti
  rwa [List.getD_eq_getElem _ _ hr, List.getD_eq_getElem _ _ hs] at hvalue

theorem head (h : Agree ts r s) (hclean : ts.headD false = false) :
    r.headD null = s.headD null := by
  simp only [List.headD_eq_head?_getD, List.head?_eq_getElem?, ← List.getD_eq_getElem?_getD]
    at hclean ⊢
  exact h.values 0 hclean

theorem append (h : Agree ts r s) (hlength : ts.length = r.length) (h' : Agree us r' s') :
    Agree (ts ++ us) (r ++ r') (s ++ s') := by
  refine ⟨by simp [h.length, h'.length], fun i hi => ?_⟩
  by_cases hlt : i < ts.length
  · rw [List.getD_append _ _ _ _ hlt] at hi
    rw [List.getD_append _ _ _ _ (hlength ▸ hlt),
      List.getD_append _ _ _ _ (h.length ▸ hlength ▸ hlt)]
    exact h.values i hi
  · rw [List.getD_append_right _ _ _ _ (by omega)] at hi
    rw [List.getD_append_right _ _ _ _ (by omega),
      List.getD_append_right _ _ _ _ (by have := h.length; omega), ← h.length, ← hlength]
    exact h'.values _ hi

/-- Rows computed entry by entry. -/
theorem map {α : Type} {xs : List α} {t : α → Bool} {f g : α → V}
    (h : ∀ x ∈ xs, t x = false → f x = g x) : Agree (xs.map t) (xs.map f) (xs.map g) := by
  refine ⟨by simp, fun i hi => ?_⟩
  simp only [List.getD_eq_getElem?_getD, List.getElem?_map] at hi ⊢
  cases hget : xs[i]? with
  | none => rfl
  | some x =>
      rw [hget] at hi
      exact h x (List.mem_of_getElem? hget) hi

theorem single {t : Bool} {v v' : V} (h : t = false → v = v') : Agree [t] [v] [v'] :=
  @map V _ Unit [()] (fun _ => t) (fun _ => v) (fun _ => v') fun _ _ ht => h ht

theorem fit (h : Agree ts r s) (width : Nat) :
    Agree (fit false width ts) (fit null width r) (fit null width s) :=
  map fun i _ hi => h.values i hi

end Agree

theorem getD_orTaints (ts us : List Bool) (i : Nat) :
    (orTaints ts us).getD i false = (ts.getD i false || us.getD i false) := by
  fun_induction orTaints ts us generalizing i with
  | case1 us => simp
  | case2 ts => simp
  | case3 t ts u us ih =>
      cases i with
      | zero => simp
      | succ i => simpa using ih i

/-- Environments agree at each level. -/
def EnvAgree (taints : List (List Bool)) (env₁ env₂ : List (Row V)) : Prop :=
  ∀ level, Agree (taints.getD level []) (env₁.getD level []) (env₂.getD level [])

namespace EnvAgree

variable {taints : List (List Bool)} {env₁ env₂ : List (Row V)}

theorem cons (hrow : Agree ts r s) (h : EnvAgree taints env₁ env₂) :
    EnvAgree (ts :: taints) (r :: env₁) (s :: env₂) := by
  intro level
  cases level with
  | zero => exact hrow
  | succ level => exact h level

/-- The row of the innermost level, replaced. -/
theorem replace (hrow : Agree (taints.getD 0 []) r s) (h : EnvAgree taints env₁ env₂) :
    EnvAgree taints (r :: env₁.tail) (s :: env₂.tail) := by
  intro level
  cases level with
  | zero => exact hrow
  | succ level => simpa using h (level + 1)

theorem valueAt (h : EnvAgree taints env₁ env₂) {level p : Nat}
    (hclean : taintAt taints level p = false) : valueAt env₁ level p = valueAt env₂ level p :=
  (h level).values p hclean

theorem reference (h : EnvAgree taints env₁ env₂) {x : Reference}
    (hclean : x.tainted taints = false) : x.value env₁ = x.value env₂ := by
  cases x with
  | column level p => exact h.valueAt hclean
  | record level fields =>
      rw [Reference.value, Reference.value]
      congr 1
      refine List.map_congr_left fun f hf => ?_
      rw [h.valueAt (by simpa using List.any_eq_false.mp hclean f hf)]
  | unresolved => rfl

theorem fieldValues (h : EnvAgree taints env₁ env₂) (level : Nat) (fields : Fields) :
    Agree ((fieldTaints taints level fields).map Prod.snd) (fieldValues env₁ level fields)
      (fieldValues env₂ level fields) := by
  rw [fieldTaints, List.map_map]
  exact Agree.map fun f _ hf => h.valueAt hf

end EnvAgree

/-! ## Results -/

/-- Two results of one shape. -/
structure TableAgree (shape : Shape) (t₁ t₂ : Table V) : Prop where
  left : t₁.headers = shape.headers
  right : t₂.headers = shape.headers
  rows : shape.rows = false → Forall₂ (Agree shape.columns) t₁.rows t₂.rows

/-- Results under a list of column names. -/
theorem TableAgree.rename {shape : Shape} {t₁ t₂ : Table V} (h : TableAgree shape t₁ t₂)
    (columns : List Identifier) :
    TableAgree { shape with headers := rename columns shape.headers }
      ⟨Sql.rename columns t₁.headers, t₁.rows⟩ ⟨Sql.rename columns t₂.headers, t₂.rows⟩ :=
  ⟨by rw [h.left], by rw [h.right], h.rows⟩

/-- Two runs of a `FROM` item. -/
structure SourceAgree (shape : SourceShape) (x y : Frame × List (Row V)) : Prop where
  left : x.1 = shape.frame
  right : y.1 = shape.frame
  rows : shape.rows = false → Forall₂ (Agree shape.columns) x.2 y.2

/-- Two runs of the common table expressions in scope. -/
inductive CtesAgree : Shapes → Ctes V → Ctes V → Prop where
  | nil : CtesAgree [] [] []
  | cons {name shape t₁ t₂ shapes ctes₁ ctes₂} : TableAgree shape t₁ t₂ →
      CtesAgree shapes ctes₁ ctes₂ →
        CtesAgree ((name, shape) :: shapes) ((name, t₁) :: ctes₁) ((name, t₂) :: ctes₂)

namespace CtesAgree

variable {shapes shapes' : Shapes} {ctes₁ ctes₂ ctes₁' ctes₂' : Ctes V}

theorem append (h : CtesAgree shapes ctes₁ ctes₂) (h' : CtesAgree shapes' ctes₁' ctes₂') :
    CtesAgree (shapes ++ shapes') (ctes₁ ++ ctes₁') (ctes₂ ++ ctes₂') := by
  induction h with
  | nil => exact h'
  | cons ht _ ih => exact .cons ht ih

/-- Rounds that keep the runs related, any number of them. -/
theorem iterate {round : Shapes → Shapes} {round₁ round₂ : Ctes V → Ctes V}
    (hround : ∀ shapes ctes₁ ctes₂, CtesAgree shapes ctes₁ ctes₂ →
      CtesAgree (round shapes) (round₁ ctes₁) (round₂ ctes₂))
    (h : CtesAgree shapes ctes₁ ctes₂) (n : Nat) :
    CtesAgree (Nat.iterate round n shapes) (Nat.iterate round₁ n ctes₁)
      (Nat.iterate round₂ n ctes₂) := by
  induction n with
  | zero => exact h
  | succ n ih =>
      simp only [Function.iterate_succ_apply']
      exact hround _ _ _ ih

/-- A reference is bound in both runs or in neither. -/
theorem lookupCte (h : CtesAgree shapes ctes₁ ctes₂) (db : Option Identifier)
    (name : Identifier) :
    (Sql.lookupCte shapes db name = none ∧ Sql.lookupCte ctes₁ db name = none ∧
      Sql.lookupCte ctes₂ db name = none) ∨
    ∃ shape t₁ t₂, Sql.lookupCte shapes db name = some shape ∧
      Sql.lookupCte ctes₁ db name = some t₁ ∧ Sql.lookupCte ctes₂ db name = some t₂ ∧
        TableAgree shape t₁ t₂ := by
  cases db with
  | some _ => exact .inl ⟨rfl, rfl, rfl⟩
  | none =>
      simp only [Sql.lookupCte, Option.isNone_none, if_true]
      induction h with
      | nil => exact .inl ⟨rfl, rfl, rfl⟩
      | @cons bound shape t₁ t₂ _ _ _ ht _ ih =>
          by_cases hname : name.folded == bound
          · simp only [List.lookup_cons, hname]
            exact .inr ⟨shape, t₁, t₂, rfl, rfl, rfl, ht⟩
          · simpa only [List.lookup_cons, hname] using ih

end CtesAgree

/-! ## Operators -/

theorem forall₂_headD {α β : Type} {R : α → β → Prop} {xs : List α} {ys : List β} {x : α} {y : β}
    (h : Forall₂ R xs ys) (hdefault : R x y) : R (xs.headD x) (ys.headD y) := by
  cases h with
  | nil => exact hdefault
  | cons hr _ => exact hr

/-- Rows without tainted positions, altogether. -/
theorem eq_of_forall₂_agree {xs ys : List (Row V)} (h : Forall₂ (Agree ts) xs ys)
    (hclean : ts.any id = false) : xs = ys :=
  forall₂_eq_eq_eq ▸ h.imp fun _ _ hr => hr.eq hclean

theorem agree_orTaints_left (h : Agree ts r s) : Agree (orTaints ts us) r s :=
  h.weaken fun i hi => (Bool.or_eq_false_iff.mp (getD_orTaints ts us i ▸ hi)).1

theorem agree_orTaints_right (h : Agree us r s) : Agree (orTaints ts us) r s :=
  h.weaken fun i hi => (Bool.or_eq_false_iff.mp (getD_orTaints ts us i ▸ hi)).2

variable [DecidableEq V]

/-- Sort keys are equal, outputs agree. -/
def FinishAgree (ts : List Bool) (x y : Row V × Row V) : Prop := x.1 = y.1 ∧ Agree ts x.2 y.2

theorem finish_agree {distinct ordered : Bool} {slice : Slice} {xs ys : List (Row V × Row V)}
    (h : Forall₂ (FinishAgree ts) xs ys) (hdistinct : (distinct && ts.any id) = false) :
    Forall₂ (Agree ts) (finish distinct ordered slice xs) (finish distinct ordered slice ys) := by
  have hdedup : Forall₂ (FinishAgree ts) (if distinct then dedupOn Prod.snd xs else xs)
      (if distinct then dedupOn Prod.snd ys else ys) := by
    cases distinct with
    | false => exact h
    | true => exact forall₂_dedupOn h fun _ _ hxy => hxy.2.eq hdistinct
  have hsort : Forall₂ (FinishAgree ts)
      (if ordered then sortOn (Domain.le slice.descending) Prod.fst
          (if distinct then dedupOn Prod.snd xs else xs)
        else (if distinct then dedupOn Prod.snd xs else xs))
      (if ordered then sortOn (Domain.le slice.descending) Prod.fst
          (if distinct then dedupOn Prod.snd ys else ys)
        else (if distinct then dedupOn Prod.snd ys else ys)) := by
    cases ordered with
    | false => exact hdedup
    | true => exact forall₂_sortOn hdedup fun _ _ hxy => hxy.1
  have hdrop := forall₂_drop slice.offset (forall₂_map hsort fun _ _ hxy => hxy.2)
  unfold finish
  cases slice.limit with
  | none => exact hdrop
  | some n => exact forall₂_take n hdrop

theorem apply_agree {op : SetOperator} {all : Bool} {xs xs' ys ys' : List (Row V)}
    (h : Forall₂ (Agree ts) xs ys) (h' : Forall₂ (Agree us) xs' ys')
    (hclean : (op.compares all && (orTaints ts us).any id) = false) :
    Forall₂ (Agree (orTaints ts us)) (op.apply all xs xs') (op.apply all ys ys') := by
  replace h : Forall₂ (Agree (orTaints ts us)) xs ys := h.imp fun _ _ hr => agree_orTaints_left hr
  replace h' : Forall₂ (Agree (orTaints ts us)) xs' ys' :=
    h'.imp fun _ _ hr => agree_orTaints_right hr
  cases hcompares : op.compares all with
  | false =>
      simp only [SetOperator.compares, Bool.not_eq_false', Bool.and_eq_true,
        decide_eq_true_eq] at hcompares
      obtain ⟨rfl, rfl⟩ := hcompares
      exact forall₂_append h h'
  | true =>
      rw [hcompares, Bool.true_and] at hclean
      rw [eq_of_forall₂_agree h hclean, eq_of_forall₂_agree h' hclean]
      exact forall₂_same.mpr fun _ _ => Agree.refl _

section Join

variable {left right : Frame} {shared : List (String × Nat × Nat)}

theorem combine_agree (h : Agree ts r s) (h' : Agree us r' s') :
    Agree (combineTaints left right shared ts us) (combine left right shared r r')
      (combine left right shared s s') := by
  rw [combineTaints, combine, combine]
  refine Agree.append (Agree.append (h.fit _) (by simp [fit]) (h'.fit _)) (by simp [fit])
    (Agree.map fun x _ hx => ?_)
  obtain ⟨hl, hr⟩ := Bool.or_eq_false_iff.mp hx
  rw [h.values _ hl, h'.values _ hr]

omit [DecidableEq V] in
theorem sharedEqual_agree (h : Agree ts r s) (hclean : sharedTainted left shared ts = false) :
    sharedEqual left shared r = sharedEqual left shared s := by
  refine all_congr_mem fun x hx => ?_
  have hpair := List.any_eq_false.mp hclean x hx
  simp only [Bool.or_eq_true, not_or, Bool.not_eq_true] at hpair
  rw [h.values _ hpair.1, h.values _ hpair.2]

end Join

end Agreement

/-! ## Two runs -/

section Runs

variable {V : Type} [Domain V] {catalog : Catalog}

/-- The databases have the same rows but for the values of hidden columns. -/
def SameExcept (hidden : String → Bool) (d₁ d₂ : Database V catalog) : Prop :=
  ∀ db name, Forall₂ (fun r s => ∀ i c, (catalog db name)[i]? = some c → hidden c = false →
    r.getD i null = s.getD i null) (d₁.rows db name) (d₂.rows db name)

variable {labels : Labels} {d₁ d₂ : Database V catalog}

theorem SameExcept.agree {hidden : String → Bool} (h : SameExcept hidden d₁ d₂)
    (db : Option String) (name : String) :
    Forall₂ (Agree ((catalog db name).map hidden)) (d₁.rows db name) (d₂.rows db name) := by
  obtain ⟨hlength, hrows⟩ := forall₂_iff_zip.mp (h db name)
  refine forall₂_iff_zip.mpr ⟨hlength, fun {r s} hmem => ?_⟩
  obtain ⟨hr, hs⟩ := List.of_mem_zip hmem
  replace hr := d₁.width db name r hr
  replace hs := d₂.width db name s hs
  refine ⟨hr.trans hs.symm, fun i hi => ?_⟩
  simp only [List.getD_eq_getElem?_getD, List.getElem?_map] at hi
  cases hcolumn : (catalog db name)[i]? with
  | none =>
      rw [List.getElem?_eq_none_iff] at hcolumn
      rw [List.getD_eq_default _ _ (by omega), List.getD_eq_default _ _ (by omega)]
  | some c =>
      rw [hcolumn] at hi
      exact hrows hmem i c hcolumn hi

/-- What two runs under one analysis share. -/
structure Observed (labels : Labels) (d₁ d₂ : Database V catalog) : Prop where
  funcHeader : labels.funcHeader = Domain.funcHeader V
  same : SameExcept labels.hidden d₁ d₂

/-- The rewriting the analysis is about. -/
def Labels.rewriting (labels : Labels) : Rewriting := nullColumns labels.nulled

/-- The rewriting leaves what names an output as `nulledKey` says. -/
theorem orderOutput?_rewrite (headers : List String) (e : Expr) :
    orderOutput? headers (e.rewrite labels.rewriting) =
      orderOutput? headers (nulledKey labels e) := by
  cases e with
  | column t n => by_cases hn : labels.nulled n <;> simp [Expr.rewrite, nulledKey, hn,
      Labels.rewriting, nullColumns]
  | _ => rfl

theorem groupOutput?_rewrite (headers : List String) (frame : Frame) (e : Expr) :
    groupOutput? headers frame (e.rewrite labels.rewriting) =
      groupOutput? headers frame (nulledKey labels e) := by
  cases e with
  | column t n => by_cases hn : labels.nulled n <;> simp [Expr.rewrite, nulledKey, hn,
      Labels.rewriting, nullColumns]
  | _ => rfl

variable [DecidableEq V] {fuel : Nat} {shapes : Shapes} {ctes₁ ctes₂ : Ctes V}

/-- One join of two runs. -/
theorem SourceAgree.denoteJoin {left : SourceShape} {x y : Frame × List (Row V)}
    {frames : List Frame} {taints : List (List Bool)} {env₁ env₂ : List (Row V)} {s : Source}
    {on : Option Expr} (h : SourceAgree left x y) (henv : EnvAgree taints env₁ env₂)
    (hright : SourceAgree (flowSource labels catalog fuel shapes frames taints s)
      (denoteSource d₁ fuel ctes₁ frames env₁ (s.rewrite labels.rewriting))
      (denoteSource d₂ fuel ctes₂ frames env₂ (s.rewrite labels.rewriting)))
    (hon : ∀ frames taints env₁ env₂, EnvAgree taints env₁ env₂ →
      flowOption labels catalog fuel shapes frames taints on = false →
        holds d₁ fuel ctes₁ frames env₁ [] (Expr.rewriteOption labels.rewriting on) =
          holds d₂ fuel ctes₂ frames env₂ [] (Expr.rewriteOption labels.rewriting on))
    (kind : JoinKind) (matching : Matching) :
    SourceAgree (flowJoin labels catalog fuel shapes frames taints left (.join kind s on matching))
      (Sql.denoteJoin d₁ fuel ctes₁ frames env₁ x (.join kind (s.rewrite labels.rewriting)
        (Expr.rewriteOption labels.rewriting on) matching))
      (Sql.denoteJoin d₂ fuel ctes₂ frames env₂ y (.join kind (s.rewrite labels.rewriting)
        (Expr.rewriteOption labels.rewriting on) matching)) := by
  simp only [flowJoin, Sql.denoteJoin, h.left, h.right, hright.left, hright.right]
  refine ⟨rfl, rfl, fun hclean => ?_⟩
  simp only [Bool.or_eq_false_iff] at hclean
  obtain ⟨⟨⟨hl, hr⟩, hshared⟩, hcondition⟩ := hclean
  refine forall₂_join (h.rows hl) (hright.rows hr) (Agree.refl []) (Agree.refl [])
    (fun _ _ _ _ hl hr => combine_agree hl hr) fun r s hrow => ?_
  rw [sharedEqual_agree hrow hshared, hon _ _ _ _ (henv.cons hrow) hcondition]

omit [DecidableEq V] in
/-- The units of a `SELECT`: groups, or single rows. -/
theorem units_agree [DecidableEq V] {ts : List Bool} {xs ys : List (Row V)}
    {key₁ key₂ : Row V → Row V} (h : Forall₂ (Agree ts) xs ys) (grouped whole : Bool)
    (hkey : ∀ r s, Agree ts r s → key₁ r = key₂ s) :
    Forall₂ (Forall₂ (Agree ts))
      (if grouped then if whole then [xs] else groupOn key₁ xs else xs.map ([·]))
      (if grouped then if whole then [ys] else groupOn key₂ ys else ys.map ([·])) := by
  cases grouped with
  | false => exact forall₂_map h fun _ _ hr => .cons hr .nil
  | true =>
      cases whole with
      | true => exact .cons h .nil
      | false => exact forall₂_groupOn h hkey

theorem where_rewriting (from_ : Option Source) (joins : List Join) (where_ : Option Expr) :
    labels.rewriting.where_ from_ joins where_ = where_ :=
  rfl

theorem rewrite_item_some (e : Expr) (a : Identifier) :
    (Projection.item e (some a)).rewrite labels.rewriting =
      .item (e.rewrite labels.rewriting) (some a) := by
  cases e <;> rfl

/-- A projection that is not a bare column reference. -/
theorem rewrite_item_none {e : Expr} (h : ∀ t n, e ≠ .column t n) :
    (Projection.item e none).rewrite labels.rewriting =
      .item (e.rewrite labels.rewriting) none := by
  cases e with
  | column t n => exact absurd rfl (h t n)
  | _ => rfl

theorem flowProject_item_none {e : Expr} (h : ∀ t n, e ≠ .column t n) {frames : List Frame}
    {taints : List (List Bool)} :
    flowProject labels catalog fuel shapes frames taints (.item e none) =
      [(flowHeader labels catalog fuel shapes frames taints e,
        flowExpr labels catalog fuel shapes frames taints e)] := by
  cases e with
  | column t n => exact absurd rfl (h t n)
  | _ => rfl

omit [DecidableEq V] in
/-- The empty tables of a recursive clause. -/
theorem start_agree (labels : Labels) (cs : List Cte) :
    CtesAgree (cs.map Cte.startShape)
      ((Cte.rewriteList labels.rewriting cs).map (Cte.start (V := V)))
      ((Cte.rewriteList labels.rewriting cs).map Cte.start) := by
  induction cs with
  | nil => exact .nil
  | cons c cs ih =>
      obtain ⟨name, columns, q⟩ := c
      exact .cons ⟨rfl, rfl, fun _ => .nil⟩ ih

mutual

/-- **Expressions**: one header in both runs, and one value unless it is
tainted. -/
theorem Expr.flow_sound (hruns : Observed labels d₁ d₂) {shapes : Shapes} {ctes₁ ctes₂ : Ctes V}
    (hctes : CtesAgree shapes ctes₁ ctes₂) :
    ∀ (e : Expr) frames taints env₁ env₂, EnvAgree taints env₁ env₂ →
    (headerOf d₁ fuel ctes₁ frames env₁ (e.rewrite labels.rewriting) =
        flowHeader labels catalog fuel shapes frames taints e ∧
      headerOf d₂ fuel ctes₂ frames env₂ (e.rewrite labels.rewriting) =
        flowHeader labels catalog fuel shapes frames taints e) ∧
    (flowExpr labels catalog fuel shapes frames taints e = false → ∀ group₁ group₂,
      Forall₂ (Agree (taints.getD 0 [])) group₁ group₂ →
        denoteExpr d₁ fuel ctes₁ frames env₁ group₁ (e.rewrite labels.rewriting) =
          denoteExpr d₂ fuel ctes₂ frames env₂ group₂ (e.rewrite labels.rewriting))
  | .column t n => by
      intro frames taints env₁ env₂ henv
      cases hn : labels.nulled n with
      | true =>
          simp only [Expr.rewrite, Labels.rewriting, nullColumns, hn, if_true, Option.getD_some,
            headerOf, flowHeader, denoteExpr, and_self, implies_true]
      | false =>
          simp only [Expr.rewrite, Labels.rewriting, nullColumns, hn, Bool.false_eq_true, if_false,
            Option.getD_none, headerOf, flowHeader, denoteExpr, flowExpr, and_self, true_and,
            Bool.not_false, Bool.true_and]
          exact fun hclean _ _ _ => henv.reference hclean
  | .literal _ => by
      intro frames taints env₁ env₂ henv
      simp only [Expr.rewrite, headerOf, flowHeader, denoteExpr, and_self, implies_true]
  | .func f args => by
      intro frames taints env₁ env₂ henv
      obtain ⟨hheaders, hvalues⟩ :=
        Expr.flow_soundList hruns hctes args frames taints env₁ env₂ henv
      simp only [Expr.rewrite, headerOf, flowHeader, denoteExpr, flowExpr, hheaders.1, hheaders.2,
        hruns.funcHeader, and_self, true_and]
      exact fun hclean _ _ hgroup => by rw [hvalues hclean _ _ hgroup]
  | .eq l r => by
      intro frames taints env₁ env₂ henv
      have hl := (Expr.flow_sound hruns hctes l frames taints env₁ env₂ henv).2
      have hr := (Expr.flow_sound hruns hctes r frames taints env₁ env₂ henv).2
      simp only [Expr.rewrite, headerOf, flowHeader, denoteExpr, flowExpr, Bool.or_eq_false_iff,
        and_self, true_and]
      exact fun hclean _ _ hgroup => by rw [hl hclean.1 _ _ hgroup, hr hclean.2 _ _ hgroup]
  | .and_ l r => by
      intro frames taints env₁ env₂ henv
      have hl := (Expr.flow_sound hruns hctes l frames taints env₁ env₂ henv).2
      have hr := (Expr.flow_sound hruns hctes r frames taints env₁ env₂ henv).2
      simp only [Expr.rewrite, headerOf, flowHeader, denoteExpr, flowExpr, Bool.or_eq_false_iff,
        and_self, true_and]
      exact fun hclean _ _ hgroup => by rw [hl hclean.1 _ _ hgroup, hr hclean.2 _ _ hgroup]
  | .aggregate f args => by
      intro frames taints env₁ env₂ henv
      simp only [Expr.rewrite, headerOf, flowHeader, denoteExpr, flowExpr, and_self, true_and]
      intro hclean group₁ group₂ hgroup
      -- the arguments are evaluated on each row of the group in turn
      congr 1
      refine forall₂_map_eq hgroup fun r s hrow => ?_
      exact (Expr.flow_soundList hruns hctes args frames taints _ _ (henv.replace hrow)).2
        hclean [] [] .nil
  | .scalar q => by
      intro frames taints env₁ env₂ henv
      have hq := Query.flow_sound hruns hctes q frames taints env₁ env₂ henv
      simp only [Expr.rewrite, headerOf, flowHeader, denoteExpr, flowExpr, hq.left, hq.right,
        Bool.or_eq_false_iff, and_self, true_and]
      exact fun hclean _ _ _ =>
        (forall₂_headD (hq.rows hclean.1) (Agree.refl [])).head hclean.2
  | .exists_ q => by
      intro frames taints env₁ env₂ henv
      have hq := Query.flow_sound hruns hctes q frames taints env₁ env₂ henv
      simp only [Expr.rewrite, headerOf, flowHeader, denoteExpr, flowExpr, and_self, true_and]
      exact fun hclean _ _ _ => by rw [forall₂_isEmpty (hq.rows hclean)]
  | .in_ e q => by
      intro frames taints env₁ env₂ henv
      have he := (Expr.flow_sound hruns hctes e frames taints env₁ env₂ henv).2
      have hq := Query.flow_sound hruns hctes q frames taints env₁ env₂ henv
      simp only [Expr.rewrite, headerOf, flowHeader, denoteExpr, flowExpr, Bool.or_eq_false_iff,
        and_self, true_and]
      exact fun hclean _ _ hgroup => by
        rw [he hclean.1.1 _ _ hgroup,
          forall₂_map_eq (hq.rows hclean.1.2) fun _ _ hrow => hrow.head hclean.2]

theorem Expr.flow_soundList (hruns : Observed labels d₁ d₂) {shapes : Shapes} {ctes₁ ctes₂ : Ctes V}
    (hctes : CtesAgree shapes ctes₁ ctes₂) :
    ∀ (es : List Expr) frames taints env₁ env₂, EnvAgree taints env₁ env₂ →
    (headersOf d₁ fuel ctes₁ frames env₁ (Expr.rewriteList labels.rewriting es) =
        flowHeaders labels catalog fuel shapes frames taints es ∧
      headersOf d₂ fuel ctes₂ frames env₂ (Expr.rewriteList labels.rewriting es) =
        flowHeaders labels catalog fuel shapes frames taints es) ∧
    (flowExprs labels catalog fuel shapes frames taints es = false → ∀ group₁ group₂,
      Forall₂ (Agree (taints.getD 0 [])) group₁ group₂ →
        denoteExprs d₁ fuel ctes₁ frames env₁ group₁ (Expr.rewriteList labels.rewriting es) =
          denoteExprs d₂ fuel ctes₂ frames env₂ group₂ (Expr.rewriteList labels.rewriting es))
  | [] => by
      intro frames taints env₁ env₂ henv
      simp only [Expr.rewriteList, headersOf, flowHeaders, denoteExprs, and_self, implies_true]
  | e :: es => by
      intro frames taints env₁ env₂ henv
      obtain ⟨hheader, hvalue⟩ := Expr.flow_sound hruns hctes e frames taints env₁ env₂ henv
      obtain ⟨hheaders, hvalues⟩ :=
        Expr.flow_soundList hruns hctes es frames taints env₁ env₂ henv
      simp only [Expr.rewriteList, headersOf, flowHeaders, denoteExprs, flowExprs, hheader.1,
        hheader.2, hheaders.1, hheaders.2, Bool.or_eq_false_iff, and_self, true_and]
      exact fun hclean _ _ hgroup => by
        rw [hvalue hclean.1 _ _ hgroup, hvalues hclean.2 _ _ hgroup]

theorem Expr.flow_soundOption (hruns : Observed labels d₁ d₂) {shapes : Shapes}
    {ctes₁ ctes₂ : Ctes V} (hctes : CtesAgree shapes ctes₁ ctes₂) :
    ∀ (e : Option Expr) frames taints env₁ env₂, EnvAgree taints env₁ env₂ →
    flowOption labels catalog fuel shapes frames taints e = false → ∀ group₁ group₂,
      Forall₂ (Agree (taints.getD 0 [])) group₁ group₂ →
        holds d₁ fuel ctes₁ frames env₁ group₁ (Expr.rewriteOption labels.rewriting e) =
          holds d₂ fuel ctes₂ frames env₂ group₂ (Expr.rewriteOption labels.rewriting e)
  | none => fun _ _ _ _ _ _ _ _ _ => rfl
  | some e => fun frames taints env₁ env₂ henv hclean group₁ group₂ hgroup => by
      simp only [Expr.rewriteOption, holds]
      rw [(Expr.flow_sound hruns hctes e frames taints env₁ env₂ henv).2 hclean _ _ hgroup]

theorem Expr.flow_soundGroup (hruns : Observed labels d₁ d₂) {shapes : Shapes}
    {ctes₁ ctes₂ : Ctes V} (hctes : CtesAgree shapes ctes₁ ctes₂) :
    ∀ (es : List Expr) frames taints env₁ env₂, EnvAgree taints env₁ env₂ →
    ∀ headers columns outputs₁ outputs₂, Agree columns outputs₁ outputs₂ →
    flowGroupKey labels catalog fuel shapes frames taints headers columns es = false →
      groupKey d₁ fuel ctes₁ frames env₁ headers outputs₁
          (Expr.rewriteList labels.rewriting es) =
        groupKey d₂ fuel ctes₂ frames env₂ headers outputs₂
          (Expr.rewriteList labels.rewriting es)
  | [] => fun _ _ _ _ _ _ _ _ _ _ _ => rfl
  | e :: es => by
      intro frames taints env₁ env₂ henv headers columns outputs₁ outputs₂ houtputs hclean
      simp only [flowGroupKey, Bool.or_eq_false_iff] at hclean
      simp only [Expr.rewriteList, groupKey, groupOutput?_rewrite]
      rw [Expr.flow_soundGroup hruns hctes es frames taints env₁ env₂ henv headers columns
        outputs₁ outputs₂ houtputs hclean.2]
      congr 1
      cases houtput : groupOutput? headers (frames.headD Frame.empty) (nulledKey labels e) with
      | some i => exact houtputs.values i (by simpa only [houtput] using hclean.1)
      | none =>
          exact (Expr.flow_sound hruns hctes e frames taints env₁ env₂ henv).2
            (by simpa only [houtput] using hclean.1) [] [] .nil

theorem Expr.flow_soundOrder (hruns : Observed labels d₁ d₂) {shapes : Shapes}
    {ctes₁ ctes₂ : Ctes V} (hctes : CtesAgree shapes ctes₁ ctes₂) :
    ∀ (es : List Expr) frames taints env₁ env₂, EnvAgree taints env₁ env₂ →
    ∀ headers columns outputs₁ outputs₂, Agree columns outputs₁ outputs₂ →
    flowOrderKey labels catalog fuel shapes frames taints headers columns es = false →
    ∀ group₁ group₂, Forall₂ (Agree (taints.getD 0 [])) group₁ group₂ →
      orderKey d₁ fuel ctes₁ frames env₁ group₁ headers outputs₁
          (Expr.rewriteList labels.rewriting es) =
        orderKey d₂ fuel ctes₂ frames env₂ group₂ headers outputs₂
          (Expr.rewriteList labels.rewriting es)
  | [] => fun _ _ _ _ _ _ _ _ _ _ _ _ _ _ => rfl
  | e :: es => by
      intro frames taints env₁ env₂ henv headers columns outputs₁ outputs₂ houtputs hclean group₁
        group₂ hgroup
      simp only [flowOrderKey, Bool.or_eq_false_iff] at hclean
      simp only [Expr.rewriteList, orderKey, orderOutput?_rewrite]
      rw [Expr.flow_soundOrder hruns hctes es frames taints env₁ env₂ henv headers columns
        outputs₁ outputs₂ houtputs hclean.2 group₁ group₂ hgroup]
      congr 1
      cases houtput : orderOutput? headers (nulledKey labels e) with
      | some i => exact houtputs.values i (by simpa only [houtput] using hclean.1)
      | none =>
          exact (Expr.flow_sound hruns hctes e frames taints env₁ env₂ henv).2
            (by simpa only [houtput] using hclean.1) group₁ group₂ hgroup

/-- **Projections**: the outputs of the shape, in both runs. -/
theorem Projection.flow_sound (hruns : Observed labels d₁ d₂) {shapes : Shapes}
    {ctes₁ ctes₂ : Ctes V} (hctes : CtesAgree shapes ctes₁ ctes₂) :
    ∀ (p : Projection) frames taints env₁ env₂, EnvAgree taints env₁ env₂ →
    (projectHeaders d₁ fuel ctes₁ frames env₁ (p.rewrite labels.rewriting) =
        (flowProject labels catalog fuel shapes frames taints p).map Prod.fst ∧
      projectHeaders d₂ fuel ctes₂ frames env₂ (p.rewrite labels.rewriting) =
        (flowProject labels catalog fuel shapes frames taints p).map Prod.fst) ∧
    ∀ group₁ group₂, Forall₂ (Agree (taints.getD 0 [])) group₁ group₂ →
      (flowProject labels catalog fuel shapes frames taints p).length =
          (project d₁ fuel ctes₁ frames env₁ group₁ (p.rewrite labels.rewriting)).length ∧
        Agree ((flowProject labels catalog fuel shapes frames taints p).map Prod.snd)
          (project d₁ fuel ctes₁ frames env₁ group₁ (p.rewrite labels.rewriting))
          (project d₂ fuel ctes₂ frames env₂ group₂ (p.rewrite labels.rewriting))
  | .star => by
      intro frames taints env₁ env₂ henv
      simp only [Projection.rewrite, projectHeaders, flowProject, project]
      refine ⟨by simp [fieldTaints], fun _ _ _ => ⟨by simp [fieldTaints, fieldValues], ?_⟩⟩
      exact henv.fieldValues 0 _
  | .tableStar t => by
      intro frames taints env₁ env₂ henv
      cases hn : labels.nulled ⟨"*", false⟩ with
      | true =>
          have hrewrite : (Projection.tableStar t).rewrite labels.rewriting =
              .item (.literal .null) (some ⟨"*", false⟩) := by
            simp [Projection.rewrite, Labels.rewriting, nullColumns, hn]
          simp only [hrewrite, projectHeaders, flowProject, hn, if_true, project, denoteExpr]
          exact ⟨⟨rfl, rfl⟩, fun _ _ _ => ⟨rfl, Agree.refl _⟩⟩
      | false =>
          have hrewrite : (Projection.tableStar t).rewrite labels.rewriting = .tableStar t := by
            simp [Projection.rewrite, Labels.rewriting, nullColumns, hn]
          simp only [hrewrite, projectHeaders, flowProject, hn, Bool.false_eq_true, if_false,
            project]
          cases tableFields frames t with
          | none => exact ⟨⟨rfl, rfl⟩, fun _ _ _ => ⟨rfl, Agree.refl _⟩⟩
          | some found =>
              refine ⟨by simp [fieldTaints], fun _ _ _ =>
                ⟨by simp [fieldTaints, fieldValues], henv.fieldValues _ _⟩⟩
  | .item e (some a) => by
      intro frames taints env₁ env₂ henv
      have hvalue := (Expr.flow_sound hruns hctes e frames taints env₁ env₂ henv).2
      simp only [rewrite_item_some, projectHeaders, flowProject, project]
      exact ⟨⟨rfl, rfl⟩, fun _ _ hgroup =>
        ⟨rfl, Agree.single fun hclean => hvalue hclean _ _ hgroup⟩⟩
  | .item e none => by
      intro frames taints env₁ env₂ henv
      obtain ⟨hheader, hvalue⟩ := Expr.flow_sound hruns hctes e frames taints env₁ env₂ henv
      by_cases hcolumn : ∃ t n, e = .column t n
      · obtain ⟨t, n, rfl⟩ := hcolumn
        cases hn : labels.nulled n with
        | true =>
            have hrewrite : (Projection.item (.column t n) none).rewrite labels.rewriting =
                .item (.literal .null) (some ⟨n.name, false⟩) := by
              simp [Projection.rewrite, Labels.rewriting, nullColumns, hn]
            simp only [hrewrite, projectHeaders, flowProject, hn, if_true, project, denoteExpr]
            exact ⟨⟨rfl, rfl⟩, fun _ _ _ => ⟨rfl, Agree.refl _⟩⟩
        | false =>
            have hrewrite : (Projection.item (.column t n) none).rewrite labels.rewriting =
                .item (.column t n) none := by
              simp [Projection.rewrite, Labels.rewriting, nullColumns, hn]
            simp only [hrewrite, projectHeaders, flowProject, hn, Bool.false_eq_true, if_false,
              project, headerOf, denoteExpr]
            exact ⟨⟨rfl, rfl⟩, fun _ _ _ => ⟨rfl, Agree.single fun hclean =>
              henv.reference hclean⟩⟩
      · have hother : ∀ t n, e ≠ .column t n := fun t n h => hcolumn ⟨t, n, h⟩
        simp only [rewrite_item_none hother, flowProject_item_none hother, projectHeaders, project,
          hheader.1, hheader.2]
        exact ⟨⟨rfl, rfl⟩, fun _ _ hgroup =>
          ⟨rfl, Agree.single fun hclean => hvalue hclean _ _ hgroup⟩⟩

theorem Projection.flow_soundList (hruns : Observed labels d₁ d₂) {shapes : Shapes}
    {ctes₁ ctes₂ : Ctes V} (hctes : CtesAgree shapes ctes₁ ctes₂) :
    ∀ (ps : List Projection) frames taints env₁ env₂, EnvAgree taints env₁ env₂ →
    (projectAllHeaders d₁ fuel ctes₁ frames env₁ (Projection.rewriteList labels.rewriting ps) =
        (flowProjectAll labels catalog fuel shapes frames taints ps).map Prod.fst ∧
      projectAllHeaders d₂ fuel ctes₂ frames env₂ (Projection.rewriteList labels.rewriting ps) =
        (flowProjectAll labels catalog fuel shapes frames taints ps).map Prod.fst) ∧
    ∀ group₁ group₂, Forall₂ (Agree (taints.getD 0 [])) group₁ group₂ →
      Agree ((flowProjectAll labels catalog fuel shapes frames taints ps).map Prod.snd)
        (projectAll d₁ fuel ctes₁ frames env₁ group₁
          (Projection.rewriteList labels.rewriting ps))
        (projectAll d₂ fuel ctes₂ frames env₂ group₂
          (Projection.rewriteList labels.rewriting ps))
  | [] => fun _ _ _ _ _ => ⟨⟨rfl, rfl⟩, fun _ _ _ => Agree.refl _⟩
  | p :: ps => by
      intro frames taints env₁ env₂ henv
      obtain ⟨hheader, hvalue⟩ := Projection.flow_sound hruns hctes p frames taints env₁ env₂ henv
      obtain ⟨hheaders, hvalues⟩ :=
        Projection.flow_soundList hruns hctes ps frames taints env₁ env₂ henv
      simp only [Projection.rewriteList, projectAllHeaders, flowProjectAll, projectAll,
        List.map_append, hheader.1, hheader.2, hheaders.1, hheaders.2, and_self, true_and]
      intro group₁ group₂ hgroup
      obtain ⟨hlength, hagree⟩ := hvalue group₁ group₂ hgroup
      exact hagree.append (by rw [List.length_map, hlength]) (hvalues group₁ group₂ hgroup)

/-- **Queries** have results of their shape. -/
theorem Query.flow_sound (hruns : Observed labels d₁ d₂) {shapes : Shapes} {ctes₁ ctes₂ : Ctes V}
    (hctes : CtesAgree shapes ctes₁ ctes₂) :
    ∀ (q : Query) frames taints env₁ env₂, EnvAgree taints env₁ env₂ →
    TableAgree (flowQuery labels catalog fuel shapes frames taints q)
      (denoteQuery d₁ fuel ctes₁ frames env₁ (q.rewrite labels.rewriting))
      (denoteQuery d₂ fuel ctes₂ frames env₂ (q.rewrite labels.rewriting))
  | .select distinct expressions from_ joins where_ group having order slice => by
      intro frames taints env₁ env₂ henv
      have hsource := Join.flow_sound hruns hctes joins frames taints env₁ env₂ henv
        (Source.flow_soundOption hruns hctes from_ frames taints env₁ env₂ henv)
      simp only [Query.rewrite, denoteQuery, flowQuery, where_rewriting]
      generalize flowJoins labels catalog fuel shapes frames taints
        (flowFrom labels catalog fuel shapes frames taints from_) joins = source at hsource ⊢
      rcases hx : denoteJoins d₁ fuel ctes₁ frames env₁ (denoteFrom d₁ fuel ctes₁ frames env₁
        (Source.rewriteOption labels.rewriting from_)) (Join.rewriteList labels.rewriting joins)
        with ⟨frame₁, rows₁⟩
      rcases hy : denoteJoins d₂ fuel ctes₂ frames env₂ (denoteFrom d₂ fuel ctes₂ frames env₂
        (Source.rewriteOption labels.rewriting from_)) (Join.rewriteList labels.rewriting joins)
        with ⟨frame₂, rows₂⟩
      rw [hx, hy] at hsource
      obtain rfl : frame₁ = source.frame := hsource.left
      obtain rfl : frame₂ = source.frame := hsource.right
      have houtputs := fun (r s : Row V) (hrow : Agree source.columns r s) =>
        Projection.flow_soundList hruns hctes expressions (source.frame :: frames)
          (source.columns :: taints) (r :: env₁) (s :: env₂) (henv.cons hrow)
      obtain ⟨hheaders₁, hheaders₂⟩ := (houtputs [] [] (Agree.refl [])).1
      refine ⟨hheaders₁, hheaders₂, fun hclean => ?_⟩
      simp only [Bool.or_eq_false_iff] at hclean
      obtain ⟨⟨⟨⟨⟨hrows, hwhere⟩, hgroup⟩, hhaving⟩, horder⟩, hdistinct⟩ := hclean
      simp only [hheaders₁, hheaders₂]
      have hkept := forall₂_filter (hsource.rows hrows) fun r s hrow =>
        Expr.flow_soundOption hruns hctes where_ _ _ _ _ (henv.cons hrow) hwhere [] [] .nil
      have hunits := units_agree hkept (isGrouped (Projection.rewriteList labels.rewriting
        expressions) (Expr.rewriteList labels.rewriting group) (Expr.rewriteOption labels.rewriting
        having) (Expr.rewriteList labels.rewriting order))
        (Expr.rewriteList labels.rewriting group).isEmpty fun r s hrow =>
          Expr.flow_soundGroup hruns hctes group _ _ _ _ (henv.cons hrow) _ _ _ _
            ((houtputs r s hrow).2 [r] [s] (.cons hrow .nil)) hgroup
      have hhead := fun (unit unit' : List (Row V))
          (hunit : Forall₂ (Agree source.columns) unit unit') =>
        forall₂_headD hunit (Agree.refl [])
      refine finish_agree (forall₂_map (forall₂_filter hunits fun unit unit' hunit => ?_)
        fun unit unit' hunit => ⟨?_, ?_⟩) hdistinct
      · exact Expr.flow_soundOption hruns hctes having _ _ _ _ (henv.cons (hhead _ _ hunit))
          hhaving unit unit' hunit
      · exact Expr.flow_soundOrder hruns hctes order _ _ _ _ (henv.cons (hhead _ _ hunit)) _ _ _ _
          ((houtputs _ _ (hhead _ _ hunit)).2 unit unit' hunit) horder unit unit' hunit
      · exact (houtputs _ _ (hhead _ _ hunit)).2 unit unit' hunit
  | .setOperation op all l r order slice => by
      intro frames taints env₁ env₂ henv
      have hl := Query.flow_sound hruns hctes l frames taints env₁ env₂ henv
      have hr := Query.flow_sound hruns hctes r frames taints env₁ env₂ henv
      simp only [Query.rewrite, denoteQuery, flowQuery, hl.left, hl.right, hr.left, hr.right]
      refine ⟨rfl, rfl, fun hclean => ?_⟩
      by_cases hsame : (flowQuery labels catalog fuel shapes frames taints l).headers.length =
        (flowQuery labels catalog fuel shapes frames taints r).headers.length
      · simp only [hsame, decide_true, Bool.true_and, if_true, Bool.or_eq_false_iff] at hclean ⊢
        obtain ⟨⟨hleft, hright, hcompares⟩, horder⟩ := hclean
        refine finish_agree (forall₂_map (apply_agree (hl.rows hleft) (hr.rows hright) hcompares)
          fun r s hrow => ⟨?_, hrow⟩) rfl
        exact Expr.flow_soundOrder hruns hctes order frames taints env₁ env₂ henv _ _ _ _ hrow
          horder [] [] .nil
      · simp only [hsame, decide_false, Bool.false_and, Bool.or_false, Bool.false_eq_true, if_false,
          Bool.or_eq_false_iff] at hclean ⊢
        refine finish_agree (forall₂_map (hl.rows hclean.1) fun r s hrow => ⟨?_, hrow⟩) rfl
        exact Expr.flow_soundOrder hruns hctes order frames taints env₁ env₂ henv _ _ _ _ hrow
          hclean.2 [] [] .nil
  | .with_ recursive cs q => by
      intro frames taints env₁ env₂ henv
      simp only [Query.rewrite, denoteQuery, flowQuery]
      cases recursive with
      | false =>
          exact Query.flow_sound hruns (Cte.flow_sound hruns hctes cs frames taints env₁ env₂ henv)
            q frames taints env₁ env₂ henv
      | true =>
          have hrounds := (start_agree labels cs).iterate (fun _ _ _ h =>
            Cte.flow_soundTogether hruns (h.append hctes) cs frames taints env₁ env₂ henv) fuel
          exact Query.flow_sound hruns (hrounds.append hctes) q frames taints env₁ env₂ henv
  | .subquery q => Query.flow_sound hruns hctes q

theorem Cte.flow_sound (hruns : Observed labels d₁ d₂) {shapes : Shapes} {ctes₁ ctes₂ : Ctes V}
    (hctes : CtesAgree shapes ctes₁ ctes₂) :
    ∀ (cs : List Cte) frames taints env₁ env₂, EnvAgree taints env₁ env₂ →
    CtesAgree (flowCtes labels catalog fuel shapes frames taints cs)
      (denoteCtes d₁ fuel ctes₁ frames env₁ (Cte.rewriteList labels.rewriting cs))
      (denoteCtes d₂ fuel ctes₂ frames env₂ (Cte.rewriteList labels.rewriting cs))
  | [] => fun _ _ _ _ _ => hctes
  | .cte name columns q :: cs => by
      intro frames taints env₁ env₂ henv
      have hq := Query.flow_sound hruns hctes q frames taints env₁ env₂ henv
      exact Cte.flow_sound hruns (.cons (hq.rename columns) hctes) cs frames taints env₁ env₂ henv

theorem Cte.flow_soundTogether (hruns : Observed labels d₁ d₂) {shapes : Shapes}
    {ctes₁ ctes₂ : Ctes V} (hctes : CtesAgree shapes ctes₁ ctes₂) :
    ∀ (cs : List Cte) frames taints env₁ env₂, EnvAgree taints env₁ env₂ →
    CtesAgree (flowCtesTogether labels catalog fuel shapes frames taints cs)
      (denoteCtesTogether d₁ fuel ctes₁ frames env₁ (Cte.rewriteList labels.rewriting cs))
      (denoteCtesTogether d₂ fuel ctes₂ frames env₂ (Cte.rewriteList labels.rewriting cs))
  | [] => fun _ _ _ _ _ => .nil
  | .cte name columns q :: cs => by
      intro frames taints env₁ env₂ henv
      have hq := Query.flow_sound hruns hctes q frames taints env₁ env₂ henv
      exact .cons (hq.rename columns)
        (Cte.flow_soundTogether hruns hctes cs frames taints env₁ env₂ henv)

/-- **Items of a `FROM` clause** have the scope of their shape. -/
theorem Source.flow_sound (hruns : Observed labels d₁ d₂) {shapes : Shapes} {ctes₁ ctes₂ : Ctes V}
    (hctes : CtesAgree shapes ctes₁ ctes₂) :
    ∀ (s : Source) frames taints env₁ env₂, EnvAgree taints env₁ env₂ →
    SourceAgree (flowSource labels catalog fuel shapes frames taints s)
      (denoteSource d₁ fuel ctes₁ frames env₁ (s.rewrite labels.rewriting))
      (denoteSource d₂ fuel ctes₂ frames env₂ (s.rewrite labels.rewriting))
  | .table db name as_ => by
      intro frames taints env₁ env₂ henv
      simp only [Source.rewrite, denoteSource, flowSource]
      rcases hctes.lookupCte db name with ⟨hshape, hleft, hright⟩ |
        ⟨shape, t₁, t₂, hshape, hleft, hright, ht⟩
      · simp only [hshape, hleft, hright]
        exact ⟨rfl, rfl, fun _ => hruns.same.agree _ _⟩
      · simp only [hshape, hleft, hright]
        exact ⟨by simp only [ht.left], by simp only [ht.right], ht.rows⟩
  | .derived q as_ => by
      intro frames taints env₁ env₂ henv
      have hq := Query.flow_sound hruns hctes q frames taints env₁ env₂ henv
      simp only [Source.rewrite, denoteSource, flowSource]
      exact ⟨by simp only [hq.left], by simp only [hq.right], hq.rows⟩
  | .paren s joins as_ => by
      intro frames taints env₁ env₂ henv
      have hs := Source.flow_sound hruns hctes s frames taints env₁ env₂ henv
      have hjoins := Join.flow_sound hruns hctes joins frames taints env₁ env₂ henv hs
      simp only [Source.rewrite, denoteSource, flowSource]
      exact ⟨by simp only [hjoins.left], by simp only [hjoins.right], hjoins.rows⟩

theorem Source.flow_soundOption (hruns : Observed labels d₁ d₂) {shapes : Shapes}
    {ctes₁ ctes₂ : Ctes V} (hctes : CtesAgree shapes ctes₁ ctes₂) :
    ∀ (s : Option Source) frames taints env₁ env₂, EnvAgree taints env₁ env₂ →
    SourceAgree (flowFrom labels catalog fuel shapes frames taints s)
      (denoteFrom d₁ fuel ctes₁ frames env₁ (Source.rewriteOption labels.rewriting s))
      (denoteFrom d₂ fuel ctes₂ frames env₂ (Source.rewriteOption labels.rewriting s))
  | none => fun _ _ _ _ _ => ⟨rfl, rfl, fun _ => .cons (Agree.refl []) .nil⟩
  | some s => Source.flow_sound hruns hctes s

theorem Join.flow_sound (hruns : Observed labels d₁ d₂) {shapes : Shapes} {ctes₁ ctes₂ : Ctes V}
    (hctes : CtesAgree shapes ctes₁ ctes₂) :
    ∀ (js : List Join) frames taints env₁ env₂, EnvAgree taints env₁ env₂ →
    ∀ {left x y}, SourceAgree left x y →
    SourceAgree (flowJoins labels catalog fuel shapes frames taints left js)
      (denoteJoins d₁ fuel ctes₁ frames env₁ x (Join.rewriteList labels.rewriting js))
      (denoteJoins d₂ fuel ctes₂ frames env₂ y (Join.rewriteList labels.rewriting js))
  | [] => fun _ _ _ _ _ _ _ _ h => h
  | .join kind s on matching :: js => by
      intro frames taints env₁ env₂ henv left x y h
      have hs := Source.flow_sound hruns hctes s frames taints env₁ env₂ henv
      refine Join.flow_sound hruns hctes js frames taints env₁ env₂ henv
        (h.denoteJoin henv hs (fun frames taints env₁ env₂ henv hclean => ?_) kind matching)
      exact Expr.flow_soundOption hruns hctes on frames taints env₁ env₂ henv hclean [] [] .nil

end

/-- **The analysis is sound**: two runs of the rewritten statement have
results of its shape. -/
theorem flow_sound (hruns : Observed labels d₁ d₂) (q : Query) :
    TableAgree (flow labels catalog fuel q) (execute d₁ fuel (q.rewrite labels.rewriting))
      (execute d₂ fuel (q.rewrite labels.rewriting)) :=
  Query.flow_sound hruns .nil q [] [] [] [] fun _ => Agree.refl []

end Runs

end DbGateway.Sql
