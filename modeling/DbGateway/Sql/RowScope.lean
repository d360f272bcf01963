import DbGateway.Sql.Rewrite
import DbGateway.Sql.Semantics
import DbGateway.Sql.Tables

/-!
# DbGateway.Sql.RowScope

`apply_row_restrictions`: every `SELECT` gets a predicate for each table among
its direct `FROM` and `JOIN` items.

A join that is filtered by predicates on some of its tables only depends on the
rows of those tables that pass (`Rows.filter_join_congr`), whatever kind of join
it is: a row extended with nulls fails them.  So a statement whose physical
tables all stand directly in a `FROM` clause, under a name the predicate still
means, reads no row outside the scope.
-/

namespace DbGateway.Sql

open Rows

/-! ## The rewrite -/

/-- What the rewriting functions raise. -/
inductive RewriteError where
  | permissionError (message : String)
  | valueError (message : String)
deriving DecidableEq

/-- The text a rewriting function returns: its argument as it stands, or a tree
printed by `sqlglot`. -/
inductive Statement where
  | unchanged (sql : String)
  | printed (tree : Query)

section Rewrite

variable [Python]

/-- The attribute a restriction needs, if the principal carries it. -/
def restrictionValue? (principal : Principal) (subjectAttribute : String) : Option String :=
  match principal.attributes.get? subjectAttribute with
  | none => none
  | some .null => none
  | some value => some value.toStr

/-- The literal each restricted column is compared with. -/
def resolveRestrictions (principal : Principal) :
    Dict String → Dict String → Except RewriteError (Dict String)
  | resolved, [] => .ok resolved
  | resolved, (column, subjectAttribute) :: restrictions =>
      match restrictionValue? principal subjectAttribute with
      | none => .error (.permissionError (attributeAbsent subjectAttribute))
      | some value => resolveRestrictions principal (resolved.set (lower column) value) restrictions

/-- `alias_or_name` -/
def aliasOrName (name : Identifier) (as_ : Option TableAlias) : Identifier :=
  match as_ with
  | some a => if a.name.name = "" then name else a.name
  | none => name

/-- What `scan` records of a direct item. -/
def Source.qualifier? : Source → Option String
  | .table _ name as_ =>
      let qualifier := (aliasOrName name as_).name
      if lower (strip name.name) = "" || qualifier = "" then none else some qualifier
  | .derived _ _ => none
  | .paren _ _ _ => none

def Join.source : Join → Source
  | .join _ s _ _ => s

/-- The qualifiers of `_row_scope_from_tables`, sorted. -/
def qualifiers (from_ : Option Source) (joins : List Join) : List String :=
  ((from_.toList ++ joins.map Join.source).filterMap Source.qualifier?).eraseDups.insertionSort
    (· ≤ ·)

/-- A clause's qualifiers are those of its direct items. -/
theorem mem_qualifiers {from_ : Option Source} {joins : List Join} {q : String} :
    q ∈ qualifiers from_ joins ↔
      ∃ s ∈ from_.toList ++ joins.map Join.source, s.qualifier? = some q := by
  rw [qualifiers, List.mem_insertionSort, List.mem_eraseDups, List.mem_filterMap]

variable [Sqlglot]

/-- `exp.EQ(this=exp.column(column, qualifier), expression=exp.Literal.string(value))` -/
def scopePredicate (column value qualifier : String) : Expr :=
  .eq (.column (some (Sqlglot.toIdentifier qualifier)) (Sqlglot.toIdentifier column))
    (.literal (.string value))

/-- The predicates a `SELECT` gets. -/
def scopePredicates (resolved : Dict String) (from_ : Option Source) (joins : List Join) :
    List Expr :=
  resolved.flatMap fun cv => (qualifiers from_ joins).map (scopePredicate cv.1 cv.2)

/-- Each predicate is conjoined to what is there. -/
def addPredicates (where_ : Option Expr) (predicates : List Expr) : Option Expr :=
  predicates.foldl (fun existing predicate =>
    match existing with
    | some e => some (.and_ e predicate)
    | none => some predicate) where_

/-- The rewrite of `apply_row_restrictions`. -/
def rowScope (resolved : Dict String) : Rewriting where
  column _ _ := none
  where_ from_ joins where_ := addPredicates where_ (scopePredicates resolved from_ joins)

theorem where_rowScope (resolved : Dict String) (from_ : Option Source) (joins : List Join)
    (where_ : Option Expr) : (rowScope resolved).where_ from_ joins where_ =
      addPredicates where_ (scopePredicates resolved from_ joins) :=
  rfl

theorem keepsColumns_rowScope {resolved : Dict String} : (rowScope resolved).KeepsColumns :=
  fun _ _ => rfl

/-- `apply_row_restrictions` -/
def applyRowRestrictions (sql : String) (restrictions : Dict String) (principal : Principal) :
    Except RewriteError Statement :=
  if restrictions = [] then .ok (.unchanged sql)
  else do
    let resolved ← resolveRestrictions principal [] restrictions
    match parseOne sql with
    | none => .error (.valueError "Row-restriction rewrite failed to parse statement.")
    | some tree => .ok (.printed (tree.rewrite (rowScope resolved)))

/-! ## What the restrictions say -/

/-- The columns restricted, and their values. -/
def restrictionPredicates (principal : Principal) (restrictions : Dict String) :
    List (String × String) :=
  restrictions.map fun r => (lower r.1, (restrictionValue? principal r.2).getD "")

/-- The principal carries the attributes the restrictions name. -/
def Carries (principal : Principal) (restrictions : Dict String) : Prop :=
  ∀ r ∈ restrictions, (restrictionValue? principal r.2).isSome

omit [Sqlglot] in
/-- A principal that carries the attributes gets every predicate, in turn. -/
theorem resolveRestrictions_of_carries {principal : Principal} {restrictions : Dict String}
    (h : Carries principal restrictions) (resolved : Dict String) :
    resolveRestrictions principal resolved restrictions =
      .ok (resolved.update (restrictionPredicates principal restrictions)) := by
  induction restrictions generalizing resolved with
  | nil => rfl
  | cons r restrictions ih =>
      obtain ⟨column, subjectAttribute⟩ := r
      obtain ⟨value, hvalue⟩ := Option.isSome_iff_exists.mp (h _ List.mem_cons_self)
      have hrest : Carries principal restrictions := fun r hr => h r (List.mem_cons_of_mem _ hr)
      simp only at hvalue
      rw [resolveRestrictions, hvalue]
      simp only [ih hrest, restrictionPredicates, List.map_cons, hvalue, Option.getD_some,
        Dict.update, List.foldl_cons]

omit [Sqlglot] in
/-- A principal that lacks one of them gets a `PermissionError`. -/
theorem resolveRestrictions_of_not_carries {principal : Principal} {restrictions : Dict String}
    (h : ¬ Carries principal restrictions) (resolved : Dict String) :
    ∃ message, resolveRestrictions principal resolved restrictions =
      .error (.permissionError message) := by
  induction restrictions generalizing resolved with
  | nil => exact absurd (fun r hr => absurd hr List.not_mem_nil) h
  | cons r restrictions ih =>
      obtain ⟨column, subjectAttribute⟩ := r
      rw [resolveRestrictions]
      cases hvalue : restrictionValue? principal subjectAttribute with
      | none => exact ⟨_, rfl⟩
      | some value =>
          have hrest : ¬ Carries principal restrictions := by
            intro hrest
            refine h fun r hr => ?_
            rcases List.mem_cons.mp hr with rfl | hr
            · rw [hvalue]
              rfl
            · exact hrest r hr
          exact ih hrest _

/-- Such a principal gets the rewritten statement. -/
theorem applyRowRestrictions_of_carries {sql : String} {q : Query} {restrictions : Dict String}
    {principal : Principal} (hparse : parseOne sql = some q) (hne : restrictions ≠ [])
    (hcarries : Carries principal restrictions) :
    applyRowRestrictions sql restrictions principal = .ok (.printed (q.rewrite
      (rowScope (Dict.update [] (restrictionPredicates principal restrictions))))) := by
  simp only [applyRowRestrictions, if_neg hne, resolveRestrictions_of_carries hcarries, hparse]
  rfl

end Rewrite

/-! ## Rows in scope -/

section Scope

variable [Sqlglot] {V : Type} [Domain V]

/-- A row of a physical table satisfies every restriction predicate. -/
def inScope (resolved : Dict String) (columns : List String) (row : Row V) : Bool :=
  resolved.all fun cv =>
    match columns.idxOf? (Sqlglot.toIdentifier cv.1).folded with
    | some i => Domain.isTrue (Domain.eq (row.getD i null) (Domain.literal (.string cv.2)))
    | none => false

theorem inScope_congr {resolved : Dict String} {columns : List String} {row row' : Row V}
    (h : ∀ i < columns.length, row.getD i null = row'.getD i null) :
    inScope resolved columns row = inScope resolved columns row' := by
  unfold inScope
  congr 1
  funext cv
  cases hidx : columns.idxOf? (Sqlglot.toIdentifier cv.1).folded with
  | none => rfl
  | some i =>
      obtain ⟨hi, -⟩ := List.findIdx?_eq_some_iff_getElem.mp hidx
      simp only [h i hi]

/-- The order of the predicates and their repetitions do not matter. -/
theorem inScope_congr_mem {predicates predicates' : List (String × String)}
    (h : ∀ cv, cv ∈ predicates ↔ cv ∈ predicates') (columns : List String) :
    (inScope predicates columns : Row V → Bool) = inScope predicates' columns := by
  funext row
  rw [Bool.eq_iff_iff, inScope, inScope, List.all_eq_true, List.all_eq_true]
  exact ⟨fun hall cv hcv => hall cv ((h cv).mpr hcv), fun hall cv hcv => hall cv ((h cv).mp hcv)⟩

/-- A row of nulls is out of scope. -/
theorem inScope_nil {resolved : Dict String} (hne : resolved ≠ []) (columns : List String) :
    inScope resolved columns ([] : Row V) = false := by
  obtain ⟨cv, rest, rfl⟩ := List.exists_cons_of_ne_nil hne
  rw [inScope, List.all_cons]
  cases columns.idxOf? (Sqlglot.toIdentifier cv.1).folded with
  | none => rfl
  | some i => simp [null, Domain.isTrue_null_eq]

/-! ## Guarded clauses -/

/-- A physical table among the direct items of a `FROM` clause: its name there,
its columns, their names there, and where they start in the joined row. -/
structure Item where
  name : String
  columns : List String
  headers : List String
  offset : Nat

/-- The item as a table of a frame. -/
def Item.entry (item : Item) : String × Fields :=
  (item.name, Fields.shift item.offset item.headers.zipIdx)

/-- Every item's part of a joined row is in scope. -/
def passes (resolved : Dict String) (items : List Item) (row : Row V) : Bool :=
  items.all fun item => inScope resolved item.columns (row.drop item.offset)

/-- The predicate for an item, under one of the qualifiers, is about its
restricted columns or about no column at all. -/
structure Item.Reached (resolved : Dict String) (qualifiers : List String) (item : Item) :
    Prop where
  named : ∃ q ∈ qualifiers, (Sqlglot.toIdentifier q).folded = item.name
  kept : ∀ cv ∈ resolved, ∀ p,
    Fields.position? item.headers.zipIdx (Sqlglot.toIdentifier cv.1).folded = some p →
      item.columns.idxOf? (Sqlglot.toIdentifier cv.1).folded = some p

/-- Two runs of a `FROM` clause with the same scope, whose rows agree where the
items are in scope. -/
structure Guarded (resolved : Dict String) (qualifiers : List String) (items : List Item)
    (x y : Frame × List (Row V)) : Prop where
  frame : x.1 = y.1
  rows : x.2.filter (passes resolved items) = y.2.filter (passes resolved items)
  null : passes resolved items ([] : Row V) = true → x.2 = y.2
  recorded : ∀ item ∈ items, item.entry ∈ x.1.tables
  fits : ∀ item ∈ items, item.offset + item.columns.length ≤ x.1.width
  reached : ∀ item ∈ items, item.Reached resolved qualifiers

variable {resolved : Dict String} {quals : List String}

/-- What does not depend on the database needs no guard. -/
theorem Guarded.refl (x : Frame × List (Row V)) : Guarded resolved quals [] x x where
  frame := rfl
  rows := rfl
  null _ := rfl
  recorded _ h := absurd h List.not_mem_nil
  fits _ h := absurd h List.not_mem_nil
  reached _ h := absurd h List.not_mem_nil

/-- A physical table is guarded by its own rows in scope. -/
theorem Guarded.table (hne : resolved ≠ []) {name : String} {columns headers : List String}
    {rows rows' : List (Row V)} (hlength : headers.length = columns.length)
    (hrows : rows.filter (inScope resolved columns) = rows'.filter (inScope resolved columns))
    (hreached : Item.Reached resolved quals ⟨name, columns, headers, 0⟩) :
    Guarded resolved quals [⟨name, columns, headers, 0⟩] (Frame.item name headers, rows)
      (Frame.item name headers, rows') where
  frame := rfl
  rows := by
    have hpasses : passes resolved [⟨name, columns, headers, 0⟩] =
        (inScope resolved columns : Row V → Bool) := by
      funext row
      simp [passes]
    rw [hpasses]
    exact hrows
  null h := by simp [passes, inScope_nil hne] at h
  recorded item h := by
    rw [List.mem_singleton.mp h]
    simp [Item.entry, Frame.item, Fields.shift]
  fits item h := by
    rw [List.mem_singleton.mp h]
    simp [Frame.item, hlength]
  reached item h := by
    rw [List.mem_singleton.mp h]
    exact hreached

variable [DecidableEq V] {left right : Frame} {shared : List (String × Nat × Nat)} {l r : Row V}

/-- The items of the right side of a join, in the joined row. -/
def Item.after (width : Nat) (item : Item) : Item := { item with offset := width + item.offset }

theorem passes_combine {items items' : List Item}
    (hfits : ∀ item ∈ items, item.offset + item.columns.length ≤ left.width)
    (hfits' : ∀ item ∈ items', item.offset + item.columns.length ≤ right.width) :
    passes resolved (items ++ items'.map (Item.after left.width))
        (combine left right shared l r) =
      (passes resolved items l && passes resolved items' r) := by
  rw [passes, List.all_append, List.all_map]
  congr 1
  · refine all_congr_mem fun item hitem => inScope_congr fun i hi => ?_
    simp only [List.getD_eq_getElem?_getD, List.getElem?_drop]
    simp only [← List.getD_eq_getElem?_getD]
    exact combine_getD_left (by have := hfits item hitem; omega)
  · refine all_congr_mem fun item hitem => inScope_congr fun i hi => ?_
    simp only [List.getD_eq_getElem?_getD, List.getElem?_drop, Item.after]
    simp only [← List.getD_eq_getElem?_getD, Nat.add_assoc]
    replace hi : i < item.columns.length := hi
    exact combine_getD_right (by have := hfits' item hitem; omega)

/-- **One join of a guarded clause.** -/
theorem Guarded.join {items items' : List Item} {x y x' y' : Frame × List (Row V)}
    (h : Guarded resolved quals items x y) (h' : Guarded resolved quals items' x' y')
    (shared : List (String × Nat × Nat)) (condition : Row V → Bool) (kind : JoinKind) :
    Guarded resolved quals (items ++ items'.map (Item.after x.1.width))
      (x.1.join x'.1 shared, Rows.join (combine x.1 x'.1 shared) condition kind.keepsLeft
        kind.keepsRight [] [] x.2 x'.2)
      (x.1.join x'.1 shared, Rows.join (combine x.1 x'.1 shared) condition kind.keepsLeft
        kind.keepsRight [] [] y.2 y'.2) where
  frame := rfl
  rows := filter_join_congr (fun _ _ => passes_combine h.fits h'.fits) h.rows h'.rows h.null h'.null
  null hnull := by
    rw [passes, List.all_append, List.all_map, Bool.and_eq_true] at hnull
    obtain ⟨hleft, hright⟩ := hnull
    dsimp only
    rw [h.null hleft, h'.null (by simpa [passes, Item.after] using hright)]
  recorded item hitem := by
    rcases List.mem_append.mp hitem with hitem | hitem
    · exact List.mem_append_left _ (h.recorded item hitem)
    · obtain ⟨item, hmem, rfl⟩ := List.mem_map.mp hitem
      refine List.mem_append_right _ (List.mem_map.mpr ⟨_, h'.recorded item hmem, ?_⟩)
      simp [Item.entry, Item.after, Fields.shift, Nat.add_assoc]
  fits item hitem := by
    rcases List.mem_append.mp hitem with hitem | hitem
    · have := h.fits item hitem
      simp only [Frame.join]
      omega
    · obtain ⟨item, hmem, rfl⟩ := List.mem_map.mp hitem
      have := h'.fits item hmem
      simp only [Frame.join, Item.after]
      omega
  reached item hitem := by
    rcases List.mem_append.mp hitem with hitem | hitem
    · exact h.reached item hitem
    · obtain ⟨item, hmem, rfl⟩ := List.mem_map.mp hitem
      exact ⟨(h'.reached item hmem).named, (h'.reached item hmem).kept⟩

/-! ## The predicates -/

section Predicates

variable {catalog : Catalog} {d : Database V catalog} {fuel : Nat} {ctes : Ctes V}
  {frame : Frame} {frames : List Frame} {row : Row V} {env group : List (Row V)}

omit [Sqlglot] in
/-- A conjunction of predicates holds when what was there holds and all of them
do. -/
theorem holds_addPredicates (where_ : Option Expr) (predicates : List Expr) :
    holds d fuel ctes frames env group (addPredicates where_ predicates) =
      (holds d fuel ctes frames env group where_ &&
        predicates.all fun p => Domain.isTrue (denoteExpr d fuel ctes frames env group p)) := by
  induction predicates generalizing where_ with
  | nil => simp [addPredicates]
  | cons p ps ih =>
      have hstep : addPredicates where_ (p :: ps) = addPredicates
          (match where_ with
            | some e => some (.and_ e p)
            | none => some p) ps := rfl
      rw [hstep, ih, List.all_cons, ← Bool.and_assoc]
      congr 1
      cases where_ with
      | none => simp [holds]
      | some e => simp [holds, denoteExpr, Domain.isTrue_and]

/-- Where the predicate for an item holds, it is its column that satisfies
it. -/
theorem restricted_of_isTrue {item : Item} {cv : String × String} {q : String}
    (hrecorded : item.entry ∈ frame.tables)
    (hq : (Sqlglot.toIdentifier q).folded = item.name)
    (hkept : ∀ p,
      Fields.position? item.headers.zipIdx (Sqlglot.toIdentifier cv.1).folded = some p →
        item.columns.idxOf? (Sqlglot.toIdentifier cv.1).folded = some p)
    (h : Domain.isTrue (denoteExpr d fuel ctes (frame :: frames) (row :: env) group
      (scopePredicate cv.1 cv.2 q)) = true) :
    (match item.columns.idxOf? (Sqlglot.toIdentifier cv.1).folded with
      | some i => Domain.isTrue (Domain.eq ((row.drop item.offset).getD i null)
          (Domain.literal (.string cv.2)))
      | none => false) = true := by
  have hmem : item.entry ∈ frame.tables.filter (·.1 = (Sqlglot.toIdentifier q).folded) :=
    List.mem_filter.mpr ⟨hrecorded, by simp [Item.entry, hq]⟩
  simp only [scopePredicate, denoteExpr, resolve, tableFields, findUp] at h
  rcases hentries : frame.tables.filter (·.1 = (Sqlglot.toIdentifier q).folded) with
    _ | ⟨entry, _ | ⟨entry', rest⟩⟩
  · rw [hentries] at hmem
    exact absurd hmem List.not_mem_nil
  · rw [hentries, List.mem_singleton] at hmem
    subst hmem
    simp only [hentries, Item.entry, Fields.position?_shift] at h
    cases hpos : Fields.position? item.headers.zipIdx (Sqlglot.toIdentifier cv.1).folded with
    | none =>
        rw [hpos] at h
        simp [Reference.value, null, Domain.isTrue_null_eq] at h
    | some p =>
        rw [hpos] at h
        rw [hkept p hpos]
        simpa [Reference.value, valueAt, List.getD_eq_getElem?_getD] using h
  · simp [hentries, Reference.value, null, Domain.isTrue_null_eq] at h

variable [Python]

/-- Where all predicates hold, every item is in scope. -/
theorem passes_of_predicates {items : List Item} {from_ : Option Source} {joins : List Join}
    (hrecorded : ∀ item ∈ items, item.entry ∈ frame.tables)
    (hreached : ∀ item ∈ items, item.Reached resolved (qualifiers from_ joins))
    (h : ((scopePredicates resolved from_ joins).all fun p => Domain.isTrue
      (denoteExpr d fuel ctes (frame :: frames) (row :: env) group p)) = true) :
    passes resolved items row = true := by
  rw [passes, List.all_eq_true]
  intro item hitem
  rw [inScope, List.all_eq_true]
  intro cv hcv
  obtain ⟨q, hq, hname⟩ := (hreached item hitem).named
  refine restricted_of_isTrue (hrecorded item hitem) hname ((hreached item hitem).kept cv hcv)
    (List.all_eq_true.mp h _ ?_)
  exact List.mem_flatMap.mpr ⟨cv, hcv, List.mem_map.mpr ⟨q, hq, rfl⟩⟩

/-- The rows a restricted `SELECT` keeps are among those in scope. -/
theorem filter_addPredicates {items : List Item} {from_ : Option Source} {joins : List Join}
    (hrecorded : ∀ item ∈ items, item.entry ∈ frame.tables)
    (hreached : ∀ item ∈ items, item.Reached resolved (qualifiers from_ joins))
    (where_ : Option Expr) (rows : List (Row V)) :
    (rows.filter fun row => holds d fuel ctes (frame :: frames) (row :: env) group
        (addPredicates where_ (scopePredicates resolved from_ joins))) =
      (rows.filter (passes resolved items)).filter fun row =>
        holds d fuel ctes (frame :: frames) (row :: env) group
          (addPredicates where_ (scopePredicates resolved from_ joins)) := by
  rw [List.filter_filter]
  refine List.filter_congr fun row _ => ?_
  rw [Bool.eq_iff_iff, Bool.and_eq_true]
  refine ⟨fun h => ⟨h, ?_⟩, fun h => h.1⟩
  rw [holds_addPredicates, Bool.and_eq_true] at h
  exact passes_of_predicates hrecorded hreached h.2

/-- A predicate is judged on the row alone, in any database. -/
theorem denoteExpr_scopePredicates_congr {d' : Database V catalog} {from_ : Option Source}
    {joins : List Join} {p : Expr} (hp : p ∈ scopePredicates resolved from_ joins) :
    denoteExpr d fuel ctes frames env group p = denoteExpr d' fuel ctes frames env group p := by
  obtain ⟨cv, -, hcv⟩ := List.mem_flatMap.mp hp
  obtain ⟨q, -, rfl⟩ := List.mem_map.mp hcv
  simp only [scopePredicate, denoteExpr]

end Predicates

end Scope

end DbGateway.Sql
