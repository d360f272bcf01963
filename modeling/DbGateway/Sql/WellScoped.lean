import DbGateway.Dict
import DbGateway.Sql.RowNoninterference
import DbGateway.Sql.Sites

/-!
# DbGateway.Sql.WellScoped

Whether the names of a statement still resolve after `apply_row_restrictions`.

The predicates are qualified by whatever stands directly in a `FROM` clause.  A
plain table of the schema has the restricted columns under that qualifier; a
common table expression, a table with renamed columns or one whose name the
predicate does not spell the same way may not.
-/

namespace DbGateway.Sql

section

variable (catalog : Catalog) (fuel : Nat) (funcHeader : String → List String → String)

/-- Every column reference of a statement resolves. -/
def WellScoped (q : Query) : Prop :=
  ∀ site ∈ q.sites catalog fuel funcHeader [] [], site.resolves = true

instance (q : Query) : Decidable (WellScoped catalog fuel funcHeader q) :=
  inferInstanceAs (Decidable (∀ site ∈ q.sites catalog fuel funcHeader [] [],
    site.resolves = true))

end

/-! ## Where the predicates have a meaning -/

section Condition

variable [Python] [Sqlglot] (catalog : Catalog) (fuel : Nat)
  (funcHeader : String → List String → String)

/-- The qualifier, as the predicate writes it, names a table with one column of
that name. -/
def exposes (frames : List Frame) (qualifier column : String) : Bool :=
  match tableFields frames (Sqlglot.toIdentifier qualifier) with
  | some (_, fields) => (fields.position? (Sqlglot.toIdentifier column).folded).isSome
  | none => false

/-- A table of the schema under a name the predicate means, with its own
columns. -/
structure DirectTable.Plain (ctes : Names) (frame : Frame) (t : DirectTable) : Prop where
  /-- No common table expression is meant. -/
  physical : lookupCte ctes t.db t.name = none
  /-- The schema has the table. -/
  known : catalog (t.db.map Identifier.folded) t.name.folded ≠ []
  /-- Its columns are not renamed. -/
  columns : (t.as_.map TableAlias.columns).getD [] = []
  /-- Its qualifier, as `sqlglot` prints it, is still its name. -/
  named : (Sqlglot.toIdentifier (aliasOrName t.name t.as_).name).folded = t.label
  /-- Nothing else in the clause has its name. -/
  alone : (frame.tables.filter (·.1 = t.label)).length = 1

/-- Every other direct table exposes the restricted columns under its
qualifier. -/
def Exposing (restricted : List String) (q : Query) : Prop :=
  ∀ ctes frames from_ joins,
    Site.clause ctes frames from_ joins ∈ q.sites catalog fuel funcHeader [] [] →
      ∀ t ∈ directTables from_ joins,
        ¬ t.Plain catalog ctes (clauseFrame catalog fuel funcHeader ctes frames from_ joins) →
          ∀ qualifier, t.qualifier? = some qualifier → ∀ c ∈ restricted,
            exposes (clauseFrame catalog fuel funcHeader ctes frames from_ joins :: frames)
              qualifier c = true

end Condition

/-! ## Plain tables -/

section Plain

theorem isSome_position?_iff {headers : List String} {name : String} :
    (Fields.position? headers.zipIdx name).isSome = true ↔ headers.count name = 1 := by
  have hcount : headers.count name = (headers.zipIdx.filter (·.1 = name)).length := by
    conv_lhs => rw [← List.zipIdx_map_fst 0 headers, List.count, List.countP_map]
    rw [List.countP_eq_length_filter]
    congr 2
  rw [hcount, Fields.position?]
  generalize headers.zipIdx.filter (·.1 = name) = found
  rcases found with _ | ⟨f, _ | ⟨g, rest⟩⟩ <;> simp

theorem rename_nil (headers : List String) : rename [] headers = headers := by
  simp [rename]

variable {catalog : Catalog} {fuel : Nat} {funcHeader : String → List String → String}
  {ctes : Names} {frames : List Frame}

/-- The columns a direct table has. -/
def DirectTable.headers (catalog : Catalog) (ctes : Names) (t : DirectTable) : List String :=
  renamed t.as_ ((lookupCte ctes t.db t.name).getD
    (catalog (t.db.map Identifier.folded) t.name.folded))

/-- A direct table is one of the tables of its item. -/
theorem mem_tables_frameSource {s : Source} {t : DirectTable} (h : s.direct? = some t) :
    (t.label, Fields.shift 0 (t.headers catalog ctes).zipIdx) ∈
      (frameSource catalog fuel funcHeader ctes frames s).tables := by
  cases s with
  | table db name as_ =>
      obtain rfl := Option.some.inj h
      simp [frameSource, Frame.item, DirectTable.label, DirectTable.headers, Fields.shift]
  | derived _ _ => contradiction
  | paren _ _ _ => contradiction

theorem mem_tables_frameJoins_of_left {left : Frame} {joins : List Join}
    {entry : String × Fields} (h : entry ∈ left.tables) :
    entry ∈ (frameJoins catalog fuel funcHeader ctes frames left joins).tables := by
  induction joins generalizing left with
  | nil => exact h
  | cons j joins ih =>
      obtain ⟨kind, s, on, matching⟩ := j
      exact ih (List.mem_append_left _ h)

theorem mem_tables_frameJoins {left : Frame} {joins : List Join} {j : Join} (hj : j ∈ joins)
    {t : DirectTable} (h : j.source.direct? = some t) :
    ∃ offset, (t.label, Fields.shift offset (t.headers catalog ctes).zipIdx) ∈
      (frameJoins catalog fuel funcHeader ctes frames left joins).tables := by
  induction joins generalizing left with
  | nil => exact absurd hj List.not_mem_nil
  | cons j' joins ih =>
      rcases List.mem_cons.mp hj with rfl | hj
      · obtain ⟨kind, s, on, matching⟩ := j
        have hjoin : (t.label, Fields.shift left.width (t.headers catalog ctes).zipIdx) ∈
            (frameJoin catalog fuel funcHeader ctes frames left (.join kind s on matching)).tables :=
          List.mem_append_right _ (List.mem_map.mpr
            ⟨_, mem_tables_frameSource h, by simp [Fields.shift]⟩)
        refine ⟨left.width, ?_⟩
        rw [frameJoins]
        exact mem_tables_frameJoins_of_left hjoin
      · exact ih hj

/-- **A direct table is one of the tables of its clause.** -/
theorem mem_tables_clauseFrame {from_ : Option Source} {joins : List Join} {t : DirectTable}
    (h : t ∈ directTables from_ joins) :
    ∃ offset, (t.label, Fields.shift offset (t.headers catalog ctes).zipIdx) ∈
      (clauseFrame catalog fuel funcHeader ctes frames from_ joins).tables := by
  obtain ⟨s, hs, ht⟩ := List.mem_filterMap.mp h
  rcases List.mem_append.mp hs with hs | hs
  · obtain rfl := Option.mem_toList.mp hs
    exact ⟨0, mem_tables_frameJoins_of_left (mem_tables_frameSource ht)⟩
  · obtain ⟨j, hj, rfl⟩ := List.mem_map.mp hs
    exact mem_tables_frameJoins hj ht

/-- A direct table's qualifier is the name it goes by. -/
theorem DirectTable.name_of_qualifier? [Python] {t : DirectTable} {qualifier : String}
    (h : t.qualifier? = some qualifier) : (aliasOrName t.name t.as_).name = qualifier := by
  simp only [DirectTable.qualifier?, Source.qualifier?] at h
  split at h
  · contradiction
  · exact Option.some.inj h

variable [Sqlglot]

theorem isResolved_predicate (frames : List Frame) (qualifier column : String) :
    (resolve frames (some (Sqlglot.toIdentifier qualifier))
      (Sqlglot.toIdentifier column)).isResolved = exposes frames qualifier column := by
  rw [resolve, exposes]
  cases tableFields frames (Sqlglot.toIdentifier qualifier) with
  | none => rfl
  | some found =>
      obtain ⟨level, fields⟩ := found
      dsimp only
      cases fields.position? (Sqlglot.toIdentifier column).folded with
      | none => rfl
      | some p => rfl

namespace DirectTable.Plain

variable {from_ : Option Source} {joins : List Join} {t : DirectTable}

/-- A plain table has the columns of the schema. -/
theorem headers_eq {frame : Frame} (h : t.Plain catalog ctes frame) :
    t.headers catalog ctes = catalog (t.db.map Identifier.folded) t.name.folded := by
  rw [DirectTable.headers, h.physical, Option.getD_none, renamed, h.columns, rename_nil]

/-- The one table of its name in the clause is the table itself. -/
theorem filter_tables (ht : t ∈ directTables from_ joins)
    (h : t.Plain catalog ctes (clauseFrame catalog fuel funcHeader ctes frames from_ joins)) :
    ∃ offset,
      (clauseFrame catalog fuel funcHeader ctes frames from_ joins).tables.filter
          (·.1 = t.label) =
        [(t.label, Fields.shift offset (t.headers catalog ctes).zipIdx)] := by
  obtain ⟨offset, hentry⟩ : ∃ offset,
      (t.label, Fields.shift offset (t.headers catalog ctes).zipIdx) ∈
        (clauseFrame catalog fuel funcHeader ctes frames from_ joins).tables :=
    mem_tables_clauseFrame ht
  obtain ⟨entry, hone⟩ := List.length_eq_one_iff.mp h.alone
  have hmem : (t.label, Fields.shift offset (t.headers catalog ctes).zipIdx) ∈
      (clauseFrame catalog fuel funcHeader ctes frames from_ joins).tables.filter
        (·.1 = t.label) := List.mem_filter.mpr ⟨hentry, decide_eq_true rfl⟩
  rw [hone] at hmem
  exact ⟨offset, by rw [hone, List.mem_singleton.mp hmem]⟩

/-- A plain table exposes the columns it has. -/
theorem exposes [Python] (ht : t ∈ directTables from_ joins)
    (h : t.Plain catalog ctes (clauseFrame catalog fuel funcHeader ctes frames from_ joins))
    {qualifier : String} (hqualifier : t.qualifier? = some qualifier) {column : String}
    (hcolumn : (catalog (t.db.map Identifier.folded) t.name.folded).count
      (Sqlglot.toIdentifier column).folded = 1) :
    Sql.exposes (clauseFrame catalog fuel funcHeader ctes frames from_ joins :: frames) qualifier
      column = true := by
  obtain rfl := DirectTable.name_of_qualifier? hqualifier
  obtain ⟨offset, hfound⟩ := h.filter_tables ht
  rw [Sql.exposes, tableFields, findUp, h.named, hfound, h.headers_eq]
  simp only [Fields.position?_shift, Option.isSome_map]
  exact isSome_position?_iff.mpr hcolumn

end DirectTable.Plain

end Plain

/-! ## The rewrite -/

section Rewritten

variable [Python] [Sqlglot] {catalog : Catalog} {fuel : Nat}
  {funcHeader : String → List String → String}

omit [Python] [Sqlglot] in
theorem Site.resolves_rewrite (w : Rewriting) (site : Site) :
    (site.rewrite w).resolves = site.resolves := by
  cases site with
  | column _ _ _ => rfl
  | tableStar _ _ => rfl
  | clause _ _ _ _ => rfl

/-- What is added at a `FROM` clause resolves when its direct tables expose the
columns. -/
theorem forall_added_iff {resolved : Dict String} {ctes : Names} {frames : List Frame}
    {from_ : Option Source} {joins : List Join} :
    (∀ site ∈ (Site.clause ctes frames from_ joins).added catalog fuel funcHeader resolved,
        site.resolves = true) ↔
      ∀ t ∈ directTables from_ joins, ∀ qualifier, t.qualifier? = some qualifier →
        ∀ c ∈ resolved.map Prod.fst,
          exposes (clauseFrame catalog fuel funcHeader ctes frames from_ joins :: frames)
            qualifier c = true := by
  constructor
  · intro h t ht qualifier hqualifier c hc
    obtain ⟨cv, hcv, rfl⟩ := List.mem_map.mp hc
    have hmem : qualifier ∈ qualifiers from_ joins :=
      mem_qualifiers_iff_direct.mpr ⟨t, ht, hqualifier⟩
    rw [← isResolved_predicate]
    exact h (.column _ _ _) (List.mem_flatMap.mpr ⟨cv, hcv, List.mem_map_of_mem hmem⟩)
  · intro h site hsite
    obtain ⟨cv, hcv, hsite⟩ := List.mem_flatMap.mp hsite
    obtain ⟨qualifier, hmem, rfl⟩ := List.mem_map.mp hsite
    obtain ⟨t, ht, hqualifier⟩ := mem_qualifiers_iff_direct.mp hmem
    rw [Site.resolves, isResolved_predicate]
    exact h t ht qualifier hqualifier _ (List.mem_map_of_mem hcv)

/-- A rewritten statement resolves when the statement does and every predicate
has a meaning. -/
theorem wellScoped_rewrite_iff {resolved : Dict String} {q : Query}
    (hscoped : WellScoped catalog fuel funcHeader q) :
    WellScoped catalog fuel funcHeader (q.rewrite (rowScope resolved)) ↔
      ∀ ctes frames from_ joins,
        Site.clause ctes frames from_ joins ∈ q.sites catalog fuel funcHeader [] [] →
          ∀ t ∈ directTables from_ joins, ∀ qualifier, t.qualifier? = some qualifier →
            ∀ c ∈ resolved.map Prod.fst,
              exposes (clauseFrame catalog fuel funcHeader ctes frames from_ joins :: frames)
                qualifier c = true := by
  rw [WellScoped, Query.sites_rewrite]
  constructor
  · intro h ctes frames from_ joins hclause
    refine forall_added_iff.mp fun site hsite => h site ?_
    exact List.mem_flatMap.mpr ⟨_, hclause, List.mem_append_left _ hsite⟩
  · intro h site hsite
    obtain ⟨source, hsource, hsite⟩ := List.mem_flatMap.mp hsite
    rcases List.mem_append.mp hsite with hadded | hkept
    · cases source with
      | clause ctes frames from_ joins =>
          exact forall_added_iff.mpr (h ctes frames from_ joins hsource) site hadded
      | column _ _ _ => exact absurd hadded List.not_mem_nil
      | tableStar _ _ => exact absurd hadded List.not_mem_nil
    · rw [List.mem_singleton.mp hkept, Site.resolves_rewrite]
      exact hscoped source hsource

/-- The columns a rewrite is about. -/
theorem applyRowRestrictions_printed {sql : String} {q tree : Query} {restrictions : Dict String}
    {principal : Principal} (hparse : parseOne sql = some q)
    (happly : applyRowRestrictions sql restrictions principal = .ok (.printed tree)) :
    ∃ resolved : Dict String, tree = q.rewrite (rowScope resolved) ∧
      ∀ c, c ∈ resolved.map Prod.fst ↔ c ∈ restrictions.map fun r => lower r.1 := by
  have hne : restrictions ≠ [] := by
    intro hnil
    rw [applyRowRestrictions, if_pos hnil] at happly
    exact Statement.noConfusion (Except.ok.inj happly)
  have hcarries : Carries principal restrictions := by
    by_contra hlacks
    obtain ⟨message, herror⟩ := resolveRestrictions_of_not_carries hlacks []
    rw [applyRowRestrictions, if_neg hne, herror] at happly
    contradiction
  rw [applyRowRestrictions_of_carries hparse hne hcarries] at happly
  refine ⟨_, (Statement.printed.inj (Except.ok.inj happly)).symm, fun c => ?_⟩
  rw [Dict.mem_keys_update, restrictionPredicates, List.map_map]
  simp

/-- **Which statements still resolve** after the rewriting, over a schema whose
tables have the restricted columns: those whose direct tables, where they are
not plain tables of the schema, expose the restricted columns. -/
theorem wellScoped_applyRowRestrictions_iff {sql : String} {q tree : Query}
    {restrictions : Dict String} {principal : Principal} (hparse : parseOne sql = some q)
    (happly : applyRowRestrictions sql restrictions principal = .ok (.printed tree))
    (hschema : ∀ db name, catalog db name ≠ [] → ∀ r ∈ restrictions,
      (catalog db name).count (Sqlglot.toIdentifier (lower r.1)).folded = 1)
    (hscoped : WellScoped catalog fuel funcHeader q) :
    WellScoped catalog fuel funcHeader tree ↔
      Exposing catalog fuel funcHeader (restrictions.map fun r => lower r.1) q := by
  obtain ⟨resolved, rfl, hcolumns⟩ := applyRowRestrictions_printed hparse happly
  rw [wellScoped_rewrite_iff hscoped]
  simp only [hcolumns]
  constructor
  · intro h ctes frames from_ joins hclause t ht _ qualifier hqualifier
    exact h ctes frames from_ joins hclause t ht qualifier hqualifier
  · intro h ctes frames from_ joins hclause t ht qualifier hqualifier c hc
    by_cases hplain : t.Plain catalog ctes
        (clauseFrame catalog fuel funcHeader ctes frames from_ joins)
    · obtain ⟨r, hr, rfl⟩ := List.mem_map.mp hc
      exact hplain.exposes ht hqualifier (hschema _ _ hplain.known r hr)
    · exact h ctes frames from_ joins hclause t ht hplain qualifier hqualifier c hc

end Rewritten

/-! ## Two statements -/

/-- Tenants are a column of the one table of `albumCatalog`. -/
theorem album_restricted (sql : String) (q : Query) :
    letI := Python.ascii
    letI := parserOf sql q
    ∀ db name, albumCatalog db name ≠ [] → ∀ r ∈ [("tenant", "tenant")],
      (albumCatalog db name).count (Sqlglot.toIdentifier (lower r.1)).folded = 1 := by
  intro db name hknown r hr
  obtain rfl := List.mem_singleton.mp hr
  by_cases hname : name = "album"
  · subst hname
    have hcount : ["title", "tenant"].count
        (Identifier.folded ⟨@lower Python.ascii "tenant", false⟩) = 1 := by decide
    exact hcount
  · exact absurd (if_neg hname) hknown

/-- A common table expression that leaves the tenant out. -/
def titlesText : String := "WITH c AS (SELECT title FROM album) SELECT title FROM c"

def titlesQuery : Query :=
  .with_ false [.cte ⟨"c", false⟩ [] titleQuery]
    (.select false [.item (.column none ⟨"title", false⟩) none]
      (some (.table none ⟨"c", false⟩ none)) [] none [] none [] {})

/-- The rewritten statement asks `c` for its tenant. -/
theorem not_wellScoped_titles :
    letI := Python.ascii
    ¬ ∀ (_ : Sqlglot) (catalog : Catalog) (fuel : Nat)
        (funcHeader : String → List String → String) (sql : String) (q tree : Query)
        (restrictions : Dict String) (principal : Principal),
      parseOne sql = some q →
      applyRowRestrictions sql restrictions principal = .ok (.printed tree) →
      (∀ db name, catalog db name ≠ [] → ∀ r ∈ restrictions,
        (catalog db name).count (Sqlglot.toIdentifier (lower r.1)).folded = 1) →
      WellScoped catalog fuel funcHeader q → WellScoped catalog fuel funcHeader tree := by
  let _ := Python.ascii
  let _ := parserOf titlesText titlesQuery
  intro h
  have hcarries : Carries tenantPrincipal [("tenant", "tenant")] := by
    unfold Carries
    decide
  have htree := h (parserOf titlesText titlesQuery) albumCatalog 0 (fun f _ => f) titlesText
    titlesQuery _ [("tenant", "tenant")] tenantPrincipal (parseOne_parserOf _ _)
    (applyRowRestrictions_of_carries (parseOne_parserOf _ _) (by decide) hcarries)
    (album_restricted _ _) (by decide)
  revert htree
  decide

theorem wellScoped_applyRowRestrictions_iff_title :
    letI := Python.ascii
    letI := parserOf titleText titleQuery
    WellScoped albumCatalog 0 (fun f _ => f) (titleQuery.rewrite (rowScope
        (Dict.update [] (restrictionPredicates tenantPrincipal [("tenant", "tenant")])))) ↔
      Exposing albumCatalog 0 (fun f _ => f) ([("tenant", "tenant")].map fun r => lower r.1)
        titleQuery := by
  let _ := Python.ascii
  let _ := parserOf titleText titleQuery
  have hcarries : Carries tenantPrincipal [("tenant", "tenant")] := by
    unfold Carries
    decide
  exact wellScoped_applyRowRestrictions_iff (parseOne_parserOf _ _)
    (applyRowRestrictions_of_carries (parseOne_parserOf _ _) (by decide) hcarries)
    (album_restricted _ _) (by decide)

end DbGateway.Sql
