import DbGateway.Sql.Lineage
import DbGateway.Sql.SafetyChecker
import DbGateway.Sql.Values

/-!
# DbGateway.Sql.Allowlist

What the column allowlist of `DefaultSqlSafetyChecker` is enforced on.  The
checker compares the names it selects at the root, unqualified or qualified by
the table's own name, with the set of each allow-listed table it has found; a
column that reaches the result in any other way is not compared with anything.
-/

namespace DbGateway.Sql

open DefaultSqlSafetyChecker

section

variable [Python]

/-! ## Names are lower-cased -/

theorem lower_star : lower "*" = "*" := by
  rw [Python.lower_ascii "*" (ascii_of_all (by decide))]
  rfl

theorem lower_selectedColumn {node : Node} {s : SelectedColumn}
    (h : node.selectedColumn? = some s) : lower s.2 = s.2 := by
  cases node with
  | column t n =>
      rw [← Option.some.inj h]
      exact Python.lower_lower _
  | table _ _ => contradiction
  | cte _ => contradiction

theorem lower_selectedColumns {p : Projection} {s : SelectedColumn}
    (h : s ∈ p.selectedColumns) : lower s.2 = s.2 := by
  cases p with
  | star =>
      rw [List.mem_singleton.mp h]
      exact lower_star
  | tableStar _ =>
      obtain ⟨node, -, hnode⟩ := List.mem_filterMap.mp h
      exact lower_selectedColumn hnode
  | item _ _ =>
      obtain ⟨node, -, hnode⟩ := List.mem_filterMap.mp h
      exact lower_selectedColumn hnode

theorem lower_tokenColumns {t : Token} {columns : List SelectedColumn}
    (h : t.selectedColumns? = some columns) {s : SelectedColumn} (hs : s ∈ columns) :
    lower s.2 = s.2 := by
  unfold Token.selectedColumns? at h
  split at h
  · rw [← Option.some.inj h] at hs
    split at hs
    · rw [List.mem_singleton.mp hs]
      exact lower_star
    · exact absurd hs List.not_mem_nil
  · obtain ⟨names, -, rfl⟩ := Option.map_eq_some_iff.mp h
    obtain ⟨name, -, hname⟩ := List.mem_filterMap.mp hs
    unfold TokenName.selected? at hname
    split at hname
    · contradiction
    · split at hname
      · contradiction
      · rw [← Option.some.inj hname]
        exact Python.lower_lower _

theorem lower_scanned {tokens : List Token} {inSelect : Bool} {columns : List SelectedColumn}
    (h : scanSelectedColumns inSelect tokens = some columns) {s : SelectedColumn}
    (hs : s ∈ columns) : lower s.2 = s.2 := by
  induction tokens generalizing inSelect columns with
  | nil =>
      rw [← Option.some.inj h] at hs
      exact absurd hs List.not_mem_nil
  | cons t ts ih =>
      rw [scanSelectedColumns] at h
      split at h
      · exact ih h hs
      · split at h
        · rw [← Option.some.inj h] at hs
          exact absurd hs List.not_mem_nil
        · split at h
          · obtain ⟨found, hfound, h⟩ := Option.bind_eq_some_iff.mp h
            obtain ⟨rest, hrest, h⟩ := Option.bind_eq_some_iff.mp h
            rw [← Option.some.inj h] at hs
            rcases List.mem_append.mp hs with hs | hs
            · exact lower_tokenColumns hfound hs
            · exact ih hrest hs
          · exact ih h hs

/-- Every selected name is in lower case. -/
theorem lower_selected [Sqlglot] {stmt : ParsedStatement} {query : String}
    {selected : List SelectedColumn} (h : selectedColumns? stmt query = some selected)
    {s : SelectedColumn} (hs : s ∈ selected) : lower s.2 = s.2 := by
  unfold selectedColumns? at h
  split at h
  · exact lower_scanned h hs
  · rw [← Option.some.inj h, extractSelectedColumnsByTable] at hs
    split at hs
    · exact absurd hs List.not_mem_nil
    · obtain ⟨p, -, hs⟩ := List.mem_flatMap.mp hs
      exact lower_selectedColumns hs

/-! ## Acceptance -/

namespace DefaultSqlSafetyChecker

/-- A checker has a column allowlist when it is given one. -/
theorem columnAllowlist_init {maxQueryLength : Nat} {tableAllowlist : Finset String}
    {columnAllowlist : Dict (Finset String)} (h : columnAllowlist ≠ []) :
    (init maxQueryLength tableAllowlist columnAllowlist).columnAllowlist ≠ [] := by
  obtain ⟨entry, rest, rfl⟩ := List.exists_cons_of_ne_nil h
  have hkey : lower entry.1 ∈
      (init maxQueryLength tableAllowlist (entry :: rest)).columnAllowlist.map Prod.fst :=
    Dict.mem_keys_update.mpr (.inr List.mem_cons_self)
  exact fun hnil => absurd (hnil ▸ hkey) List.not_mem_nil

end DefaultSqlSafetyChecker

variable [Sqlglot] [Sqlparse]

/-- What every checker demands of a statement. -/
def Screened (stmt : ParsedStatement) (query : String) : Prop :=
  (rules stmt query && !containsForbiddenMutation stmt && isStrictlyReadOnly query) = true

namespace DefaultSqlSafetyChecker

variable {self : DefaultSqlSafetyChecker} {query : String}

theorem isSafeSelectQuery_iff : self.isSafeSelectQuery query = true ↔
    (query ≠ "" ∧ strip query ≠ "" ∧ Char.ofNat 0 ∉ query.toList ∧
      query.length ≤ self.maxQueryLength) ∧
      ∃ stmt rest, Sqlparse.parse query = some (stmt :: rest) ∧ Screened stmt query ∧
        self.enforcesAllowlist stmt query = some true := by
  unfold isSafeSelectQuery Screened
  by_cases hempty : (query = "" || strip query = "") = true
  · rw [if_pos hempty]
    simp only [Bool.or_eq_true, decide_eq_true_eq] at hempty
    exact ⟨fun h => absurd h Bool.false_ne_true, fun h => absurd hempty (not_or.mpr ⟨h.1.1, h.1.2.1⟩)⟩
  · rw [if_neg hempty]
    simp only [Bool.or_eq_true, decide_eq_true_eq, not_or] at hempty
    by_cases hnul : Char.ofNat 0 ∈ query.toList
    · rw [if_pos hnul]
      exact ⟨fun h => absurd h Bool.false_ne_true, fun h => absurd hnul h.1.2.2.1⟩
    · rw [if_neg hnul]
      by_cases hlong : query.length > self.maxQueryLength
      · rw [if_pos hlong]
        exact ⟨fun h => absurd h Bool.false_ne_true, fun h => absurd h.1.2.2.2 (by omega)⟩
      · rw [if_neg hlong]
        rcases Sqlparse.parse query with _ | _ | ⟨stmt, rest⟩
        · simp
        · simp
        · simp only [Option.some.injEq, List.cons.injEq, Bool.and_eq_true]
          constructor
          · rintro ⟨hscreened, hallowlist⟩
            refine ⟨⟨hempty.1, hempty.2, hnul, by omega⟩, stmt, rest, ⟨rfl, rfl⟩, hscreened, ?_⟩
            cases h : self.enforcesAllowlist stmt query with
            | none =>
                rw [h] at hallowlist
                exact absurd hallowlist Bool.false_ne_true
            | some b =>
                rw [h] at hallowlist
                exact congrArg some hallowlist
          · rintro ⟨-, stmt', rest', ⟨rfl, rfl⟩, hscreened, hallowlist⟩
            exact ⟨hscreened, by rw [hallowlist]; rfl⟩

omit [Sqlparse] in
/-- What a checker with a column allowlist asks of the names it finds. -/
theorem enforcesAllowlist_iff {stmt : ParsedStatement} (hcolumns : self.columnAllowlist ≠ []) :
    self.enforcesAllowlist stmt query = some true ↔
      ∃ tables selected, tables? stmt query = some tables ∧
        selectedColumns? stmt query = some selected ∧
        (self.tableAllowlist = ∅ ∨ ∀ table ∈ tables, table ∈ self.tableAllowlist) ∧
        (∀ s ∈ selected, s.2 ≠ "*") ∧ self.allowsColumns tables selected = true := by
  unfold enforcesAllowlist
  rw [if_neg (fun h => hcolumns h.2)]
  cases htables : tables? stmt query with
  | none => simp
  | some tables =>
      have htable : (self.tableAllowlist = ∅ ∨ ∀ table ∈ tables, table ∈ self.tableAllowlist) ↔
          ¬ (self.tableAllowlist ≠ ∅ ∧ ∃ table ∈ tables, table ∉ self.tableAllowlist) := by
        rw [not_and_or, ne_eq, not_not]
        simp
      simp only [Option.bind_eq_bind, Option.bind_some, Option.some.injEq, exists_eq_left',
        exists_and_left, htable]
      by_cases hforbidden :
          self.tableAllowlist ≠ ∅ ∧ ∃ table ∈ tables, table ∉ self.tableAllowlist
      · rw [if_pos hforbidden]
        simp [hforbidden]
      · rw [if_neg hforbidden, if_neg hcolumns]
        cases hselected : selectedColumns? stmt query with
        | none => simp
        | some selected =>
            have hstar : (∀ s ∈ selected, s.2 ≠ "*") ↔ ¬ ∃ s ∈ selected, s.2 = "*" :=
              ⟨fun h ⟨s, hs, hs2⟩ => h s hs hs2, fun h s hs hs2 => h ⟨s, hs, hs2⟩⟩
            simp only [Option.bind_some, Option.some.injEq, exists_eq_left', hstar]
            by_cases hany : ∃ s ∈ selected, s.2 = "*"
            · rw [if_pos hany]
              simp [hany]
            · rw [if_neg hany]
              simp [hforbidden, hany]

end DefaultSqlSafetyChecker

/-! ## Enforcement -/

/-- A column's values reach the result of the one statement of a text. -/
def Reaches (catalog : Catalog) (funcHeader : String → List String → String) (sql : String)
    (column : BaseColumn) : Prop :=
  ∃ q, parseStatements sql = [q] ∧ Flows catalog funcHeader q column

/-- Every column of an allow-listed table that reaches the result is in that
table's set. -/
def AllowlistEnforced (catalog : Catalog) (funcHeader : String → List String → String)
    (self : DefaultSqlSafetyChecker) (sql : String) : Prop :=
  ∀ column, Reaches catalog funcHeader sql column → ∀ allowed,
    self.columnAllowlist.get? (lower column.table) = some allowed → lower column.name ∈ allowed

/-- The checker finds the column's table, and selects the column's name without a
qualifier or under the table's name. -/
def Selected (sql : String) (column : BaseColumn) : Prop :=
  ∃ stmt rest tables selected, Sqlparse.parse sql = some (stmt :: rest) ∧
    tables? stmt sql = some tables ∧ selectedColumns? stmt sql = some selected ∧
    lower column.table ∈ tables ∧
    lower column.name ∈ requestedColumns selected (lower column.table)

/-- A selected column of an allow-listed table is in the table's set. -/
theorem mem_allowed_of_selected {self : DefaultSqlSafetyChecker} {sql : String}
    (hsafe : self.isSafeSelectQuery sql = true) {column : BaseColumn} (h : Selected sql column)
    {allowed : Finset String}
    (hallowed : self.columnAllowlist.get? (lower column.table) = some allowed) :
    lower column.name ∈ allowed := by
  obtain ⟨-, stmt, rest, hparse, -, hallowlist⟩ := isSafeSelectQuery_iff.mp hsafe
  have hentry := Dict.mem_of_get? hallowed
  obtain ⟨tables, selected, htables, hselected, -, -, hcolumns⟩ :=
    (enforcesAllowlist_iff (List.ne_nil_of_mem hentry)).mp hallowlist
  obtain ⟨stmt', rest', tables', selected', hparse', htables', hselected', htable, hname⟩ := h
  obtain ⟨rfl, -⟩ : stmt' = stmt ∧ rest' = rest := by
    simpa using hparse'.symm.trans hparse
  obtain rfl := Option.some.inj (htables'.symm.trans htables)
  obtain rfl := Option.some.inj (hselected'.symm.trans hselected)
  have hloop := List.all_eq_true.mp hcolumns _ hentry
  simp only [Bool.or_eq_true, decide_eq_true_eq, List.all_eq_true] at hloop
  exact hloop.resolve_left (not_not_intro htable) _ hname

/-- The allowlist a column that is not selected slips through: its table may
show what is selected of it. -/
def slippedAllowlist (tables : List String) (selected : List SelectedColumn)
    (column : BaseColumn) : Dict (Finset String) :=
  [(column.table, if lower column.table ∈ tables then
    (requestedColumns selected (lower column.table)).toFinset else ∅)]

/-- A checker with that allowlist accepts what another one with a column
allowlist accepts. -/
theorem isSafeSelectQuery_slipped {self : DefaultSqlSafetyChecker} {sql : String}
    (hsafe : self.isSafeSelectQuery sql = true) (hne : self.columnAllowlist ≠ [])
    (column : BaseColumn) :
    ∃ stmt rest tables selected, Sqlparse.parse sql = some (stmt :: rest) ∧
      tables? stmt sql = some tables ∧ selectedColumns? stmt sql = some selected ∧
      (init sql.length ∅ (slippedAllowlist tables selected column)).isSafeSelectQuery sql =
        true := by
  obtain ⟨⟨hempty, hstrip, hnul, -⟩, stmt, rest, hparse, hscreened, hallowlist⟩ :=
    isSafeSelectQuery_iff.mp hsafe
  obtain ⟨tables, selected, htables, hselected, -, hstar, -⟩ :=
    (enforcesAllowlist_iff hne).mp hallowlist
  refine ⟨stmt, rest, tables, selected, hparse, htables, hselected, ?_⟩
  have hslipped : slippedAllowlist tables selected column ≠ [] := List.cons_ne_nil _ _
  refine isSafeSelectQuery_iff.mpr ⟨⟨hempty, hstrip, hnul, Nat.le_refl _⟩, stmt, rest, hparse,
    hscreened, (enforcesAllowlist_iff (columnAllowlist_init hslipped)).mpr ?_⟩
  refine ⟨tables, selected, htables, hselected, .inl rfl, hstar, ?_⟩
  have hentry : (init sql.length ∅ (slippedAllowlist tables selected column)).columnAllowlist =
      [(lower column.table, (if lower column.table ∈ tables then
        (requestedColumns selected (lower column.table)).toFinset else ∅).image lower)] := rfl
  rw [allowsColumns, hentry, List.all_cons, List.all_nil, Bool.and_true, Bool.or_eq_true,
    decide_eq_true_eq]
  by_cases htable : lower column.table ∈ tables
  · rw [if_pos htable]
    refine .inr (List.all_eq_true.mpr fun name hname => decide_eq_true ?_)
    obtain ⟨s, hs, rfl⟩ := List.mem_map.mp hname
    have hlower := lower_selected hselected (List.mem_filter.mp hs).1
    exact Finset.mem_image.mpr ⟨_, List.mem_toFinset.mpr hname, hlower⟩
  · exact .inl htable

/-- What it shows of the column's table is selected. -/
theorem selected_of_mem_slipped {sql : String} {stmt : ParsedStatement}
    {rest : List ParsedStatement} {tables : List String} {selected : List SelectedColumn}
    {column : BaseColumn} (hparse : Sqlparse.parse sql = some (stmt :: rest))
    (htables : tables? stmt sql = some tables)
    (hselected : selectedColumns? stmt sql = some selected)
    (h : lower column.name ∈ (if lower column.table ∈ tables then
      (requestedColumns selected (lower column.table)).toFinset else ∅).image lower) :
    Selected sql column := by
  obtain ⟨name, hname, hlower⟩ := Finset.mem_image.mp h
  split at hname
  · next htable =>
    rw [List.mem_toFinset] at hname
    obtain ⟨s, hs, rfl⟩ := List.mem_map.mp hname
    rw [lower_selected hselected (List.mem_filter.mp hs).1] at hlower
    exact ⟨stmt, rest, tables, selected, hparse, htables, hselected, htable, hlower ▸ hname⟩
  · exact absurd hname (Finset.notMem_empty _)

/-- **Which statements keep to every allowlist**, among those that some checker
with a column allowlist accepts: those whose result is made of selected columns
only. -/
theorem allowlistEnforced_iff {catalog : Catalog} {funcHeader : String → List String → String}
    {sql : String} (haccepted : ∃ maxQueryLength tableAllowlist columnAllowlist,
      columnAllowlist ≠ [] ∧
        (init maxQueryLength tableAllowlist columnAllowlist).isSafeSelectQuery sql = true) :
    (∀ maxQueryLength tableAllowlist columnAllowlist,
      (init maxQueryLength tableAllowlist columnAllowlist).isSafeSelectQuery sql = true →
        AllowlistEnforced catalog funcHeader
          (init maxQueryLength tableAllowlist columnAllowlist) sql) ↔
      ∀ column, Reaches catalog funcHeader sql column → Selected sql column := by
  constructor
  · intro h column hreaches
    obtain ⟨maxQueryLength, tableAllowlist, columnAllowlist, hne, hsafe⟩ := haccepted
    obtain ⟨stmt, rest, tables, selected, hparse, htables, hselected, hslipped⟩ :=
      isSafeSelectQuery_slipped hsafe (columnAllowlist_init hne) column
    refine selected_of_mem_slipped hparse htables hselected ?_
    exact h _ _ _ hslipped column hreaches _ (List.lookup_cons_self ..)
  · intro h maxQueryLength tableAllowlist columnAllowlist hsafe column hreaches allowed hallowed
    exact mem_allowed_of_selected hsafe (h column hreaches) hallowed

end

/-! ## Two statements -/

/-- The tokens of a statement that selects one column of one table. -/
def albumTokens (column table : TokenName) (columnText tableText : String) : ParsedStatement where
  type := "SELECT"
  tokens :=
    [.leaf .dml "SELECT" "SELECT", .leaf .other " " " ",
      .group (.identifier column) [.leaf .other columnText columnText], .leaf .other " " " ",
      .leaf .keyword "FROM" "FROM", .leaf .other " " " ",
      .group (.identifier table) [.leaf .other tableText tableText]]

/-- A token parser that knows one statement without functions. -/
@[reducible] def tokensOf (stmt : ParsedStatement) : Sqlparse where
  parse _ := some [stmt]
  functionNames _ := []

/-- The tenant of an album, under an alias of the table. -/
def aliasedText : String := "SELECT a.tenant FROM album a"

def aliasedQuery : Query :=
  .select false [.item (.column (some ⟨"a", false⟩) ⟨"tenant", false⟩) none]
    (some (.table none ⟨"album", false⟩ (some ⟨⟨"a", false⟩, []⟩))) [] none [] none [] {}

def aliasedTokens : ParsedStatement :=
  albumTokens ⟨some "a", some "tenant"⟩ ⟨none, some "album"⟩ "a.tenant" "album a"

/-- A checker that only shows titles accepts it. -/
theorem not_allowlistEnforced_aliased :
    letI := Python.ascii
    ¬ ∀ (_ : Sqlglot) (_ : Sqlparse) (catalog : Catalog)
        (funcHeader : String → List String → String) (sql : String) (maxQueryLength : Nat)
        (tableAllowlist : Finset String) (columnAllowlist : Dict (Finset String)),
      columnAllowlist ≠ [] →
      (init maxQueryLength tableAllowlist columnAllowlist).isSafeSelectQuery sql = true →
        AllowlistEnforced catalog funcHeader
          (init maxQueryLength tableAllowlist columnAllowlist) sql := by
  let _ := Python.ascii
  intro h
  have horigins (fuel : Nat) : originsQuery albumCatalog fuel (fun f _ => f) [] [] [] []
      aliasedQuery = [[⟨none, "album", "tenant"⟩]] := rfl
  have hallowed := h (parserOf aliasedText aliasedQuery) (tokensOf aliasedTokens) albumCatalog
    (fun f _ => f) aliasedText 10000 ∅ [("album", {"title"})] (by decide) (by decide)
    ⟨none, "album", "tenant"⟩
    ⟨aliasedQuery, parseStatements_parserOf (by decide), 0,
      fun fuel _ => ⟨_, horigins fuel ▸ List.mem_singleton_self _, List.mem_singleton_self _⟩⟩
    {"title"} (by decide)
  revert hallowed
  decide

theorem allowlistEnforced_iff_title :
    letI := Python.ascii
    letI := parserOf titleText titleQuery
    letI := tokensOf (albumTokens ⟨none, some "title"⟩ ⟨none, some "album"⟩ "title" "album")
    (∀ maxQueryLength tableAllowlist columnAllowlist,
      (init maxQueryLength tableAllowlist columnAllowlist).isSafeSelectQuery titleText = true →
        AllowlistEnforced albumCatalog (fun f _ => f)
          (init maxQueryLength tableAllowlist columnAllowlist) titleText) ↔
      ∀ column, Reaches albumCatalog (fun f _ => f) titleText column →
        Selected titleText column :=
  let _ := Python.ascii
  let _ := parserOf titleText titleQuery
  let _ := tokensOf (albumTokens ⟨none, some "title"⟩ ⟨none, some "album"⟩ "title" "album")
  allowlistEnforced_iff ⟨10000, ∅, [("album", {"title"})], by decide, by decide⟩

end DbGateway.Sql
