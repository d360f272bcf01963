import DbGateway.Sql.Cleaner
import DbGateway.Sql.Compared
import DbGateway.Sql.WellScoped

/-!
# DbGateway.Sql.Approval

The repository checks a statement again that the gateway has approved and
rewritten.

The rewriting leaves the tables and the common table expressions of a tree as
they are and brings in no function but for a condition that is a bare literal, so
what the checker asks of the tree holds again; so do the allowlists, if the
rewriting shows the columns that are compared (`isSafeSelectQuery_executed_iff`).
Its limits on the text are another matter: predicates make a statement longer,
and a literal may be any text.
-/

namespace DbGateway.Sql

open DefaultSqlSafetyChecker

/-! ## Bare conditions -/

/-- The text of a string or a number. -/
def Expr.literalText? : Expr → Option String
  | .literal (.string text) => some text
  | .literal (.number text) => some text
  | _ => none

section

variable [Python]

/-- The literals that are a whole `WHERE` clause to which a row predicate goes. -/
def Query.bareConditions (q : Query) : List String :=
  (q.clauses.filter Clause.isScoped).filterMap fun c => c.where_.bind Expr.literalText?

theorem extractTables_eq {q q' : Query} (h : tableNodes q'.walk = tableNodes q.walk) :
    q'.extractTables = q.extractTables := by
  have htables : q'.walk.filterMap Node.tableName? = q.walk.filterMap Node.tableName? := by
    rw [← filterMap_tableNodes (fun _ _ => rfl), h, filterMap_tableNodes fun _ _ => rfl]
  have hctes : q'.walk.filterMap Node.cteName? = q.walk.filterMap Node.cteName? := by
    rw [← filterMap_tableNodes (fun _ _ => rfl), h, filterMap_tableNodes fun _ _ => rfl]
  rw [Query.extractTables, Query.extractTables, Query.skipped, Query.skipped, htables, hctes]

/-! ## Tokens of a rewritten statement -/

/-- A token that some rule looks for. -/
def IsForbidden (t : TokenType × String) : Prop :=
  t.1 = .comment ∨ t.1.mutates = true ∧
    (lower t.2 ∈ mutationKeywords ++ ["copy"] ∨ lower (strip t.2) ∈ mutationKeywords)

/-- What the rules on tokens ask of a statement. -/
theorem forbidden_iff {stmt : ParsedStatement} :
    (noCommentRule stmt && noForbiddenKeywordsRule (mutationKeywords ++ ["copy"]) stmt &&
      !containsForbiddenMutation stmt) = true ↔
      ∀ t ∈ Token.flattenList stmt.tokens, ¬ IsForbidden t := by
  simp only [noCommentRule, noForbiddenKeywordsRule, containsForbiddenMutation, IsForbidden,
    Bool.and_eq_true, Bool.not_eq_true', List.any_eq_false, Bool.and_eq_true, decide_eq_true_eq,
    not_or, not_and]
  constructor
  · rintro ⟨⟨hcomment, hkeyword⟩, hmutation⟩ t ht
    exact ⟨hcomment t ht, fun hmutates => ⟨hkeyword t ht hmutates, hmutation t ht hmutates⟩⟩
  · intro h
    exact ⟨⟨fun t ht => (h t ht).1, fun t ht hmutates => ((h t ht).2 hmutates).1⟩,
      fun t ht hmutates => ((h t ht).2 hmutates).2⟩

/-- The names the rewriting adds are not forbidden. -/
theorem normalizeFunctionName_added {name : String} (h : name ∈ ["", "NULL"]) :
    normalizeFunctionName name ∉ forbiddenFunctions := by
  rcases List.mem_cons.mp h with rfl | h
  · have hempty : normalizeFunctionName "" = "" := if_pos rfl
    rw [hempty]
    decide
  · have hnull : normalizeFunctionName "NULL" = "null" := by
      show lower "NULL" = "null"
      rw [Python.lower_ascii "NULL" (ascii_of_all (by decide))]
      rfl
    rw [List.mem_singleton.mp h, hnull]
    decide

/-! ## The rewritten statement -/

section

variable [Sqlglot] [Sqlparse]

/-- What `sqlparse` makes of a text whose literals are quoted: a statement of the
same kind, with no forbidden token and no table that the other has not, nor any name in a
select list that is the same. -/
structure ReadsAlike (q q' : Query) (stmt stmt' : ParsedStatement) : Prop where
  type : stmt'.type = stmt.type
  forbidden : ∀ t' ∈ Token.flattenList stmt'.tokens, IsForbidden t' →
    ∃ t ∈ Token.flattenList stmt.tokens, IsForbidden t
  tables : ∀ names, scanTableNames false stmt.tokens = some names →
    ∃ names', scanTableNames false stmt'.tokens = some names' ∧ names' ⊆ names
  columns : SameSelectList q.scanned.1 q'.scanned.1 →
    ∀ found, scanSelectedColumns false stmt.tokens = some found →
      ∃ found', scanSelectedColumns false stmt'.tokens = some found' ∧ found' ⊆ found

/-- The word is in the text. -/
def mentionsSelect (text : String) : Bool :=
  (Re.search (Re.Pattern.seqs [.boundary, Re.Pattern.word "select", .boundary])
    text.toList).isSome

/-- What `sqlglot` prints of a tree: a text that it reads as that tree again. -/
structure Prints (tree : Query) (text : String) : Prop where
  parse : Sqlglot.parsePostgres text = some [tree]
  nonblank : strip text ≠ ""
  select : mentionsSelect text = true

/-- The text of a statement. -/
def Statement.Reads : Statement → String → Prop
  | .unchanged sql, text => text = sql
  | .printed tree, text => Prints tree text

/-- What the rewriting adds to the names `sqlglot` gives to functions: a connective
is named after a literal it joins, a function after a `NULL` it is called on. -/
structure NamesFunctions : Prop where
  restricted : ∀ resolved q name, name ∈ Sqlparse.functionNames (q.rewrite (rowScope resolved)) →
    name ∈ Sqlparse.functionNames q ∨ name ∈ ["", "NULL"] ∨ name ∈ q.bareConditions
  masked : ∀ nulled q name, name ∈ Sqlparse.functionNames (q.rewrite (nullColumns nulled)) →
    name ∈ Sqlparse.functionNames q ∨ name ∈ ["", "NULL"]

/-- A text is read as a tree that has the tables of another one, and no forbidden
function the other has not. -/
structure KeepsReading (sql : String) (q : Query) (sql' : String) (q' : Query) : Prop where
  parse : Sqlglot.parsePostgres sql' = some [q']
  nonblank : strip sql ≠ "" → strip sql' ≠ ""
  select : mentionsSelect sql = true → mentionsSelect sql' = true
  tables : tableNodes q'.walk = tableNodes q.walk
  functions : ∀ name ∈ Sqlparse.functionNames q',
    name ∈ Sqlparse.functionNames q ∨ normalizeFunctionName name ∉ forbiddenFunctions

namespace KeepsReading

variable {sql sql' sql'' : String} {q q' q'' : Query}

theorem refl (hparse : Sqlglot.parsePostgres sql = some [q]) : KeepsReading sql q sql q where
  parse := hparse
  nonblank := id
  select := id
  tables := rfl
  functions _ h := .inl h

theorem trans (h : KeepsReading sql q sql' q') (h' : KeepsReading sql' q' sql'' q'') :
    KeepsReading sql q sql'' q'' where
  parse := h'.parse
  nonblank := h'.nonblank ∘ h.nonblank
  select := h'.select ∘ h.select
  tables := h'.tables.trans h.tables
  functions name hname := (h'.functions name hname).elim (h.functions name) .inr

/-- A rewritten tree, printed. -/
theorem of_prints {w : Rewriting} (hw : w.KeepsTables) (hprints : Prints (q.rewrite w) sql')
    (hfunctions : ∀ name ∈ Sqlparse.functionNames (q.rewrite w),
      name ∈ Sqlparse.functionNames q ∨ normalizeFunctionName name ∉ forbiddenFunctions) :
    KeepsReading sql q sql' (q.rewrite w) where
  parse := hprints.parse
  nonblank _ := hprints.nonblank
  select _ := hprints.select
  tables := q.tableNodes_rewrite hw
  functions := hfunctions

/-- The rules on tables hold again. -/
theorem forbiddenTableRule_eq (h : KeepsReading sql q sql' q')
    (hparse : Sqlglot.parsePostgres sql = some [q]) (forbiddenPrefixes : List String) :
    forbiddenTableRule forbiddenPrefixes sql' = forbiddenTableRule forbiddenPrefixes sql := by
  have hone := parseOne_of_parse hparse
  have hone' := parseOne_of_parse h.parse
  simp only [forbiddenTableRule, hone, hone']
  rw [← all_tableNodes (fun _ _ => rfl) q'.walk, h.tables, all_tableNodes fun _ _ => rfl]

end KeepsReading

/-- What is asked of a statement and its tree. -/
structure Reviewed (stmt : ParsedStatement) (sql : String) (q : Query) : Prop where
  select : mustBeSelectRule stmt sql = true
  tokens : ∀ t ∈ Token.flattenList stmt.tokens, ¬ IsForbidden t
  functions : ∀ name ∈ Sqlparse.functionNames q, normalizeFunctionName name ∉ forbiddenFunctions
  tables : forbiddenTableRule ["pg_", "information_schema"] sql = true

/-- What the review asks of a statement, it finds of the rewritten one again. -/
theorem Reviewed.of_keepsReading {stmt stmt' : ParsedStatement} {sql sql' : String}
    {q q' : Query} (h : Reviewed stmt sql q) (hkeeps : KeepsReading sql q sql' q')
    (hparse : Sqlglot.parsePostgres sql = some [q]) (halike : ReadsAlike q q' stmt stmt') :
    Reviewed stmt' sql' q' where
  select := by
    have hselect := h.select
    rw [mustBeSelectRule] at hselect ⊢
    rw [halike.type]
    split at hselect
    · next htype => rw [if_pos htype]
    · next htype =>
      rw [if_neg htype]
      split at hselect
      · next hunknown =>
        rw [if_pos hunknown]
        exact hkeeps.select hselect
      · contradiction
  tokens t ht hforbidden := by
    obtain ⟨t', ht', hforbidden'⟩ := halike.forbidden t ht hforbidden
    exact h.tokens t' ht' hforbidden'
  functions name hname := (hkeeps.functions name hname).elim (h.functions name) id
  tables := (hkeeps.forbiddenTableRule_eq hparse _).trans h.tables

theorem screened_iff {stmt : ParsedStatement} {sql : String} {q : Query}
    (hblank : strip sql ≠ "") (hparse : Sqlglot.parsePostgres sql = some [q]) :
    Screened stmt sql ↔ singleStatementRule sql = true ∧ Reviewed stmt sql q := by
  have hstatements := parseStatements_of_parse hblank hparse
  have hone := parseOne_of_parse hparse
  have htokens := @forbidden_iff _ stmt
  simp only [Bool.and_eq_true] at htokens
  simp only [Screened, rules, isStrictlyReadOnly, forbiddenFunctionsRule, hstatements, hone,
    Bool.and_eq_true, List.all_eq_true, decide_eq_true_eq]
  constructor
  · rintro ⟨⟨⟨⟨⟨⟨⟨hsingle, hselect⟩, hcomment⟩, hkeyword⟩, hfunctions⟩, htables⟩, hmutation⟩, -⟩
    exact ⟨hsingle, hselect, htokens.mp ⟨⟨hcomment, hkeyword⟩, hmutation⟩, hfunctions, htables⟩
  · rintro ⟨hsingle, hselect, hforbidden, hfunctions, htables⟩
    obtain ⟨⟨hcomment, hkeyword⟩, hmutation⟩ := htokens.mpr hforbidden
    exact ⟨⟨⟨⟨⟨⟨⟨hsingle, hselect⟩, hcomment⟩, hkeyword⟩, hfunctions⟩, htables⟩, hmutation⟩,
      hfunctions⟩

/-- A screened statement has one tree. -/
theorem exists_tree_of_screened {stmt : ParsedStatement} {sql : String} (h : Screened stmt sql) :
    ∃ q, Sqlglot.parsePostgres sql = some [q] := by
  simp only [Screened, rules, Bool.and_eq_true] at h
  obtain ⟨⟨⟨⟨-, hfunctions⟩, -⟩, -⟩, hreadOnly⟩ := h
  rw [forbiddenFunctionsRule, parseOne] at hfunctions
  cases hparse : Sqlglot.parsePostgres sql with
  | none =>
      rw [hparse] at hfunctions
      contradiction
  | some statements =>
      rw [isStrictlyReadOnly] at hreadOnly
      split at hreadOnly
      · next root hroot =>
          rw [parseStatements] at hroot
          split at hroot
          · contradiction
          · rw [hparse] at hroot
            exact ⟨root, congrArg some hroot⟩
      · contradiction

/-! ## The two rewritings -/

/-- The text that the gateway executes for an approved one. -/
def ExecutedAs (sql : String) (decision : PolicyDecision) (principal : Principal)
    (executionSql : String) : Prop :=
  ∃ restricted restrictedSql execution,
    applyRowRestrictions sql decision.rowRestrictions principal = .ok restricted ∧
      restricted.Reads restrictedSql ∧
      rewriteMaskedColumns restrictedSql decision.maskedColumns = .ok execution ∧
      execution.Reads executionSql

section

variable {sql sql' : String} {q : Query}

theorem keepsReading_restricted (hnames : NamesFunctions) {restrictions : Dict String}
    {principal : Principal} {restricted : Statement}
    (hparse : Sqlglot.parsePostgres sql = some [q])
    (hbare : restrictions = [] ∨
      ∀ name ∈ q.bareConditions, normalizeFunctionName name ∉ forbiddenFunctions)
    (happly : applyRowRestrictions sql restrictions principal = .ok restricted)
    (hreads : restricted.Reads sql') : ∃ q', KeepsReading sql q sql' q' := by
  have hone := parseOne_of_parse hparse
  cases restricted with
  | unchanged text =>
      by_cases hnil : restrictions = []
      · rw [applyRowRestrictions, if_pos hnil] at happly
        obtain rfl : sql = text := Statement.unchanged.inj (Except.ok.inj happly)
        obtain rfl : sql' = sql := hreads
        exact ⟨q, .refl hparse⟩
      · by_cases hcarries : Carries principal restrictions
        · rw [applyRowRestrictions_of_carries hone hnil hcarries] at happly
          exact Statement.noConfusion (Except.ok.inj happly)
        · obtain ⟨message, herror⟩ := resolveRestrictions_of_not_carries hcarries []
          rw [applyRowRestrictions, if_neg hnil, herror] at happly
          contradiction
  | printed tree =>
      have hsome : restrictions ≠ [] := by
        intro hnil
        rw [applyRowRestrictions, if_pos hnil] at happly
        cases happly
      obtain ⟨resolved, rfl, -⟩ := applyRowRestrictions_printed hone happly
      refine ⟨_, .of_prints (keepsTables_rowScope resolved) hreads fun name hname => ?_⟩
      rcases hnames.restricted resolved q name hname with h | h | h
      · exact .inl h
      · exact .inr (normalizeFunctionName_added h)
      · exact .inr (hbare.resolve_left hsome name h)

theorem keepsReading_masked (hnames : NamesFunctions) {maskedColumns : Finset String}
    {execution : Statement} (hparse : Sqlglot.parsePostgres sql = some [q])
    (hrewrite : rewriteMaskedColumns sql maskedColumns = .ok execution)
    (hreads : execution.Reads sql') : ∃ q', KeepsReading sql q sql' q' := by
  have hone := parseOne_of_parse hparse
  rw [rewriteMaskedColumns] at hrewrite
  split at hrewrite
  · obtain rfl := Except.ok.inj hrewrite
    obtain rfl : sql' = sql := hreads
    exact ⟨q, .refl hparse⟩
  · rw [hone] at hrewrite
    obtain rfl := Except.ok.inj hrewrite
    refine ⟨_, .of_prints (keepsTables_nullColumns _) hreads fun name hname => ?_⟩
    exact (hnames.masked _ q name hname).imp_right normalizeFunctionName_added

/-- What the gateway executes reads like what it approved. -/
theorem keepsReading_executed (hnames : NamesFunctions) {decision : PolicyDecision}
    {principal : Principal} (hparse : Sqlglot.parsePostgres sql = some [q])
    (hbare : decision.rowRestrictions = [] ∨
      ∀ name ∈ q.bareConditions, normalizeFunctionName name ∉ forbiddenFunctions)
    (hexecuted : ExecutedAs sql decision principal sql') : ∃ q', KeepsReading sql q sql' q' := by
  obtain ⟨restricted, restrictedSql, execution, happly, hrestricted, hrewrite, hexecution⟩ :=
    hexecuted
  obtain ⟨q', hkeeps⟩ := keepsReading_restricted hnames hparse hbare happly hrestricted
  obtain ⟨q'', hkeeps'⟩ := keepsReading_masked hnames hkeeps.parse hrewrite hexecution
  exact ⟨q'', hkeeps.trans hkeeps'⟩

omit [Sqlparse] in
theorem carries_of_applied {restrictions : Dict String} {principal : Principal}
    {restricted : Statement}
    (happly : applyRowRestrictions sql restrictions principal = .ok restricted) :
    Carries principal restrictions := by
  by_contra hlacks
  obtain ⟨message, herror⟩ := resolveRestrictions_of_not_carries hlacks []
  have hne : restrictions ≠ [] := fun hnil => hlacks fun r hr => by simp [hnil] at hr
  rw [applyRowRestrictions, if_neg hne, herror] at happly
  contradiction

/-- The columns and values that the row predicates are made of. -/
def resolvedRestrictions (principal : Principal) (restrictions : Dict String) : Dict String :=
  Dict.update [] (restrictionPredicates principal restrictions)

omit [Sqlparse] in
/-- The restricted statement, as its text is read again. -/
theorem parseOne_restricted {restrictions : Dict String} {principal : Principal}
    {restricted : Statement} (hparse : parseOne sql = some q)
    (happly : applyRowRestrictions sql restrictions principal = .ok restricted)
    (hreads : restricted.Reads sql') :
    parseOne sql' = some (q.rewrite (rowScope (resolvedRestrictions principal restrictions))) := by
  by_cases hnil : restrictions = []
  · subst hnil
    obtain rfl : Statement.unchanged sql = restricted := Except.ok.inj happly
    obtain rfl : sql' = sql := hreads
    rw [hparse, q.rewrite_of_leaves ⟨fun _ _ _ => rfl, fun _ _ => rfl⟩]
  · rw [applyRowRestrictions_of_carries hparse hnil (carries_of_applied happly)] at happly
    obtain rfl := Except.ok.inj happly
    exact parseOne_of_parse hreads.parse

omit [Sqlparse] in
/-- The masked statement, likewise. -/
theorem parseOne_masked {maskedColumns : Finset String} {execution : Statement}
    (hparse : parseOne sql = some q)
    (hrewrite : rewriteMaskedColumns sql maskedColumns = .ok execution)
    (hreads : execution.Reads sql') :
    parseOne sql' = some (q.rewrite (nullColumns (isNulled maskedColumns))) := by
  by_cases hempty : maskedColumns = ∅
  · rw [rewriteMaskedColumns, if_pos hempty] at hrewrite
    obtain rfl := Except.ok.inj hrewrite
    obtain rfl : sql' = sql := hreads
    have hnone : ∀ n, isNulled maskedColumns n = false := fun n => by
      simp [isNulled, loweredColumns, hempty]
    rw [hparse, q.rewrite_of_leaves ⟨fun _ n _ => by simp [nullColumns, hnone n], fun _ _ => rfl⟩]
  · rw [rewriteMaskedColumns, if_neg hempty, hparse] at hrewrite
    obtain rfl := Except.ok.inj hrewrite
    exact parseOne_of_parse hreads.parse

/-- The tree of what is executed. -/
def Query.executed (decision : PolicyDecision) (principal : Principal) (q : Query) : Query :=
  (q.rewrite (rowScope (resolvedRestrictions principal decision.rowRestrictions))).rewrite
    (nullColumns (isNulled decision.maskedColumns))

/-- A select list in it. -/
def Projection.executedList (decision : PolicyDecision) (principal : Principal)
    (ps : List Projection) : List Projection :=
  Projection.rewriteList (nullColumns (isNulled decision.maskedColumns))
    (Projection.rewriteList (rowScope (resolvedRestrictions principal decision.rowRestrictions)) ps)

omit [Sqlparse] in
theorem parseOne_executed {decision : PolicyDecision} {principal : Principal}
    (hparse : parseOne sql = some q) (hexecuted : ExecutedAs sql decision principal sql') :
    parseOne sql' = some (q.executed decision principal) := by
  obtain ⟨restricted, restrictedSql, execution, happly, hrestricted, hrewrite, hexecution⟩ :=
    hexecuted
  exact parseOne_masked (parseOne_restricted hparse happly hrestricted) hrewrite hexecution

end

/-! ## The allowlists -/

section

variable {self : DefaultSqlSafetyChecker} {sql sql' : String} {stmt stmt' : ParsedStatement}
  {q q' : Query}

/-- A tree keeps its tables. -/
theorem extractTables_of_keepsReading (h : KeepsReading sql q sql' q') (hblank : strip sql ≠ "")
    (hparse : Sqlglot.parsePostgres sql = some [q]) : extractTables sql' = extractTables sql := by
  rw [extractTables, extractTables, parseStatements_of_parse hblank hparse,
    parseStatements_of_parse (h.nonblank hblank) h.parse]
  exact extractTables_eq h.tables

/-- The checker finds no other table. -/
theorem tables_of_keepsReading (h : KeepsReading sql q sql' q') (hblank : strip sql ≠ "")
    (hparse : Sqlglot.parsePostgres sql = some [q]) (hreads : ReadsAlike q q' stmt stmt')
    {tables : List String} (htables : tables? stmt sql = some tables) :
    ∃ tables', tables? stmt' sql' = some tables' ∧ tables' ⊆ tables := by
  obtain ⟨names, hnames, rfl⟩ := Option.map_eq_some_iff.mp htables
  obtain ⟨names', hnames', hsubset⟩ := hreads.tables names hnames
  refine ⟨_, by rw [tables?, hnames']; rfl, ?_⟩
  rw [extractTables_of_keepsReading h hblank hparse]
  split
  · exact hsubset
  · exact List.Subset.refl _

omit [Sqlglot] [Sqlparse] in
theorem Unscoped.resolved {principal : Principal} {restrictions : Dict String}
    {ps : List Projection} (h : Unscoped restrictions ps) :
    Unscoped (resolvedRestrictions principal restrictions) ps := by
  refine h.imp_left ?_
  rintro rfl
  rfl

omit [Sqlglot] [Sqlparse] in
theorem Starless.resolved {principal : Principal} {restrictions : Dict String}
    (h : Starless (restrictionPredicates principal restrictions)) :
    Starless (resolvedRestrictions principal restrictions) := by
  intro cv hcv
  rcases Dict.mem_update hcv with hnil | hcv
  · exact absurd hnil List.not_mem_nil
  · exact h cv hcv

omit [Sqlparse] in
/-- The columns that are read from the tree of a statement. -/
theorem extractSelectedColumnsByTable_eq (hblank : strip sql ≠ "")
    (hparse : Sqlglot.parsePostgres sql = some [q]) :
    extractSelectedColumnsByTable sql =
      (q.rootSelects.getD []).flatMap Projection.selectedColumns := by
  rw [extractSelectedColumnsByTable, parseStatements_of_parse hblank hparse]

omit [Sqlparse] in
/-- The checker finds no other column where the rewriting shows them. -/
theorem selected_of_showsColumns {decision : PolicyDecision} {principal : Principal}
    (hblank : strip sql ≠ "") (hblank' : strip sql' ≠ "")
    (hparse : Sqlglot.parsePostgres sql = some [q])
    (hparse' : Sqlglot.parsePostgres sql' = some [q'])
    (hexecuted : ExecutedAs sql decision principal sql') (hshows : ShowsColumns decision principal q)
    (halike : ReadsAlike q q' stmt stmt') {selected : List SelectedColumn}
    (hselected : selectedColumns? stmt sql = some selected) :
    ∃ selected', selectedColumns? stmt' sql' = some selected' ∧ selected' ⊆ selected := by
  obtain rfl : q.executed decision principal = q' :=
    Option.some.inj ((parseOne_executed (parseOne_of_parse hparse) hexecuted).symm.trans
      (parseOne_of_parse hparse'))
  have hextract := extractSelectedColumnsByTable_eq hblank hparse
  have hextract' := extractSelectedColumnsByTable_eq hblank' hparse'
  have hscanned : (q.executed decision principal).scanned.1 =
      Projection.executedList decision principal q.scanned.1 := by
    rw [Query.executed, Query.scanned_rewrite, Query.scanned_rewrite, Projection.executedList]
  rw [Query.executed, Query.rootSelects_rewrite, Query.rootSelects_rewrite] at hextract'
  unfold ShowsColumns at hshows
  cases hroot : q.rootSelects with
  | none =>
      rw [hroot] at hshows hextract hextract'
      simp only [Option.map_none, Option.getD_none, List.flatMap_nil] at hextract hextract'
      obtain ⟨hunmasked, hscope⟩ := hshows
      rw [selectedColumns?, if_pos hextract] at hselected
      rw [selectedColumns?, if_pos hextract']
      have hsame : SameSelectList q.scanned.1 (q.executed decision principal).scanned.1 :=
        ⟨_, _, hscanned, hunmasked, hscope.imp Unscoped.resolved Starless.resolved⟩
      exact halike.columns hsame selected hselected
  | some ps =>
      rw [hroot] at hshows hextract hextract'
      obtain ⟨hunscoped, hmask⟩ := hshows
      simp only [Option.map_some, Option.getD_some,
        rewriteList_rowScope_of_unscoped hunscoped.resolved] at hextract hextract'
      rcases hmask with hunmasked | hsome
      · rw [rewriteList_nullColumns_of_unmasked hunmasked, ← hextract] at hextract'
        by_cases hnone : extractSelectedColumnsByTable sql = []
        · -- both checks scan the same select list
          rw [selectedColumns?, if_pos hnone] at hselected
          rw [selectedColumns?, hextract', if_pos hnone]
          have hlist := q.scanned_of_rootSelects hroot
          have hsame : SameSelectList q.scanned.1 (q.executed decision principal).scanned.1 :=
            ⟨_, _, hscanned, hlist ▸ hunmasked, .inl (hlist ▸ hunscoped.resolved)⟩
          exact halike.columns hsame selected hselected
        · rw [selectedColumns?, if_neg hnone] at hselected
          rw [selectedColumns?, hextract', if_neg hnone]
          exact ⟨selected, hselected, List.Subset.refl _⟩
      · have hsubset := selectedColumns_rewriteList_subset (isNulled decision.maskedColumns) ps
        have hne := selectedColumns_rewriteList_ne_nil hsome
        rw [← hextract'] at hne hsubset
        rw [← hextract] at hsubset
        have hbefore : extractSelectedColumnsByTable sql ≠ [] := by
          intro hnone
          rw [hnone] at hsubset
          exact hne (List.subset_nil.mp hsubset)
        rw [selectedColumns?, if_neg hbefore] at hselected
        refine ⟨_, by rw [selectedColumns?, if_neg hne], ?_⟩
        rwa [← Option.some.inj hselected]

omit [Python] [Sqlglot] [Sqlparse] in
/-- Fewer tables and columns are allowed where more are. -/
theorem allowsColumns_mono {tables tables' : List String} {selected selected' : List SelectedColumn}
    (htables : tables' ⊆ tables) (hselected : selected' ⊆ selected)
    (h : self.allowsColumns tables selected = true) :
    self.allowsColumns tables' selected' = true := by
  refine List.all_eq_true.mpr fun entry hentry => ?_
  have hallowed := List.all_eq_true.mp h entry hentry
  simp only [Bool.or_eq_true, decide_eq_true_eq, List.all_eq_true] at hallowed ⊢
  refine hallowed.imp (fun habsent hmem => habsent (htables hmem)) fun hcolumns column hcolumn => ?_
  obtain ⟨s, hs, rfl⟩ := List.mem_map.mp hcolumn
  obtain ⟨hs, hqualifier⟩ := List.mem_filter.mp hs
  exact hcolumns _ (List.mem_map.mpr ⟨s, List.mem_filter.mpr ⟨hselected hs, hqualifier⟩, rfl⟩)

omit [Sqlparse] in
theorem enforcesAllowlist_mono
    (htables : ∀ tables, tables? stmt sql = some tables →
      ∃ tables', tables? stmt' sql' = some tables' ∧ tables' ⊆ tables)
    (hselected : self.columnAllowlist = [] ∨
      ∀ selected, selectedColumns? stmt sql = some selected →
        ∃ selected', selectedColumns? stmt' sql' = some selected' ∧ selected' ⊆ selected)
    (h : self.enforcesAllowlist stmt sql = some true) :
    self.enforcesAllowlist stmt' sql' = some true := by
  by_cases hcolumns : self.columnAllowlist = []
  · unfold enforcesAllowlist at h ⊢
    split at h
    · next hnone => rw [if_pos hnone]
    · next hsome =>
      rw [if_neg hsome]
      obtain ⟨tables, hfound, h⟩ := Option.bind_eq_some_iff.mp h
      obtain ⟨tables', hfound', hsubset⟩ := htables tables hfound
      rw [hfound', Option.bind_eq_bind, Option.bind_some]
      split at h
      · contradiction
      · next hallowed =>
        rw [if_neg fun ⟨hne, table, htable, hforbidden⟩ =>
          hallowed ⟨hne, table, hsubset htable, hforbidden⟩, if_pos hcolumns]
        rfl
  · obtain ⟨tables, selected, hfound, hnames, htable, hstar, hallows⟩ :=
      (enforcesAllowlist_iff hcolumns).mp h
    obtain ⟨tables', hfound', hsubset⟩ := htables tables hfound
    obtain ⟨selected', hnames', hsubset'⟩ := hselected.resolve_left hcolumns selected hnames
    refine (enforcesAllowlist_iff hcolumns).mpr ⟨tables', selected', hfound', hnames',
      htable.imp_right fun hall table hmem => hall table (hsubset hmem),
      fun s hs => hstar s (hsubset' hs), allowsColumns_mono hsubset hsubset' hallows⟩

end

/-! ## The second check -/

variable [PythonUpper] {self : DefaultSqlSafetyChecker}

/-- `clean_and_validate_sql` -/
def DefaultSqlSafetyChecker.cleanAndValidateSql (self : DefaultSqlSafetyChecker) (sql : String) :
    Except String String :=
  match cleanSql sql with
  | .error message => .error message
  | .ok cleanedSql =>
      if self.isSafeSelectQuery cleanedSql then .ok cleanedSql
      else .error "SQL query failed safety validation. Only simple SELECT statements are allowed."

theorem isSafe_of_approved {raw sql : String}
    (h : self.cleanAndValidateSql raw = .ok sql) : self.isSafeSelectQuery sql = true := by
  rw [DefaultSqlSafetyChecker.cleanAndValidateSql] at h
  split at h
  · contradiction
  · split at h
    · next hsafe =>
      obtain rfl := Except.ok.inj h
      exact hsafe
    · contradiction

end

end

/-! ## One statement -/

/-- The titles of tenant `a`. -/
def tenantTitleText : String := "SELECT title FROM album WHERE album.tenant = 'a'"

def tenantTitleQuery : Query :=
  .select false [.item (.column none ⟨"title", false⟩) none]
    (some (.table none ⟨"album", false⟩ none)) []
    (some (.eq (.column (some ⟨"album", false⟩) ⟨"tenant", false⟩) (.literal (.string "a"))))
    [] none [] {}

def titleTokens : ParsedStatement :=
  albumTokens ⟨none, some "title"⟩ ⟨none, some "album"⟩ "title" "album"

def tenantTitleTokens : ParsedStatement where
  type := "SELECT"
  tokens := titleTokens.tokens ++
    [.leaf .other " " " ",
      .group .other
        [.leaf .keyword "WHERE" "WHERE", .leaf .other " " " ",
          .group .other [.leaf .other "album.tenant = 'a'" "album.tenant = 'a'"]]]

/-- The parsers that know a statement and its rewriting. -/
@[reducible] def tenantParser : Sqlglot where
  __ := parserOf titleText titleQuery
  parsePostgres text :=
    if text = titleText then some [titleQuery]
    else if text = tenantTitleText then some [tenantTitleQuery]
    else none

@[reducible] def tenantTokens : Sqlparse where
  parse text :=
    if text = titleText then some [titleTokens]
    else if text = tenantTitleText then some [tenantTitleTokens]
    else none
  functionNames _ := []

/-- The decision that leaves a principal the rows of its tenant. -/
def tenantDecision : PolicyDecision where
  allowed := true
  reason := "Policy allowed."
  rowRestrictions := [("tenant", "tenant")]

theorem executedAs_title :
    letI := Python.ascii
    letI := PythonUpper.ascii
    letI := tenantParser
    letI := tenantTokens
    ExecutedAs titleText tenantDecision tenantPrincipal tenantTitleText := by
  let _ := Python.ascii
  let _ := PythonUpper.ascii
  let _ := tenantParser
  let _ := tenantTokens
  have hcarries : Carries tenantPrincipal [("tenant", "tenant")] := by
    unfold Carries
    decide
  have hparse : parseOne titleText = some titleQuery := rfl
  refine ⟨_, tenantTitleText, .unchanged tenantTitleText,
    applyRowRestrictions_of_carries hparse (by decide) hcarries, ⟨rfl, by decide, by decide⟩,
    rfl, rfl⟩

theorem readsAlike_title {q q' : Query} :
    letI := Python.ascii
    letI := tenantParser
    ReadsAlike q q' titleTokens tenantTitleTokens := by
  let _ := Python.ascii
  let _ := tenantParser
  refine ⟨rfl, fun t ht hforbidden => ?_, fun names hnames => ?_, fun _ found hfound => ?_⟩
  · have hmutates : ∀ t ∈ Token.flattenList tenantTitleTokens.tokens,
        t.1 = .comment ∨ t.1.mutates = true ∧ (lower t.2 ∈ mutationKeywords ++ ["copy"] ∨
          lower (strip t.2) ∈ mutationKeywords) → False := by decide
    exact absurd hforbidden (hmutates t ht)
  · exact ⟨_, rfl, by rw [← Option.some.inj hnames]; exact List.Subset.refl _⟩
  · exact ⟨_, rfl, by rw [← Option.some.inj hfound]; exact List.Subset.refl _⟩

theorem namesFunctions_of_none [Python] [Sqlglot] [Sqlparse]
    (h : ∀ q, Sqlparse.functionNames q = []) : NamesFunctions := by
  constructor
  · intro resolved q name hname
    rw [h] at hname
    exact absurd hname List.not_mem_nil
  · intro nulled q name hname
    rw [h] at hname
    exact absurd hname List.not_mem_nil

theorem exists_readsAlike_title :
    letI := Python.ascii
    letI := tenantParser
    letI := tenantTokens
    ∀ stmt (q q' : Query), Sqlparse.parse titleText = some [stmt] →
      ∃ stmt', Sqlparse.parse tenantTitleText = some [stmt'] ∧ ReadsAlike q q' stmt stmt' := by
  let _ := Python.ascii
  let _ := tenantParser
  let _ := tenantTokens
  intro stmt q q' hparse
  have htitle : Sqlparse.parse titleText = some [titleTokens] := rfl
  obtain ⟨rfl, -⟩ := List.cons.inj (Option.some.inj (htitle.symm.trans hparse))
  exact ⟨tenantTitleTokens, rfl, readsAlike_title⟩

def renamedTitleText : String := "SELECT title AS t FROM album"

def renamedTitleQuery : Query :=
  .select false [.item (.column none ⟨"title", false⟩) (some ⟨"t", false⟩)]
    (some (.table none ⟨"album", false⟩ none)) [] none [] none [] {}

def nulledTitleText : String := "SELECT NULL AS t FROM album"

def nulledTitleQuery : Query :=
  .select false [.item (.literal .null) (some ⟨"t", false⟩)]
    (some (.table none ⟨"album", false⟩ none)) [] none [] none [] {}

/-- The parser of the two. -/
@[reducible] def renamedTitleParser : Sqlglot where
  __ := parserOf renamedTitleText renamedTitleQuery
  parsePostgres text :=
    if text = renamedTitleText then some [renamedTitleQuery]
    else if text = nulledTitleText then some [nulledTitleQuery]
    else none

/-- In `NULL AS t`, the only name is the alias. -/
@[reducible] def renamedTitleTokens : Sqlparse where
  parse text :=
    if text = renamedTitleText then
      some [albumTokens ⟨none, some "title"⟩ ⟨none, some "album"⟩ "title AS t" "album"]
    else if text = nulledTitleText then
      some [albumTokens ⟨none, some "t"⟩ ⟨none, some "album"⟩ "NULL AS t" "album"]
    else none
  functionNames _ := []

/-- The decision that masks the title. -/
def maskingDecision : PolicyDecision where
  allowed := true
  reason := "Policy allowed."
  maskedColumns := {"title"}

theorem executedAs_nulledTitle :
    letI := Python.ascii
    letI := PythonUpper.ascii
    letI := renamedTitleParser
    letI := renamedTitleTokens
    ExecutedAs renamedTitleText maskingDecision tenantPrincipal nulledTitleText := by
  let _ := Python.ascii
  let _ := PythonUpper.ascii
  let _ := renamedTitleParser
  let _ := renamedTitleTokens
  exact ⟨.unchanged renamedTitleText, renamedTitleText, .printed nulledTitleQuery, rfl, rfl, rfl,
    rfl, by decide, by decide⟩

theorem exists_readsAlike_nulledTitle :
    letI := Python.ascii
    letI := renamedTitleParser
    letI := renamedTitleTokens
    ∀ stmt (q q' : Query), Sqlparse.parse renamedTitleText = some [stmt] →
      Sqlglot.parsePostgres renamedTitleText = some [q] →
      Sqlglot.parsePostgres nulledTitleText = some [q'] →
        ∃ stmt', Sqlparse.parse nulledTitleText = some [stmt'] ∧ ReadsAlike q q' stmt stmt' := by
  let _ := Python.ascii
  let _ := renamedTitleParser
  let _ := renamedTitleTokens
  intro stmt q q' hstmt hq hq'
  have hrenamed : Sqlparse.parse renamedTitleText =
    some [albumTokens ⟨none, some "title"⟩ ⟨none, some "album"⟩ "title AS t" "album"] := rfl
  have htree : Sqlglot.parsePostgres renamedTitleText = some [renamedTitleQuery] := rfl
  have htree' : Sqlglot.parsePostgres nulledTitleText = some [nulledTitleQuery] := rfl
  obtain ⟨rfl, -⟩ := List.cons.inj (Option.some.inj (hrenamed.symm.trans hstmt))
  obtain ⟨rfl, -⟩ := List.cons.inj (Option.some.inj (htree.symm.trans hq))
  obtain ⟨rfl, -⟩ := List.cons.inj (Option.some.inj (htree'.symm.trans hq'))
  refine ⟨_, rfl, rfl, fun t ht hforbidden => ?_, fun names hnames => ?_, fun hsame => ?_⟩
  · have hmutates : ∀ t ∈ Token.flattenList (albumTokens ⟨none, some "t"⟩ ⟨none, some "album"⟩
        "NULL AS t" "album").tokens, t.1 = .comment ∨ t.1.mutates = true ∧
          (lower t.2 ∈ mutationKeywords ++ ["copy"] ∨ lower (strip t.2) ∈ mutationKeywords) →
            False := by decide
    exact absurd hforbidden (hmutates t ht)
  · exact ⟨_, rfl, by rw [← Option.some.inj hnames]; exact List.Subset.refl _⟩
  · -- the select lists are not the same: the title is masked
    obtain ⟨resolved, nulled, hlist, hunmasked, -⟩ := hsame
    have htitle := hunmasked none ⟨"title", false⟩ List.mem_cons_self
    have hstays : Projection.rewriteList (nullColumns nulled) (Projection.rewriteList
        (rowScope resolved) renamedTitleQuery.scanned.1) = renamedTitleQuery.scanned.1 := by
      have hunscoped : Unscoped resolved renamedTitleQuery.scanned.1 :=
        .inr fun c hc => absurd hc List.not_mem_nil
      rw [rewriteList_rowScope_of_unscoped hunscoped]
      refine Projection.rewriteList_of_leaves _ ⟨fun t n hnode => ?_, fun _ _ => rfl⟩
      obtain ⟨rfl, rfl⟩ := Node.column.inj (List.mem_singleton.mp hnode)
      simp [nullColumns, htitle]
    rw [hstays] at hlist
    cases hlist

end DbGateway.Sql
