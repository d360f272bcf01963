import DbGateway.Sql.Semantics
import DbGateway.Sql.Sqlglot
import DbGateway.Sql.Text

/-!
# DbGateway.Sql.Tables

Which tables a statement reads, and which ones `tables_touched` reports.

A table reference is bound by a common table expression visible where it
stands, or it reads a physical table (`Query.reads`).  `extract_tables` instead
leaves out every reference whose lower-cased name is that of some common table
expression anywhere in the statement, and falls back to a pattern over the text
when nothing is left.
-/

namespace DbGateway.Sql

/-- A table reference: its schema and name. -/
abbrev TableRef := Option Identifier × Identifier

/-! ## What a query reads -/

/-- The reference is bound by a common table expression; one with a schema never
is. -/
def isBound (scope : List String) (db : Option Identifier) (name : Identifier) : Bool :=
  db.isNone && scope.contains name.folded

mutual

/-- The references to physical tables, where `scope` are the common table
expressions in scope. -/
def Expr.reads (scope : List String) : Expr → List (TableRef)
  | .column _ _ => []
  | .literal _ => []
  | .func _ args => Expr.readsList scope args
  | .eq l r => l.reads scope ++ r.reads scope
  | .and_ l r => l.reads scope ++ r.reads scope
  | .aggregate _ args => Expr.readsList scope args
  | .scalar q => q.reads scope
  | .exists_ q => q.reads scope
  | .in_ e q => e.reads scope ++ q.reads scope

def Expr.readsList (scope : List String) : List Expr → List (TableRef)
  | [] => []
  | e :: es => e.reads scope ++ Expr.readsList scope es

def Expr.readsOption (scope : List String) : Option Expr → List (TableRef)
  | none => []
  | some e => e.reads scope

def Projection.reads (scope : List String) : Projection → List (TableRef)
  | .star => []
  | .tableStar _ => []
  | .item e _ => e.reads scope

def Projection.readsList (scope : List String) :
    List Projection → List (TableRef)
  | [] => []
  | p :: ps => p.reads scope ++ Projection.readsList scope ps

def Query.reads (scope : List String) : Query → List (TableRef)
  | .select _ expressions from_ joins where_ group having order _ =>
      Projection.readsList scope expressions ++ Source.readsOption scope from_ ++
        Join.readsList scope joins ++ Expr.readsOption scope where_ ++
        Expr.readsList scope group ++ Expr.readsOption scope having ++ Expr.readsList scope order
  | .setOperation _ _ l r order _ => l.reads scope ++ r.reads scope ++ Expr.readsList scope order
  | .with_ recursive ctes q =>
      if recursive then
        Cte.readsTogether (ctes.map Cte.name ++ scope) ctes ++ q.reads (ctes.map Cte.name ++ scope)
      else Cte.readsList scope ctes ++ q.reads ((ctes.map Cte.name).reverse ++ scope)
  | .subquery q => q.reads scope

/-- Each common table expression sees the ones before it, not itself. -/
def Cte.readsList (scope : List String) : List Cte → List (TableRef)
  | [] => []
  | .cte name _ q :: cs => q.reads scope ++ Cte.readsList (name.folded :: scope) cs

/-- Under `RECURSIVE` all are in scope of each. -/
def Cte.readsTogether (scope : List String) : List Cte → List (TableRef)
  | [] => []
  | .cte _ _ q :: cs => q.reads scope ++ Cte.readsTogether scope cs

def Source.reads (scope : List String) : Source → List (TableRef)
  | .table db name _ => if isBound scope db name then [] else [(db, name)]
  | .derived q _ => q.reads scope
  | .paren s joins _ => s.reads scope ++ Join.readsList scope joins

def Source.readsOption (scope : List String) :
    Option Source → List (TableRef)
  | none => []
  | some s => s.reads scope

def Join.readsList (scope : List String) : List Join → List (TableRef)
  | [] => []
  | .join _ s on _ :: js =>
      s.reads scope ++ Expr.readsOption scope on ++ Join.readsList scope js

end

/-! ## What is found in the tree -/

section

variable [Python]

/-- The lower-cased name of a `Table` node. -/
def Node.tableName? : Node → Option String
  | .table _ name => some (lower name.name)
  | _ => none

/-- The lower-cased name of a `CTE` node. -/
def Node.cteName? : Node → Option String
  | .cte name => some (lower name.name)
  | _ => none

/-- The names `extract_tables` skips: the empty one, and those of the common
table expressions, wherever they are bound. -/
def Query.skipped (q : Query) : List String := "" :: q.walk.filterMap Node.cteName?

/-- `extract_tables` of a parsed statement. -/
def Query.extractTables (q : Query) : List String :=
  ((q.walk.filterMap Node.tableName?).filter (· ∉ q.skipped)).eraseDups

variable [Sqlglot]

/-- `AstSqlAnalyzer.extract_tables` -/
def extractTables (sql : String) : List String :=
  match parseStatements sql with
  | [] => []
  | root :: _ => root.extractTables

/-- `tables_touched` -/
def tablesTouched (sql : String) : List String :=
  let astTables := extractTables sql
  if astTables ≠ [] then astTables else tablesByPattern sql

end

/-! ## Every read is a node -/

mutual

theorem Expr.mem_walk_of_mem_reads {scope : List String} {t : TableRef} :
    ∀ (e : Expr), t ∈ e.reads scope → Node.table t.1 t.2 ∈ e.walk
  | .column _ _, h => absurd h List.not_mem_nil
  | .literal _, h => absurd h List.not_mem_nil
  | .func _ args, h => Expr.mem_walkList_of_mem_reads args h
  | .eq l r, h => (List.mem_append.mp h).elim
      (fun h => List.mem_append_left _ (l.mem_walk_of_mem_reads h))
      fun h => List.mem_append_right _ (r.mem_walk_of_mem_reads h)
  | .and_ l r, h => (List.mem_append.mp h).elim
      (fun h => List.mem_append_left _ (l.mem_walk_of_mem_reads h))
      fun h => List.mem_append_right _ (r.mem_walk_of_mem_reads h)
  | .aggregate _ args, h => Expr.mem_walkList_of_mem_reads args h
  | .scalar q, h => q.mem_walk_of_mem_reads h
  | .exists_ q, h => q.mem_walk_of_mem_reads h
  | .in_ e q, h => (List.mem_append.mp h).elim
      (fun h => List.mem_append_left _ (e.mem_walk_of_mem_reads h))
      fun h => List.mem_append_right _ (q.mem_walk_of_mem_reads h)

theorem Expr.mem_walkList_of_mem_reads {scope : List String}
    {t : TableRef} :
    ∀ (es : List Expr), t ∈ Expr.readsList scope es → Node.table t.1 t.2 ∈ Expr.walkList es
  | [], h => absurd h List.not_mem_nil
  | e :: es, h => (List.mem_append.mp h).elim
      (fun h => List.mem_append_left _ (e.mem_walk_of_mem_reads h))
      fun h => List.mem_append_right _ (Expr.mem_walkList_of_mem_reads es h)

theorem Expr.mem_walkOption_of_mem_reads {scope : List String}
    {t : TableRef} :
    ∀ (e : Option Expr), t ∈ Expr.readsOption scope e → Node.table t.1 t.2 ∈ Expr.walkOption e
  | none, h => absurd h List.not_mem_nil
  | some e, h => e.mem_walk_of_mem_reads h

theorem Projection.mem_walkList_of_mem_reads {scope : List String}
    {t : TableRef} :
    ∀ (ps : List Projection), t ∈ Projection.readsList scope ps →
      Node.table t.1 t.2 ∈ Projection.walkList ps
  | [], h => absurd h List.not_mem_nil
  | .star :: ps, h => Projection.mem_walkList_of_mem_reads ps h
  | .tableStar _ :: ps, h =>
      List.mem_append_right _ (Projection.mem_walkList_of_mem_reads ps h)
  | .item e _ :: ps, h => (List.mem_append.mp h).elim
      (fun h => List.mem_append_left _ (e.mem_walk_of_mem_reads h))
      fun h => List.mem_append_right _ (Projection.mem_walkList_of_mem_reads ps h)

theorem Query.mem_walk_of_mem_reads {scope : List String} {t : TableRef} :
    ∀ (q : Query), t ∈ q.reads scope → Node.table t.1 t.2 ∈ q.walk
  | .select _ expressions from_ joins where_ group having order _, h => by
      simp only [Query.reads, List.mem_append] at h
      simp only [Query.walk, List.mem_append]
      rcases h with (((((h | h) | h) | h) | h) | h) | h
      · simp [Projection.mem_walkList_of_mem_reads expressions h]
      · simp [Source.mem_walkOption_of_mem_reads from_ h]
      · simp [Join.mem_walkList_of_mem_reads joins h]
      · simp [Expr.mem_walkOption_of_mem_reads where_ h]
      · simp [Expr.mem_walkList_of_mem_reads group h]
      · simp [Expr.mem_walkOption_of_mem_reads having h]
      · simp [Expr.mem_walkList_of_mem_reads order h]
  | .setOperation _ _ l r order _, h => by
      simp only [Query.reads, List.mem_append] at h
      simp only [Query.walk, List.mem_append]
      rcases h with (h | h) | h
      · exact .inl (.inl (l.mem_walk_of_mem_reads h))
      · exact .inl (.inr (r.mem_walk_of_mem_reads h))
      · exact .inr (Expr.mem_walkList_of_mem_reads order h)
  | .with_ recursive ctes q, h => by
      simp only [Query.reads] at h
      simp only [Query.walk, List.mem_append]
      split at h
      · rcases List.mem_append.mp h with h | h
        · exact .inl (Cte.mem_walkList_of_mem_readsTogether ctes h)
        · exact .inr (q.mem_walk_of_mem_reads h)
      · rcases List.mem_append.mp h with h | h
        · exact .inl (Cte.mem_walkList_of_mem_reads ctes h)
        · exact .inr (q.mem_walk_of_mem_reads h)
  | .subquery q, h => q.mem_walk_of_mem_reads h

theorem Cte.mem_walkList_of_mem_reads {scope : List String}
    {t : TableRef} :
    ∀ (cs : List Cte), t ∈ Cte.readsList scope cs → Node.table t.1 t.2 ∈ Cte.walkList cs
  | [], h => absurd h List.not_mem_nil
  | .cte _ _ q :: cs, h => (List.mem_append.mp h).elim
      (fun h => List.mem_append_left _ (List.mem_cons_of_mem _ (q.mem_walk_of_mem_reads h)))
      fun h => List.mem_append_right _ (Cte.mem_walkList_of_mem_reads cs h)

theorem Cte.mem_walkList_of_mem_readsTogether {scope : List String}
    {t : TableRef} :
    ∀ (cs : List Cte), t ∈ Cte.readsTogether scope cs → Node.table t.1 t.2 ∈ Cte.walkList cs
  | [], h => absurd h List.not_mem_nil
  | .cte _ _ q :: cs, h => (List.mem_append.mp h).elim
      (fun h => List.mem_append_left _ (List.mem_cons_of_mem _ (q.mem_walk_of_mem_reads h)))
      fun h => List.mem_append_right _ (Cte.mem_walkList_of_mem_readsTogether cs h)

theorem Source.mem_walk_of_mem_reads {scope : List String} {t : TableRef} :
    ∀ (s : Source), t ∈ s.reads scope → Node.table t.1 t.2 ∈ s.walk
  | .table db name _, h => by
      simp only [Source.reads] at h
      split at h
      · exact absurd h List.not_mem_nil
      · rw [List.mem_singleton.mp h]
        exact List.mem_singleton_self _
  | .derived q _, h => q.mem_walk_of_mem_reads h
  | .paren s joins _, h => (List.mem_append.mp h).elim
      (fun h => List.mem_append_left _ (s.mem_walk_of_mem_reads h))
      fun h => List.mem_append_right _ (Join.mem_walkList_of_mem_reads joins h)

theorem Source.mem_walkOption_of_mem_reads {scope : List String}
    {t : TableRef} :
    ∀ (s : Option Source), t ∈ Source.readsOption scope s →
      Node.table t.1 t.2 ∈ Source.walkOption s
  | none, h => absurd h List.not_mem_nil
  | some s, h => s.mem_walk_of_mem_reads h

theorem Join.mem_walkList_of_mem_reads {scope : List String}
    {t : TableRef} :
    ∀ (js : List Join), t ∈ Join.readsList scope js → Node.table t.1 t.2 ∈ Join.walkList js
  | [], h => absurd h List.not_mem_nil
  | .join _ s on _ :: js, h => by
      simp only [Join.readsList, List.mem_append] at h
      simp only [Join.walkList, Join.walk, List.mem_append]
      rcases h with (h | h) | h
      · exact .inl (.inl (s.mem_walk_of_mem_reads h))
      · exact .inl (.inr (Expr.mem_walkOption_of_mem_reads on h))
      · exact .inr (Join.mem_walkList_of_mem_reads js h)

end

/-! ## The tables reported -/

section

variable [Python]

theorem Query.mem_extractTables {q : Query} {name : String} :
    name ∈ q.extractTables ↔
      (∃ t : TableRef, Node.table t.1 t.2 ∈ q.walk ∧ lower t.2.name = name) ∧ name ∉ q.skipped := by
  simp only [extractTables, List.mem_eraseDups, List.mem_filter, List.mem_filterMap,
    decide_eq_true_eq]
  refine and_congr_left fun _ => ?_
  constructor
  · rintro ⟨node, hnode, hname⟩
    cases node with
    | table db t => exact ⟨(db, t), hnode, Option.some.inj hname⟩
    | cte _ => contradiction
    | column _ _ => contradiction
  · rintro ⟨t, hnode, rfl⟩
    exact ⟨_, hnode, rfl⟩

variable [Sqlglot]

/-- Every physical table the statement reads is reported. -/
def TablesCovered (sql : String) (q : Query) : Prop :=
  ∀ t ∈ q.reads [], lower t.2.name ∈ tablesTouched sql

end

/-- A common table expression over the table it is named after. -/
def shadowingQuery : Query :=
  .with_ false
    [.cte ⟨"secret", false⟩ []
      (.select false [.star] (some (.table none ⟨"secret", false⟩ none)) [] none [] none [] {})]
    (.select false [.star] (some (.table none ⟨"secret", false⟩ none))
      [.join .inner (.table none ⟨"album", false⟩ none) none .none] none [] none [] {})

def shadowingText : String :=
  "WITH secret AS (SELECT * FROM secret) SELECT * FROM secret, album"

/-- A parser that knows one statement. -/
@[reducible] def parserOf (sql : String) (q : Query) : Sqlglot where
  parsePostgres text := if text = sql then some [q] else none
  parseDefault _ := none
  toIdentifier name := ⟨name, false⟩
  toIdentifier_name _ := rfl

theorem parseOne_parserOf (sql : String) (q : Query) :
    @parseOne (parserOf sql q) sql = some q :=
  @parseOne_of_parse (parserOf sql q) _ _ [] (if_pos rfl)

theorem parseStatements_parserOf {sql : String} {q : Query}
    (hsql : (sql = "" || strip sql = "") = false) :
    @parseStatements (parserOf sql q) sql = [q] := by
  simp only [Bool.or_eq_false_iff, decide_eq_false_iff_not] at hsql
  exact @parseStatements_of_parse (parserOf sql q) _ _ hsql.2 (if_pos rfl)

/-- `secret` is read inside the common table expression of the same name, and
not reported. -/
theorem not_tablesCovered_shadowing :
    letI := Python.ascii
    ¬ ∀ (_ : Sqlglot) (sql : String) (q : Query) (rest : List Query),
      parseStatements sql = q :: rest → TablesCovered sql q := by
  intro h
  have hcovered := h (parserOf shadowingText shadowingQuery) shadowingText shadowingQuery []
    (parseStatements_parserOf (by decide)) (none, ⟨"secret", false⟩) (by decide)
  revert hcovered
  decide

/-- **Which statements are covered**: those in which no physical table read
has a skipped name, and those in which every table reference has one but the
pattern finds each physical table in the text. -/
theorem tablesCovered_iff [Python] [Sqlglot] {sql : String} {q : Query} {rest : List Query}
    (hparse : parseStatements sql = q :: rest) :
    TablesCovered sql q ↔
      (∀ t ∈ q.reads [], lower t.2.name ∉ q.skipped) ∨
        ((∀ t : TableRef, Node.table t.1 t.2 ∈ q.walk → lower t.2.name ∈ q.skipped) ∧
          ∀ t ∈ q.reads [], lower t.2.name ∈ tablesByPattern sql) := by
  have hextract : extractTables sql = q.extractTables := by rw [extractTables, hparse]
  by_cases hnone : q.extractTables = []
  · -- every table reference is skipped, and the pattern decides
    have hall : ∀ t : TableRef, Node.table t.1 t.2 ∈ q.walk →
        lower t.2.name ∈ q.skipped := by
      intro t ht
      by_contra hskip
      have hmem := Query.mem_extractTables.mpr ⟨⟨t, ht, rfl⟩, hskip⟩
      rw [hnone] at hmem
      exact absurd hmem List.not_mem_nil
    have htouched : tablesTouched sql = tablesByPattern sql := by
      simp [tablesTouched, hextract, hnone]
    rw [TablesCovered, htouched]
    constructor
    · exact fun h => .inr ⟨hall, h⟩
    · rintro (h | ⟨-, h⟩)
      · exact fun t ht => absurd (hall t (q.mem_walk_of_mem_reads ht)) (h t ht)
      · exact h
  · have htouched : tablesTouched sql = q.extractTables := by
      simp [tablesTouched, hextract, hnone]
    rw [TablesCovered, htouched]
    constructor
    · exact fun h => .inl fun t ht => (Query.mem_extractTables.mp (h t ht)).2
    · rintro (h | ⟨h, -⟩) t ht
      · exact Query.mem_extractTables.mpr ⟨⟨t, q.mem_walk_of_mem_reads ht, rfl⟩, h t ht⟩
      · obtain ⟨name, hname⟩ := List.exists_mem_of_ne_nil _ hnone
        obtain ⟨⟨t', ht', rfl⟩, hskip⟩ := Query.mem_extractTables.mp hname
        exact absurd (h t' ht') hskip

/-- The statement above is covered exactly when neither of its reads is
skipped or the pattern finds both. -/
theorem tablesCovered_iff_shadowing :
    letI := Python.ascii
    letI := parserOf shadowingText shadowingQuery
    TablesCovered shadowingText shadowingQuery ↔
      (∀ t ∈ shadowingQuery.reads [], lower t.2.name ∉ shadowingQuery.skipped) ∨
        ((∀ t : TableRef, Node.table t.1 t.2 ∈ shadowingQuery.walk →
            lower t.2.name ∈ shadowingQuery.skipped) ∧
          ∀ t ∈ shadowingQuery.reads [], lower t.2.name ∈ tablesByPattern shadowingText) :=
  @tablesCovered_iff Python.ascii (parserOf shadowingText shadowingQuery) _ _ []
    (parseStatements_parserOf (by decide))

end DbGateway.Sql
