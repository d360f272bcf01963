import DbGateway.Repository.CostLayout
import DbGateway.TextToSql.Aliases

/-!
# DbGateway.TextToSql.Precheck

`TextToSqlService._precheck_sql`: what a statement of the language model has to
look like before it is sent to the SQL API.

Both services take the framing of a statement away on their own.  They do so
alike on every statement that passes the pre-check (`cleanSql_of_precheckSql`).
-/

namespace DbGateway.TextToSql

open Re Re.Pattern
open Repository (UpperTables)
open Sql (Identifier TableAlias PythonUpper upper startsWith removeFences removeKeyword cleanSql
  cleanStripped strip_of_startsWith strip_removeFences strip_removeKeyword not_startsWith_elect)

variable [Python]

/-! ## Grouping -/

/-- `_collect_table_names` -/
def collectTableNames : Source → List String
  | .table name as_ =>
      if aliasName as_ ≠ "" then [lower (aliasName as_)]
      else if name.name ≠ "" then [lower name.name]
      else []
  | .function _ _ as_ => if aliasName as_ ≠ "" then [lower (aliasName as_)] else []
  | _ => []

/-- `join.this` -/
def Join.source : Join → Source
  | .comma source => source
  | .join source _ => source

/-- `projection.this if isinstance(projection, exp.Alias) else projection` -/
def Expr.unaliased : Expr → Expr
  | .alias_ this _ => this
  | e => e

def Expr.isAggregate : Expr → Bool
  | .aggregate _ _ => true
  | _ => false

def Expr.subquery? : Expr → Option Query
  | .subquery query => some query
  | _ => none

/-- The qualifier and the name of a column, if the qualifier is one of the
names. -/
def Node.correlated? (names : List String) : Node → Option (String × String)
  | .column (some qualifier) name =>
      if qualifier.name ≠ "" && names.contains (finalSegment qualifier.name) then
        some (qualifier.name, name.name)
      else none
  | _ => none

variable [FindAll]

/-- `_find_ungrouped_correlated_subquery` -/
def findUngroupedCorrelatedSubquery (parse : Parser) (sql : String) : String :=
  match parse sql with
  | .ok (some (.query (.select _ distinct _ expressions from_ joins groupBy _)) :: _) =>
      let projections := expressions.map Expr.unaliased
      let subqueries := projections.filterMap Expr.subquery?
      if distinct || !groupBy.isEmpty || !projections.any Expr.isAggregate || subqueries.isEmpty then
        ""
      else
        let outerNames := (from_.toList ++ joins.map Join.source).flatMap collectTableNames
        match (subqueries.flatMap FindAll.nodes).findSome? (Node.correlated? outerNames) with
        | some (qualifier, column) =>
            "The statement uses an aggregate function (e.g. COUNT, SUM, MAX) at the " ++
              "top level while a SELECT-list subquery references an outer-query column " ++
              "(\"" ++ qualifier ++ "\"." ++ column ++
              ") without a GROUP BY clause. PostgreSQL " ++
              "rejects this with 'subquery uses ungrouped column ... from outer query'. " ++
              "Either add a GROUP BY clause that includes every referenced outer column, " ++
              "or restructure the query so the aggregate and the correlated subquery do " ++
              "not reference ungrouped outer columns together."
        | none => ""
  | _ => ""

omit [FindAll] in
/-- Which column is named depends on the order of `find_all`, whether there is one does
not. -/
theorem findUngroupedCorrelatedSubquery_eq_empty_iff (f g : FindAll) (parse : Parser)
    (sql : String) : @findUngroupedCorrelatedSubquery _ f parse sql = "" ↔
      @findUngroupedCorrelatedSubquery _ g parse sql = "" := by
  have hsame : ∀ (subqueries : List Query) (look : Node → Option (String × String)),
      (subqueries.flatMap f.nodes).findSome? look = none ↔
        (subqueries.flatMap g.nodes).findSome? look = none := by
    intro subqueries look
    simp only [List.findSome?_eq_none_iff, List.mem_flatMap, (f.perm _).mem_iff,
      (g.perm _).mem_iff]
  unfold findUngroupedCorrelatedSubquery
  split
  · rename_i ctes distinct distinctOn expressions from_ joins groupBy clauses rest hparse
    dsimp only
    split_ifs with hnothing
    · rfl
    · have hiff := hsame ((expressions.map Expr.unaliased).filterMap Expr.subquery?)
        (Node.correlated? ((from_.toList ++ joins.map Join.source).flatMap collectTableNames))
      split
      · rename_i qualifier column hsome
        rw [hsome] at hiff
        split
        · simp
        · rename_i hnone
          cases hiff.mpr hnone
      · rename_i hnone
        rw [hiff.mp hnone]
  · rfl

/-! ## The pre-check -/

section

variable [PythonUpper]

/-- `_strip_sql_framing` -/
def stripSqlFraming (rawSql : String) : String := removeKeyword (removeFences (strip rawSql))

/-- `q(?:[^q]|qq)*q` -/
def quotedLiteral (q : Char) : Pattern :=
  .seq (.char (· == q))
    (.seq (.star true (.alt (.char (· != q)) (.seq (.char (· == q)) (.char (· == q)))))
      (.char (· == q)))

/-- The statement with its string literals and quoted identifiers emptied. -/
def withoutStrings (sql : List Char) : List Char :=
  sub (quotedLiteral '"') (fun _ => ['"', '"']) (sub (quotedLiteral '\'') (fun _ => ['\'', '\'']) sql)

/-- `_precheck_sql`: whether the candidate looks plausible, and else what is
wrong with it. -/
def precheckSql (parse : Parser) (rawSql : String) : Bool × String :=
  let sql := stripSqlFraming rawSql
  if !startsWith (upper sql) "SELECT" then
    (false, "The SQL must start with SELECT; it started with something else.")
  else
    let body := (withoutStrings sql.toList).rdropWhile isSpace
    if ';' ∈ body.dropLast then
      (false, "Multiple SQL statements detected. " ++
        "Return exactly one SELECT statement that answers the whole question.")
    else
      let aliasError := findUnresolvedTableAliases parse sql
      if aliasError ≠ "" then (false, aliasError)
      else
        let groupingError := findUngroupedCorrelatedSubquery parse sql
        if groupingError ≠ "" then (false, groupingError) else (true, "")

/-- What passes starts with `SELECT`. -/
theorem startsWith_of_precheckSql {parse : Parser} {rawSql : String}
    (h : (precheckSql parse rawSql).1 = true) :
    startsWith (upper (stripSqlFraming rawSql)) "SELECT" = true := by
  cases hstart : startsWith (upper (stripSqlFraming rawSql)) "SELECT" with
  | true => rfl
  | false =>
      rw [precheckSql, hstart, Bool.not_false, if_pos rfl] at h
      contradiction

end

/-! ## Framing -/

section

omit [Python] [FindAll]

theorem startsWith_empty_select : startsWith "" "SELECT" = false := by decide

/-- Nothing but framing is not a `SELECT`. -/
theorem strip_ne_empty [PythonUpper] [UpperTables] {rawSql : String}
    (h : startsWith (upper (stripSqlFraming rawSql)) "SELECT" = true) : strip rawSql ≠ "" := by
  intro hempty
  have hupper : upper "" = "" := by
    rw [UpperTables.upper_eq]
    rfl
  have hfences : removeFences "" = "" := by decide
  have hkeyword : removeKeyword "" = "" := by
    rw [removeKeyword, hupper, if_neg (by decide), if_neg (by decide)]
  rw [stripSqlFraming, hempty, hfences, hkeyword, hupper, startsWith_empty_select] at h
  contradiction

end

omit [FindAll] in
/-- A statement that starts with `SELECT` without its framing is cleaned to
that. -/
theorem cleanStripped_eq [PythonUpper] {sql : String} (hstrip : strip sql = sql)
    (h : startsWith (upper (removeKeyword (removeFences sql))) "SELECT" = true) :
    cleanStripped sql = .ok (removeKeyword (removeFences sql)) := by
  have hfences := strip_removeFences hstrip
  have hframing := strip_removeKeyword hfences
  have hselect := strip_of_startsWith (by decide) (by decide) h
  have helect := not_startsWith_elect hselect
  simp only [cleanStripped, hfences, helect, hselect, hframing, Bool.false_eq_true, if_false,
    Bool.not_true, Bool.false_and, Bool.true_or, if_true]

/-- **What is pre-checked is what is executed**: the statement that the pre-check
has looked at is the one the SQL API makes of the same text. -/
theorem cleanSql_of_precheckSql [PythonUpper] [UpperTables] {parse : Parser} {rawSql : String}
    (h : (precheckSql parse rawSql).1 = true) :
    cleanSql (strip rawSql) = .ok (stripSqlFraming rawSql) := by
  have hselect := startsWith_of_precheckSql h
  have hne := strip_ne_empty hselect
  rw [cleanSql, if_neg hne, strip_strip, cleanStripped_eq (strip_strip rawSql) hselect]
  rfl

omit [Python] [FindAll] in
/-- `SELECT ar.name FROM artist AS ar` -/
def artistQuery : Query :=
  .select [] false [] [.column (some ⟨"ar", false⟩) ⟨"name", false⟩]
    (some (.table ⟨"artist", false⟩ (some ⟨⟨"ar", false⟩, []⟩))) [] [] []

omit [Python] [FindAll] in
/-- A fenced statement. -/
theorem cleanSql_of_precheckSql_artist :
    @cleanSql Python.ascii PythonUpper.ascii
        (strip "```sql\nSELECT ar.name FROM artist AS ar\n```") =
      .ok (@stripSqlFraming PythonUpper.ascii "```sql\nSELECT ar.name FROM artist AS ar\n```") := by
  let _ := Python.ascii
  let _ := PythonUpper.ascii
  let _ := UpperTables.ascii
  let _ := FindAll.inOrder
  have _ := LowerTables.ascii
  exact cleanSql_of_precheckSql
    (show (precheckSql (fun _ => .ok [some (.query artistQuery)]) _).1 = true by decide)

end DbGateway.TextToSql
