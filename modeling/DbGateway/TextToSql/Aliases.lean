import DbGateway.TextToSql.Tree
import Mathlib.Data.List.Sort
import Mathlib.Data.String.Basic

/-!
# DbGateway.TextToSql.Aliases

`_find_unresolved_table_aliases`, which wants every column qualifier of a
statement to be declared somewhere in it.

It collects the names of tables, common table expressions and subqueries.  The
aliases of `VALUES`, `UNNEST` and `LATERAL` are neither, and a qualifier with a
dot in it is cut.  On a query whose qualifiers are all visible it is silent
exactly when none of these is used, or a table or subquery happens to have the
name as well (`findUnresolvedTableAliases_iff`).
-/

namespace DbGateway.TextToSql

open Sql (Identifier TableAlias)

/-! ## The check -/

/-- `sqlglot.parse(sql, read="postgres")`; an exception is its text. -/
abbrev Parser := String → Except String (List (Option Statement))

/-- The names a node declares; those that are not there are empty. -/
def Node.declares : Node → List String
  | .table alias_ name => [alias_, name]
  | .cte alias_ => [alias_]
  | .subquery alias_ => [alias_]
  | .column _ _ => []

/-- `column.table` of a column that has one. -/
def Node.qualifier? : Node → Option Identifier
  | .column qualifier _ => qualifier
  | _ => none

section

variable [Python]

/-- `declared` -/
def Query.declared (root : Query) : List String :=
  ((root.walk.flatMap Node.declares).filter (· ≠ "")).map lower

/-- `qualifier.split(".")[-1].lower()` -/
def finalSegment (qualifier : String) : String := lower (afterLastDot qualifier)

/-- `referenced` -/
def Query.referenced (root : Query) : List String :=
  ((root.walk.filterMap Node.qualifier?).filter (·.name ≠ "")).map fun q => finalSegment q.name

/-- `sorted(referenced - declared)` -/
def Query.unresolved (root : Query) : List String :=
  ((root.referenced.filter (· ∉ root.declared)).dedup).insertionSort (· ≤ ·)

def findUnresolvedTableAliases (parse : Parser) (sql : String) : String :=
  match parse sql with
  | .error e => "The SQL failed to parse: " ++ e
  | .ok [some (.query root)] =>
      if root.unresolved = [] then ""
      else
        "The statement references " ++
          ", ".intercalate (root.unresolved.map fun name => "\"" ++ name ++ "\"") ++
          " which is/are not declared as a " ++
          "table name or alias in any FROM or JOIN clause. Every alias used in " ++
          "the SELECT list, WHERE clause, or subquery must be declared in a " ++
          "FROM or JOIN clause."
  | .ok _ => "The SQL must be a single SELECT query."

theorem Query.unresolved_eq_nil_iff {root : Query} :
    root.unresolved = [] ↔ ∀ name ∈ root.referenced, name ∈ root.declared := by
  rw [unresolved, ← List.length_eq_zero_iff, List.length_insertionSort, List.length_eq_zero_iff,
    List.dedup_eq_nil, List.filter_eq_nil_iff]
  simp

/-- It is silent about a query exactly when every qualifier is declared. -/
theorem findUnresolvedTableAliases_eq_empty_iff {parse : Parser} {sql : String} {root : Query}
    (hparse : parse sql = .ok [some (.query root)]) :
    findUnresolvedTableAliases parse sql = "" ↔
      ∀ name ∈ root.referenced, name ∈ root.declared := by
  rw [findUnresolvedTableAliases, hparse, ← Query.unresolved_eq_nil_iff]
  by_cases h : root.unresolved = []
  · simp [h]
  · simp only [h, if_false, iff_false]
    intro hempty
    have hlength := congrArg String.length hempty
    simp only [String.length_append] at hlength
    exact absurd hlength (by simp +arith)

end

/-! ## Qualifiers and their scope -/

mutual

/-- The references of a tree are its qualifiers, in any scope. -/
theorem Expr.references_fst (scope : List RangeVariable) :
    (e : Expr) → (e.references scope).map Prod.fst = e.walk.filterMap Node.qualifier?
  | .column none _ => rfl
  | .column (some _) _ => rfl
  | .star => rfl
  | .literal _ => rfl
  | .alias_ this _ => Expr.references_fst scope this
  | .aggregate _ args => Expr.references_fstList scope args
  | .node _ args => Expr.references_fstList scope args
  | .subquery query => Query.references_fst scope query
  | .exists_ query => Query.references_fst scope query

theorem Expr.references_fstList (scope : List RangeVariable) : (es : List Expr) →
    (Expr.referencesList scope es).map Prod.fst = (Expr.walkList es).filterMap Node.qualifier?
  | [] => rfl
  | e :: es => by
      rw [Expr.referencesList, Expr.walkList, List.map_append, List.filterMap_append,
        Expr.references_fst scope e, Expr.references_fstList scope es]

theorem Expr.references_fstOption (scope : List RangeVariable) : (e : Option Expr) →
    (Expr.referencesOption scope e).map Prod.fst = (Expr.walkOption e).filterMap Node.qualifier?
  | none => rfl
  | some e => Expr.references_fst scope e

theorem Query.references_fst (scope : List RangeVariable) :
    (q : Query) → (q.references scope).map Prod.fst = q.walk.filterMap Node.qualifier?
  | .select ctes _ distinctOn expressions from_ joins group clauses => by
      rw [Query.references, Query.walk]
      simp only [List.map_append, List.filterMap_append, Cte.references_fst,
        Source.references_fstOption, Join.references_fst, Expr.references_fstList]
  | .setOperation ctes left right order => by
      rw [Query.references, Query.walk]
      simp only [List.map_append, List.filterMap_append, Cte.references_fst scope ctes,
        Query.references_fst scope left, Query.references_fst scope right,
        Expr.references_fstList [] order]
  | .subquery ctes query order => by
      rw [Query.references, Query.walk, List.filterMap_cons]
      simp only [Node.qualifier?, List.map_append, List.filterMap_append,
        Cte.references_fst scope ctes, Query.references_fst scope query,
        Expr.references_fstList _ order]

theorem Cte.references_fst (scope : List RangeVariable) : (cs : List Cte) →
    (Cte.references scope cs).map Prod.fst = (Cte.walkList cs).filterMap Node.qualifier?
  | [] => rfl
  | .cte _ query :: cs => by
      rw [Cte.references, Cte.walkList, List.map_append, List.cons_append, List.filterMap_cons,
        Query.references_fst scope query, Cte.references_fst scope cs]
      simp only [Node.qualifier?, List.filterMap_append]

theorem Source.references_fst (scope before : List RangeVariable) : (s : Source) →
    (s.references scope before).map Prod.fst = s.walk.filterMap Node.qualifier?
  | .table _ _ => rfl
  | .function _ args _ => Expr.references_fstList _ args
  | .values rows _ => Expr.references_fstList _ rows
  | .unnest args _ => Expr.references_fstList _ args
  | .lateral query _ => Query.references_fst _ query
  | .lateralFunction _ args _ => Expr.references_fstList _ args
  | .derived query _ => Query.references_fst _ query
  | .paren source joins _ => by
      rw [Source.references, Source.walk, List.map_append, List.filterMap_cons,
        Source.references_fst scope before source, Join.references_fst]
      simp only [Node.qualifier?, List.filterMap_append]

theorem Source.references_fstOption (scope : List RangeVariable) : (s : Option Source) →
    (Source.referencesOption scope s).map Prod.fst =
      (Source.walkOption s).filterMap Node.qualifier?
  | none => rfl
  | some s => Source.references_fst scope [] s

theorem Join.references_fst (scope before joined : List RangeVariable) : (js : List Join) →
    (Join.references scope before joined js).map Prod.fst =
      (Join.walkList js).filterMap Node.qualifier?
  | [] => rfl
  | .comma source :: js => by
      rw [Join.references, Join.walkList, List.map_append, List.filterMap_append,
        Source.references_fst scope before source, Join.references_fst _ _ _ js]
  | .join source on :: js => by
      rw [Join.references, Join.walkList]
      simp only [List.map_append, List.filterMap_append,
        Source.references_fst scope before source, Expr.references_fstOption _ on,
        Join.references_fst _ _ _ js]

end

/-! ## Tabular range variables are declared -/

/-- The name of the range variable, if it is tabular, is declared by a node. -/
def Recorded (nodes : List Node) (v : RangeVariable) : Prop :=
  v.tabular = true → v.name.name ∈ nodes.flatMap Node.declares

/-- Every qualifier that is resolved is so to a recorded range variable of its
name. -/
def AllRecorded (nodes : List Node) (refs : List Reference) : Prop :=
  ∀ r ∈ refs, ∀ v, r.2 = some v → Recorded nodes v ∧ v.name.folded = r.1.folded

variable {nodes : List Node} {scope before : List RangeVariable}

theorem recorded_of_mem {node : Node} {v : RangeVariable} (hnode : node ∈ nodes)
    (hname : v.name.name ∈ node.declares) : Recorded nodes v :=
  fun _ => List.mem_flatMap.mpr ⟨node, hnode, hname⟩

theorem recorded_of_not_tabular {v : RangeVariable} (h : v.tabular = false) :
    Recorded nodes v := by
  intro htabular
  rw [h] at htabular
  contradiction

theorem allRecorded_nil : AllRecorded nodes [] := fun _ hr => absurd hr List.not_mem_nil

theorem allRecorded_append {refs refs' : List Reference} :
    AllRecorded nodes (refs ++ refs') ↔ AllRecorded nodes refs ∧ AllRecorded nodes refs' :=
  List.forall_mem_append

theorem allRecorded_resolve (hscope : ∀ v ∈ scope, Recorded nodes v) (qualifier : Identifier) :
    AllRecorded nodes [(qualifier, resolve scope qualifier)] := by
  intro r hr v hv
  rw [List.mem_singleton.mp hr] at hv ⊢
  have hfound : resolve scope qualifier = some v := hv
  rw [resolve, List.find?_eq_some_iff_append] at hfound
  obtain ⟨hname, inner, outer, hsplit, -⟩ := hfound
  refine ⟨hscope v ?_, of_decide_eq_true hname⟩
  rw [hsplit]
  exact List.mem_append_right _ List.mem_cons_self

/-- What holds of two scopes holds of them together. -/
theorem recorded_append (hbefore : ∀ v ∈ before, Recorded nodes v)
    (hscope : ∀ v ∈ scope, Recorded nodes v) : ∀ v ∈ before ++ scope, Recorded nodes v :=
  List.forall_mem_append.mpr ⟨hbefore, hscope⟩

/-- A function is not tabular, unless its alias is declared. -/
theorem recorded_called {tabular : Bool} (name : Identifier) {as_ : Option TableAlias}
    (h : tabular = true → ∃ node ∈ nodes, aliasName as_ ∈ node.declares) :
    ∀ v ∈ called tabular name as_, Recorded nodes v := by
  intro v hv
  cases as_ with
  | none =>
      rw [List.mem_singleton.mp hv]
      exact recorded_of_not_tabular rfl
  | some a =>
      rw [List.mem_singleton.mp hv]
      intro htabular
      obtain ⟨node, hnode, hname⟩ := h htabular
      exact recorded_of_mem hnode hname htabular

theorem recorded_aliased {tabular : Bool} {as_ : Option TableAlias}
    (h : tabular = true → ∃ node ∈ nodes, aliasName as_ ∈ node.declares) :
    ∀ v ∈ aliased tabular as_, Recorded nodes v := by
  cases as_ with
  | none => exact fun v hv => absurd hv List.not_mem_nil
  | some a => exact recorded_called a.name h

mutual

theorem Source.recorded_variables : (s : Source) → s.walk ⊆ nodes →
    ∀ v ∈ s.variables, Recorded nodes v
  | .table name none, h => by
      intro v hv
      rw [List.mem_singleton.mp hv]
      exact recorded_of_mem (h List.mem_cons_self) (by simp [Node.declares])
  | .table name (some a), h => by
      intro v hv
      rw [List.mem_singleton.mp hv]
      exact recorded_of_mem (h List.mem_cons_self) (by simp [Node.declares, aliasName])
  | .function name _ as_, h =>
      recorded_called _ fun _ => ⟨_, h List.mem_cons_self, List.mem_cons_self⟩
  | .values _ as_, _ => recorded_aliased fun htabular => Bool.noConfusion htabular
  | .unnest _ as_, _ => recorded_called _ fun htabular => Bool.noConfusion htabular
  | .lateral _ as_, _ => recorded_aliased fun htabular => Bool.noConfusion htabular
  | .lateralFunction name _ as_, _ => recorded_called _ fun htabular => Bool.noConfusion htabular
  | .derived _ as_, h =>
      recorded_aliased fun _ => ⟨_, h List.mem_cons_self, List.mem_cons_self⟩
  | .paren source joins none, h => by
      rw [Source.walk, List.cons_subset, List.append_subset] at h
      exact recorded_append (Source.recorded_variables source h.2.1)
        (Join.recorded_variables joins h.2.2)
  | .paren _ _ (some a), h => by
      intro v hv
      rw [List.mem_singleton.mp hv]
      exact recorded_of_mem (h List.mem_cons_self) (by simp [Node.declares, aliasName])

theorem Join.recorded_variables : (js : List Join) → Join.walkList js ⊆ nodes →
    ∀ v ∈ Join.variables js, Recorded nodes v
  | [], _ => fun v hv => absurd hv List.not_mem_nil
  | .comma source :: js, h => by
      rw [Join.walkList, List.append_subset] at h
      exact recorded_append (Source.recorded_variables source h.1)
        (Join.recorded_variables js h.2)
  | .join source on :: js, h => by
      rw [Join.walkList, List.append_subset, List.append_subset] at h
      exact recorded_append (Source.recorded_variables source h.1.1)
        (Join.recorded_variables js h.2)

end

theorem recorded_fromVariables {from_ : Option Source} {joins : List Join}
    (hfrom : Source.walkOption from_ ⊆ nodes) (hjoins : Join.walkList joins ⊆ nodes) :
    ∀ v ∈ fromVariables from_ joins, Recorded nodes v := by
  refine recorded_append ?_ (Join.recorded_variables joins hjoins)
  cases from_ with
  | none => exact fun v hv => absurd hv List.not_mem_nil
  | some source => exact Source.recorded_variables source hfrom

theorem Query.recorded_sortScope (hscope : ∀ v ∈ scope, Recorded nodes v) : (q : Query) →
    q.walk ⊆ nodes → ∀ v ∈ q.sortScope scope, Recorded nodes v
  | .select ctes _ distinctOn expressions from_ joins group clauses, h => by
      simp only [Query.walk, List.append_subset] at h
      obtain ⟨⟨⟨⟨⟨⟨-, hfrom⟩, hjoins⟩, -⟩, -⟩, -⟩, -⟩ := h
      exact recorded_append (recorded_fromVariables hfrom hjoins) hscope
  | .setOperation _ _ _ _, _ => fun v hv => absurd hv List.not_mem_nil
  | .subquery ctes query order, h => by
      simp only [Query.walk, List.cons_subset, List.append_subset] at h
      exact Query.recorded_sortScope hscope query h.2.1.2

mutual

/-- **Scopes are recorded**: in a recorded scope, the qualifiers of a tree whose
nodes are all looked at are resolved to recorded range variables. -/
theorem Expr.allRecorded {scope : List RangeVariable}
    (hscope : ∀ v ∈ scope, Recorded nodes v) : (e : Expr) → e.walk ⊆ nodes → AllRecorded nodes (e.references scope)
  | .column none _, _ => allRecorded_nil
  | .column (some qualifier) _, _ => allRecorded_resolve hscope qualifier
  | .star, _ => allRecorded_nil
  | .literal _, _ => allRecorded_nil
  | .alias_ this _, h => Expr.allRecorded hscope this h
  | .aggregate _ args, h => Expr.allRecordedList hscope args h
  | .node _ args, h => Expr.allRecordedList hscope args h
  | .subquery query, h => Query.allRecorded hscope query (List.cons_subset.mp h).2
  | .exists_ query, h => Query.allRecorded hscope query h

theorem Expr.allRecordedList {scope : List RangeVariable}
    (hscope : ∀ v ∈ scope, Recorded nodes v) : (es : List Expr) →
    Expr.walkList es ⊆ nodes → AllRecorded nodes (Expr.referencesList scope es)
  | [], _ => allRecorded_nil
  | e :: es, h => by
      rw [Expr.walkList, List.append_subset] at h
      exact allRecorded_append.mpr
        ⟨Expr.allRecorded hscope e h.1, Expr.allRecordedList hscope es h.2⟩

theorem Expr.allRecordedOption {scope : List RangeVariable}
    (hscope : ∀ v ∈ scope, Recorded nodes v) : (e : Option Expr) →
    Expr.walkOption e ⊆ nodes → AllRecorded nodes (Expr.referencesOption scope e)
  | none, _ => allRecorded_nil
  | some e, h => Expr.allRecorded hscope e h

theorem Query.allRecorded {scope : List RangeVariable}
    (hscope : ∀ v ∈ scope, Recorded nodes v) : (q : Query) →
    q.walk ⊆ nodes → AllRecorded nodes (q.references scope)
  | .select ctes _ distinctOn expressions from_ joins group clauses, h => by
      simp only [Query.walk, List.append_subset] at h
      obtain ⟨⟨⟨⟨⟨⟨hctes, hfrom⟩, hjoins⟩, hdistinct⟩, hexpressions⟩, hgroup⟩, hclauses⟩ := h
      have hinner := recorded_append (recorded_fromVariables hfrom hjoins) hscope
      have hfirst : ∀ v ∈ fromVariables from_ [], Recorded nodes v :=
        recorded_fromVariables hfrom (List.nil_subset _)
      simp only [Query.references, allRecorded_append]
      exact ⟨⟨⟨⟨⟨⟨Cte.allRecorded hscope ctes hctes, Source.allRecordedOption hscope from_ hfrom⟩,
        Join.allRecorded hscope hfirst hfirst joins hjoins⟩,
        Expr.allRecordedList hinner distinctOn hdistinct⟩,
        Expr.allRecordedList hinner expressions hexpressions⟩,
        Expr.allRecordedList hinner group hgroup⟩, Expr.allRecordedList hinner clauses hclauses⟩
  | .setOperation ctes left right order, h => by
      simp only [Query.walk, List.append_subset] at h
      obtain ⟨⟨⟨hctes, hleft⟩, hright⟩, horder⟩ := h
      simp only [Query.references, allRecorded_append]
      exact ⟨⟨⟨Cte.allRecorded hscope ctes hctes, Query.allRecorded hscope left hleft⟩,
        Query.allRecorded hscope right hright⟩,
        Expr.allRecordedList (fun v hv => absurd hv List.not_mem_nil) order horder⟩
  | .subquery ctes query order, h => by
      simp only [Query.walk, List.cons_subset, List.append_subset] at h
      obtain ⟨-, ⟨hctes, hquery⟩, horder⟩ := h
      simp only [Query.references, allRecorded_append]
      exact ⟨⟨Cte.allRecorded hscope ctes hctes, Query.allRecorded hscope query hquery⟩,
        Expr.allRecordedList (Query.recorded_sortScope hscope query hquery) order horder⟩

theorem Cte.allRecorded {scope : List RangeVariable}
    (hscope : ∀ v ∈ scope, Recorded nodes v) : (cs : List Cte) →
    Cte.walkList cs ⊆ nodes → AllRecorded nodes (Cte.references scope cs)
  | [], _ => allRecorded_nil
  | .cte _ query :: cs, h => by
      simp only [Cte.walkList, List.cons_append, List.cons_subset, List.append_subset] at h
      exact allRecorded_append.mpr
        ⟨Query.allRecorded hscope query h.2.1, Cte.allRecorded hscope cs h.2.2⟩

theorem Source.allRecorded {scope before : List RangeVariable}
    (hscope : ∀ v ∈ scope, Recorded nodes v)
    (hbefore : ∀ v ∈ before, Recorded nodes v) : (s : Source) → s.walk ⊆ nodes →
    AllRecorded nodes (s.references scope before)
  | .table _ _, _ => allRecorded_nil
  | .function _ args _, h =>
      Expr.allRecordedList (recorded_append hbefore hscope) args (List.cons_subset.mp h).2
  | .values rows _, h => Expr.allRecordedList hscope rows h
  | .unnest args _, h => Expr.allRecordedList (recorded_append hbefore hscope) args h
  | .lateral query _, h =>
      Query.allRecorded (recorded_append hbefore hscope) query (List.cons_subset.mp h).2
  | .lateralFunction _ args _, h => Expr.allRecordedList (recorded_append hbefore hscope) args h
  | .derived query _, h => Query.allRecorded hscope query (List.cons_subset.mp h).2
  | .paren source joins _, h => by
      simp only [Source.walk, List.cons_subset, List.append_subset] at h
      have hvariables := Source.recorded_variables source h.2.1
      exact allRecorded_append.mpr ⟨Source.allRecorded hscope hbefore source h.2.1,
        Join.allRecorded hscope (recorded_append hvariables hbefore) hvariables joins h.2.2⟩

theorem Source.allRecordedOption {scope : List RangeVariable}
    (hscope : ∀ v ∈ scope, Recorded nodes v) : (s : Option Source) →
    Source.walkOption s ⊆ nodes → AllRecorded nodes (Source.referencesOption scope s)
  | none, _ => allRecorded_nil
  | some s, h => Source.allRecorded hscope (fun _ hv => absurd hv List.not_mem_nil) s h

theorem Join.allRecorded {scope before joined : List RangeVariable}
    (hscope : ∀ v ∈ scope, Recorded nodes v)
    (hbefore : ∀ v ∈ before, Recorded nodes v) (hjoined : ∀ v ∈ joined, Recorded nodes v) :
    (js : List Join) → Join.walkList js ⊆ nodes →
    AllRecorded nodes (Join.references scope before joined js)
  | [], _ => allRecorded_nil
  | .comma source :: js, h => by
      rw [Join.walkList, List.append_subset] at h
      have hvariables := Source.recorded_variables source h.1
      exact allRecorded_append.mpr ⟨Source.allRecorded hscope hbefore source h.1,
        Join.allRecorded hscope (recorded_append hvariables hbefore) hvariables js h.2⟩
  | .join source on :: js, h => by
      simp only [Join.walkList, List.append_subset] at h
      have hvariables := Source.recorded_variables source h.1.1
      have hjoin := recorded_append hvariables hjoined
      simp only [Join.references, allRecorded_append]
      exact ⟨⟨Source.allRecorded hscope hbefore source h.1.1,
        Expr.allRecordedOption (recorded_append hjoin hscope) on h.1.2⟩,
        Join.allRecorded hscope (recorded_append hvariables hbefore) hjoin js h.2⟩

end

/-! ## False positives -/

/-- Folding ASCII letters first makes no difference to `str.lower`. -/
class LowerTables [Python] : Prop where
  lower_mapChars : ∀ s, lower (mapChars Char.toLower s) = lower s

theorem LowerTables.ascii : @LowerTables Python.ascii :=
  let _ := Python.ascii
  ⟨fun s => Python.ascii.lower_lower s⟩

theorem afterLastDot_of_notMem {s : String} (h : '.' ∉ s.toList) : afterLastDot s = s := by
  have hall : ∀ c ∈ s.toList.reverse, (decide (c ≠ '.')) = true := by
    intro c hc
    rw [List.mem_reverse] at hc
    exact decide_eq_true fun hdot => h (hdot ▸ hc)
  rw [afterLastDot, List.takeWhile_eq_self_iff.mpr hall, List.reverse_reverse,
    String.ofList_toList]

theorem folded_eq_empty_iff {i : Identifier} : i.folded = "" ↔ i.name = "" := by
  rw [Identifier.folded]
  split
  · rfl
  · rw [mapChars, String.ofList_eq_empty_iff, List.map_eq_nil_iff, String.toList_eq_nil_iff]

section

variable [Python] [LowerTables]

theorem lower_folded (i : Identifier) : lower i.folded = lower i.name := by
  rw [Identifier.folded]
  split
  · rfl
  · exact LowerTables.lower_mapChars _

omit [LowerTables] in
theorem Query.mem_declared_iff {root : Query} {name : String} : name ∈ root.declared ↔
    ∃ other ∈ root.walk.flatMap Node.declares, other ≠ "" ∧ lower other = name := by
  simp [declared, and_assoc]

/-- A qualifier without a dot that names a tabular range variable is declared. -/
theorem Query.mem_declared_of_tabular {root : Query} {r : Reference} {v : RangeVariable}
    (hr : r ∈ root.references []) (hv : r.2 = some v) (htabular : v.tabular = true)
    (hne : r.1.name ≠ "") (hdot : '.' ∉ r.1.name.toList) :
    finalSegment r.1.name ∈ root.declared := by
  have hnil : ∀ v ∈ ([] : List RangeVariable), Recorded root.walk v :=
    fun v hv => absurd hv List.not_mem_nil
  obtain ⟨hrecorded, hname⟩ := Query.allRecorded hnil root (List.Subset.refl _) r hr v hv
  have hlower : lower v.name.name = finalSegment r.1.name := by
    rw [finalSegment, afterLastDot_of_notMem hdot, ← lower_folded, hname, lower_folded]
  have hempty : v.name.name ≠ "" := by
    intro hempty
    rw [← folded_eq_empty_iff, hname, folded_eq_empty_iff] at hempty
    exact hne hempty
  exact mem_declared_iff.mpr ⟨v.name.name, hrecorded htabular, hempty, hlower⟩

/-- **When the check is silent**: a query whose qualifiers are all visible passes
exactly when every qualifier that has a dot in it, or that names something else
than a table, a table function with an alias or a subquery with an alias, is in
its last segment also the name or alias of a table, the alias of a subquery or
the name of a common table expression somewhere in the query. -/
theorem findUnresolvedTableAliases_iff {parse : Parser} {sql : String} {root : Query}
    (hparse : parse sql = .ok [some (.query root)]) (hvisible : root.Visible) :
    findUnresolvedTableAliases parse sql = "" ↔
      ∀ r ∈ root.references [], r.1.name ≠ "" →
        ('.' ∈ r.1.name.toList ∨ ∃ v, r.2 = some v ∧ v.tabular = false) →
        ∃ other ∈ root.walk.flatMap Node.declares, other ≠ "" ∧
          lower other = finalSegment r.1.name := by
  have hmem : ∀ q : Identifier, q ∈ root.walk.filterMap Node.qualifier? ↔
      ∃ r ∈ root.references [], r.1 = q := by
    intro q
    rw [← Query.references_fst [], List.mem_map]
  rw [findUnresolvedTableAliases_eq_empty_iff hparse]
  constructor
  · intro h r hr hne _
    refine Query.mem_declared_iff.mp (h _ ?_)
    exact List.mem_map.mpr ⟨r.1,
      List.mem_filter.mpr ⟨(hmem r.1).mpr ⟨r, hr, rfl⟩, decide_eq_true hne⟩, rfl⟩
  · intro h name hname
    obtain ⟨q, hq, rfl⟩ := List.mem_map.mp hname
    obtain ⟨hq, hne⟩ := List.mem_filter.mp hq
    obtain ⟨r, hr, rfl⟩ := (hmem q).mp hq
    have hne := of_decide_eq_true hne
    obtain ⟨v, hv⟩ := Option.isSome_iff_exists.mp (hvisible r hr)
    by_cases hdot : '.' ∈ r.1.name.toList
    · exact Query.mem_declared_iff.mpr (h r hr hne (.inl hdot))
    · cases htabular : v.tabular with
      | true => exact Query.mem_declared_of_tabular hr hv htabular hne hdot
      | false => exact Query.mem_declared_iff.mpr (h r hr hne (.inr ⟨v, hv, htabular⟩))

end

/-! ## Instances -/

/-- `SELECT v.x FROM (VALUES (1)) AS v(x)` -/
def valuesQuery : Query :=
  .select [] false [] [.column (some ⟨"v", false⟩) ⟨"x", false⟩]
    (some (.values [.node "tuple" [.literal "1"]] (some ⟨⟨"v", false⟩, [⟨"x", false⟩]⟩))) [] [] []

/-- The alias of a `VALUES` list is not taken for declared. -/
theorem not_findUnresolvedTableAliases_values :
    ¬ ∀ (parse : Parser) (sql : String) (root : Query),
      parse sql = .ok [some (.query root)] → root.Visible →
        @findUnresolvedTableAliases Python.ascii parse sql = "" := by
  let _ := Python.ascii
  intro h
  have hsilent := h (fun _ => .ok [some (.query valuesQuery)])
    "SELECT v.x FROM (VALUES (1)) AS v(x)" valuesQuery rfl (by unfold Query.Visible; decide)
  rw [findUnresolvedTableAliases_eq_empty_iff rfl] at hsilent
  have hdeclared := hsilent "v" (by decide)
  exact absurd hdeclared (by decide)

/-- `SELECT ar.name, t.n FROM artist AS ar JOIN album AS al ON al.artist_id = ar.id,
(VALUES (1)) AS t(n) WHERE EXISTS (SELECT t.id FROM track AS t WHERE t.album_id = al.id)` -/
def trackQuery : Query :=
  .select [] false []
    [.column (some ⟨"ar", false⟩) ⟨"name", false⟩, .column (some ⟨"t", false⟩) ⟨"n", false⟩]
    (some (.table ⟨"artist", false⟩ (some ⟨⟨"ar", false⟩, []⟩)))
    [.join (.table ⟨"album", false⟩ (some ⟨⟨"al", false⟩, []⟩))
        (some (.node "=" [.column (some ⟨"al", false⟩) ⟨"artist_id", false⟩,
          .column (some ⟨"ar", false⟩) ⟨"id", false⟩])),
      .comma (.values [.node "tuple" [.literal "1"]]
        (some ⟨⟨"t", false⟩, [⟨"n", false⟩]⟩))]
    []
    [.exists_ (.select [] false [] [.column (some ⟨"t", false⟩) ⟨"id", false⟩]
      (some (.table ⟨"track", false⟩ (some ⟨⟨"t", false⟩, []⟩))) [] []
      [.node "=" [.column (some ⟨"t", false⟩) ⟨"album_id", false⟩,
        .column (some ⟨"al", false⟩) ⟨"id", false⟩]])]

/-- The alias of the `VALUES` list is that of a table elsewhere too. -/
theorem findUnresolvedTableAliases_iff_track :
    @findUnresolvedTableAliases Python.ascii (fun _ => .ok [some (.query trackQuery)])
      ("SELECT ar.name, t.n FROM artist AS ar JOIN album AS al ON al.artist_id = ar.id, " ++
        "(VALUES (1)) AS t(n) WHERE EXISTS (SELECT t.id FROM track AS t " ++
        "WHERE t.album_id = al.id)") = "" := by
  let _ := Python.ascii
  have _ := LowerTables.ascii
  have hdeclared : ∀ r ∈ trackQuery.references [],
      ∃ other ∈ trackQuery.walk.flatMap Node.declares,
        other ≠ "" ∧ lower other = finalSegment r.1.name := by decide
  exact (findUnresolvedTableAliases_iff rfl (by unfold Query.Visible; decide)).mpr
    fun r hr _ _ => hdeclared r hr

end DbGateway.TextToSql
