import DbGateway.Sql.Masking

/-!
# DbGateway.Sql.Columns

`referenced_columns`: the lower-cased names of the column references anywhere
in the statement, `*` for a star in the root `SELECT`, and patterns over the
text when the tree has neither.

The set covers what the result depends on when no column without a reference of
its own flows into it (`columnsCovered_of_flow`); a star below the root carries
columns that are not in the set.
-/

namespace DbGateway.Sql

section Model

variable [Python]

/-- The lower-cased name of a `Column` node. -/
def Node.columnName? : Node → Option String
  | .column _ name => if lower name.name = "" then none else some (lower name.name)
  | _ => none

/-- The names of the column references. -/
def Query.columnNames (q : Query) : Finset String := (q.walk.filterMap Node.columnName?).toFinset

/-- A projection is a `Star` node. -/
def Projection.isStar : Projection → Bool
  | .star => true
  | _ => false

/-- The columns found in a tree. -/
def Query.referencedColumns (q : Query) : Finset String :=
  if (q.rootSelects.getD []).any Projection.isStar then {"*"} else q.columnNames

variable [Sqlglot]

/-- `AstSqlAnalyzer.extract_referenced_columns` -/
def extractReferencedColumns (sql : String) : Finset String :=
  match parseStatements sql with
  | [] => ∅
  | root :: _ => root.referencedColumns

/-- `referenced_columns` -/
def referencedColumns (sql : String) : Finset String :=
  let columns := extractReferencedColumns sql
  if columns = ∅ then columnsByPattern sql else columns

/-! ## Covered columns -/

/-- Databases with the same rows but for columns outside the set have the same
result, up to order. -/
def ColumnsCovered (V : Type) [Domain V] [DecidableEq V] (catalog : Catalog) (fuel : Nat)
    (sql : String) (q : Query) : Prop :=
  "*" ∉ referencedColumns sql → ∀ d₁ d₂ : Database V catalog,
    SameExcept (fun c => decide (lower c ∉ referencedColumns sql)) d₁ d₂ →
      (execute d₁ fuel q).rows.Perm (execute d₂ fuel q).rows

/-- The columns no reference of the statement names are hidden. -/
def columnLabels (V : Type) [Domain V] (q : Query) : Labels where
  nulled _ := false
  hidden c := decide (lower c ∉ q.columnNames)
  funcHeader := Domain.funcHeader V

/-- Without stars in the set, every column named by a reference is in it. -/
theorem columnNames_subset {sql : String} {q : Query} {rest : List Query}
    (hparse : parseStatements sql = q :: rest) (hstar : "*" ∉ referencedColumns sql) :
    q.columnNames ⊆ referencedColumns sql := by
  have hextract : extractReferencedColumns sql = q.referencedColumns := by
    rw [extractReferencedColumns, hparse]
  simp only [referencedColumns, hextract, Query.referencedColumns] at hstar ⊢
  by_cases hroot : (q.rootSelects.getD []).any Projection.isStar = true
  · simp [hroot] at hstar
  · rw [if_neg hroot]
    by_cases hempty : q.columnNames = ∅
    · rw [hempty]
      exact Finset.empty_subset _
    · rw [if_neg hempty]

variable {V : Type} [Domain V] [DecidableEq V] {catalog : Catalog}

/-- **The set covers the statement** when it has the star, or no column without a
reference of its own reaches the statement's rows. -/
theorem columnsCovered_of_flow {fuel : Nat} {sql : String} {q : Query} {rest : List Query}
    (hparse : parseStatements sql = q :: rest)
    (hflow : "*" ∈ referencedColumns sql ∨
      (flow (columnLabels V q) catalog fuel q).rows = false ∧
        (flow (columnLabels V q) catalog fuel q).columns.any id = false) :
    ColumnsCovered V catalog fuel sql q := by
  intro hstar d₁ d₂ hsame
  obtain ⟨hrows, hcolumns⟩ := hflow.resolve_left hstar
  have hsubset := columnNames_subset hparse hstar
  have hruns : Observed (columnLabels V q) d₁ d₂ := by
    refine ⟨rfl, fun db name => (hsame db name).imp fun r s hrow i c hc hvisible => ?_⟩
    refine hrow i c hc ?_
    simp only [columnLabels, decide_eq_false_iff_not, not_not] at hvisible ⊢
    exact hsubset hvisible
  have hagree : TableAgree (flow (columnLabels V q) catalog fuel q)
      (execute d₁ fuel (q.rewrite nullNothing)) (execute d₂ fuel (q.rewrite nullNothing)) :=
    flow_sound hruns q
  rw [q.rewrite_nullNothing] at hagree
  rw [eq_of_forall₂_agree (hagree.rows hrows) hcolumns]

end Model

/-! ## Two statements -/

/-- The title is returned, and only its new name is reported. -/
theorem not_columnsCovered_renaming :
    letI := Python.ascii
    ¬ ∀ (_ : Sqlglot) (catalog : Catalog) (fuel : Nat) (sql : String) (q : Query)
        (rest : List Query), parseStatements sql = q :: rest →
      ColumnsCovered Value catalog fuel sql q := by
  intro h
  have hrows := h (parserOf renamingText renamingQuery) albumCatalog 0 renamingText renamingQuery
    [] (parseStatements_parserOf (by decide)) (by decide +kernel) _ _
    (sameExcept_title (by decide) "Heroes" "Low" "a")
  revert hrows
  decide

theorem columnsCovered_of_flow_title :
    letI := Python.ascii
    letI := parserOf titleText titleQuery
    ColumnsCovered Value albumCatalog 0 titleText titleQuery :=
  @columnsCovered_of_flow Python.ascii (parserOf titleText titleQuery) Value _ _ albumCatalog 0
    titleText titleQuery [] (parseStatements_parserOf (by decide))
    (.inr ⟨by decide +kernel, by decide⟩)

end DbGateway.Sql
