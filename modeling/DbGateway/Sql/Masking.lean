import DbGateway.Sql.FlowSound
import DbGateway.Sql.RowScope
import DbGateway.Sql.Text
import DbGateway.Sql.Values

/-!
# DbGateway.Sql.Masking

`rewrite_masked_columns` and `mask_rows`: references to a masked column become
`NULL` before the statement runs, and the columns of the result are masked by
name after it.

Together they hide the masked values when the analysis of `DbGateway.Sql.Flow`
finds that no other value of the rows returned depends on them
(`rowsMasked_of_flow`).
-/

namespace DbGateway.Sql

section Model

variable [Python]

/-- `masked` -/
def loweredColumns (maskedColumns : Finset String) : Finset String := maskedColumns.image lower

/-- `rewrite_masked_columns` -/
def rewriteMaskedColumns [Sqlglot] (sql : String) (maskedColumns : Finset String) :
    Except RewriteError Statement :=
  if maskedColumns = ∅ then .ok (.unchanged sql)
  else
    match parseOne sql with
    | none => .error (.valueError "Masking rewrite failed to parse statement.")
    | some tree => .ok (.printed (tree.rewrite
        (nullColumns fun n => decide (lower n.name ∈ loweredColumns maskedColumns))))

/-- `should_mask` -/
def shouldMask (aliasMap : Dict (List String)) (columns : Finset String) (key : String) : Bool :=
  let normalized := normalizeIdentifier key
  if normalized = "" then false
  else
    decide (normalized ∈ columns) ||
      ((aliasMap.get? normalized).getD []).any fun source => decide (source ∈ columns)

section

variable {V : Type} [Domain V]

/-- `mask_rows`; a missing statement is the empty text. -/
def maskRows (rows : List (Dict V)) (columns : Finset String) (sql : String) : List (Dict V) :=
  if columns = ∅ then rows
  else
    let aliasMap := if sql = "" then [] else selectAliasMap sql
    rows.map fun row => row.map fun kv =>
      (kv.1, if shouldMask aliasMap (loweredColumns columns) kv.1 then null else kv.2)

omit [Python] [Domain V] in
/-- `dict(row._mapping)` of each row. -/
def Table.dicts (t : Table V) : List (Dict V) :=
  t.rows.map fun row => Dict.ofPairs (t.headers.zip row)

/-- The tree a rewritten statement parses to. -/
def Statement.tree? [Sqlglot] : Statement → Option Query
  | .unchanged sql => parseOne sql
  | .printed tree => some tree

/-! ## Masked rows -/

/-- The columns named by a set. -/
def isNamed (columns : Finset String) (column : String) : Bool :=
  decide (lower column ∈ loweredColumns columns)

/-- The rows returned do not depend on the values of masked columns. -/
def RowsMasked [Sqlglot] (V : Type) [Domain V] [DecidableEq V] (catalog : Catalog) (fuel : Nat)
    (sql : String) (maskedColumns : Finset String) : Prop :=
  ∀ d₁ d₂ : Database V catalog, SameExcept (isNamed maskedColumns) d₁ d₂ →
    ∃ statement tree, rewriteMaskedColumns sql maskedColumns = .ok statement ∧
      statement.tree? = some tree ∧
        maskRows (execute d₁ fuel tree).dicts maskedColumns sql =
          maskRows (execute d₂ fuel tree).dicts maskedColumns sql

/-- References to masked columns read as `NULL`; what else is in them is
hidden. -/
def maskLabels (V : Type) [Domain V] (maskedColumns : Finset String) : Labels where
  nulled n := decide (lower n.name ∈ loweredColumns maskedColumns)
  hidden := isNamed maskedColumns
  funcHeader := Domain.funcHeader V

/-- What a statement may do with masked values: no row is there because of one,
and the outputs one reaches are masked by name. -/
structure OutputsMasked (maskedColumns : Finset String) (sql : String) (shape : Shape) : Prop where
  rows : shape.rows = false
  outputs : ∀ output ∈ shape.headers.zip shape.columns, output.2 = true →
    shouldMask (if sql = "" then [] else selectAliasMap sql) (loweredColumns maskedColumns)
      output.1 = true

/-- Rows that agree where they are not masked are masked to the same. -/
theorem maskRows_agree {shape : Shape} {t₁ t₂ : Table V} {columns : Finset String} {sql : String}
    (hne : columns ≠ ∅) (h : TableAgree shape t₁ t₂) (hmasked : OutputsMasked columns sql shape) :
    maskRows t₁.dicts columns sql = maskRows t₂.dicts columns sql := by
  simp only [maskRows, if_neg hne, Table.dicts, List.map_map, h.left, h.right]
  refine Rows.forall₂_map_eq (h.rows hmasked.rows) fun r s hrow => ?_
  simp only [Function.comp_apply]
  rw [Dict.map_ofPairs (fun key value => if shouldMask _ _ key then null else value),
    Dict.map_ofPairs (fun key value => if shouldMask _ _ key then null else value)]
  congr 1
  refine List.ext_getElem (by simp [hrow.length]) fun i hi hi' => ?_
  simp only [List.length_map, List.length_zip, Nat.lt_min] at hi hi'
  simp only [List.getElem_map, List.getElem_zip, Prod.mk.injEq, true_and]
  by_cases hmask : shouldMask (if sql = "" then [] else selectAliasMap sql)
      (loweredColumns columns) shape.headers[i] = true
  · rw [if_pos hmask, if_pos hmask]
  · rw [if_neg hmask, if_neg hmask]
    -- an output that is not masked is not tainted
    have hclean : shape.columns.getD i false = false := by
      by_contra htainted
      rw [Bool.not_eq_false, List.getD_eq_getElem?_getD] at htainted
      obtain ⟨hlt, htrue⟩ : ∃ h : i < shape.columns.length, shape.columns[i] = true := by
        by_cases hlt : i < shape.columns.length
        · exact ⟨hlt, by simpa [hlt] using htainted⟩
        · simp [List.getElem?_eq_none (Nat.le_of_not_lt hlt)] at htainted
      refine hmask (hmasked.outputs (shape.headers[i], shape.columns[i]) ?_ htrue)
      exact List.mem_iff_getElem.mpr ⟨i, by simp [hi.1, hlt], by simp⟩
    have hvalue := hrow.values i hclean
    rwa [List.getD_eq_getElem _ _ hi.2, List.getD_eq_getElem _ _ hi'.2] at hvalue

variable [DecidableEq V] {catalog : Catalog}

omit [Python] [DecidableEq V] in
/-- Databases without hidden columns are equal. -/
theorem SameExcept.eq {hidden : String → Bool} {d₁ d₂ : Database V catalog}
    (h : SameExcept hidden d₁ d₂) (hnone : ∀ c, hidden c = false) : d₁ = d₂ := by
  have hrows : d₁.rows = d₂.rows := by
    funext db name
    exact eq_of_forall₂_agree (h.agree db name) (by simp [hnone])
  cases d₁
  cases d₂
  congr

/-- **Masked values do not interfere** with the rows returned of a statement
that only shows them where they are masked by name. -/
theorem rowsMasked_of_flow [Sqlglot] {fuel : Nat} {sql : String} {q : Query}
    {maskedColumns : Finset String} (hparse : parseOne sql = some q)
    (hmasked : OutputsMasked maskedColumns sql
      (flow (maskLabels V maskedColumns) catalog fuel q)) :
    RowsMasked V catalog fuel sql maskedColumns := by
  intro d₁ d₂ hsame
  by_cases hne : maskedColumns = ∅
  · -- nothing is masked, and nothing differs
    obtain rfl : d₁ = d₂ := hsame.eq fun c => by simp [isNamed, loweredColumns, hne]
    exact ⟨.unchanged sql, q, by rw [rewriteMaskedColumns, if_pos hne], hparse, rfl⟩
  · have hruns : Observed (maskLabels V maskedColumns) d₁ d₂ := ⟨rfl, hsame⟩
    refine ⟨.printed (q.rewrite (maskLabels V maskedColumns).rewriting), _, ?_, rfl,
      maskRows_agree hne (flow_sound hruns q) hmasked⟩
    rw [rewriteMaskedColumns, if_neg hne, hparse]
    rfl

end

end Model

/-! ## Two statements -/

/-- Two databases whose one album has another title. -/
theorem sameExcept_title {hidden : String → Bool} (hhidden : hidden "title" = true)
    (title title' tenant : String) :
    SameExcept hidden (albumDatabase [(title, tenant)]) (albumDatabase [(title', tenant)]) := by
  intro db name
  by_cases hname : name = "album"
  · subst hname
    refine .cons (fun i c hc hvisible => ?_) .nil
    match i with
    | 0 =>
        obtain rfl : "title" = c := Option.some.inj hc
        rw [hhidden] at hvisible
        contradiction
    | i + 1 => rfl
  · simp [albumDatabase, hname]

/-- A statement that renames the columns of a star. -/
def renamingText : String := "SELECT x FROM (SELECT * FROM album) AS d(x, y)"

def renamingQuery : Query :=
  .select false [.item (.column none ⟨"x", false⟩) none]
    (some (.derived (.select false [.star] (some (.table none ⟨"album", false⟩ none)) [] none []
        none [] {})
      (some ⟨⟨"d", false⟩, [⟨"x", false⟩, ⟨"y", false⟩]⟩))) [] none [] none [] {}

/-- The title is returned under another name. -/
theorem not_rowsMasked_renaming :
    letI := Python.ascii
    ¬ ∀ (_ : Sqlglot) (catalog : Catalog) (fuel : Nat) (sql : String) (q : Query)
        (maskedColumns : Finset String), parseOne sql = some q →
      RowsMasked Value catalog fuel sql maskedColumns := by
  intro h
  have hhidden : @isNamed Python.ascii {"title"} "title" = true := by decide
  obtain ⟨statement, tree, hstatement, htree, hequal⟩ := h (parserOf renamingText renamingQuery)
    albumCatalog 0 renamingText renamingQuery {"title"} (parseOne_parserOf _ _) _ _
    (sameExcept_title hhidden "Heroes" "Low" "a")
  have hrewritten : @rewriteMaskedColumns Python.ascii (parserOf renamingText renamingQuery)
      renamingText {"title"} = .ok (.printed renamingQuery) := by
    -- no reference in the statement is to a masked column
    have hx : ¬ @lower Python.ascii "x" ∈ @loweredColumns Python.ascii {"title"} := by
      decide
    unfold rewriteMaskedColumns
    rw [if_neg (by decide), parseOne_parserOf]
    simp [renamingQuery, Query.rewrite, Projection.rewriteList, Projection.rewrite,
      Source.rewriteOption, Source.rewrite, Join.rewriteList, Expr.rewriteOption,
      Expr.rewriteList, nullColumns, hx]
  obtain rfl : Statement.printed renamingQuery = statement :=
    Except.ok.inj (hrewritten.symm.trans hstatement)
  obtain rfl : renamingQuery = tree := Option.some.inj htree
  revert hequal
  decide

/-- A statement that shows all columns under their names. -/
def starText : String := "SELECT * FROM album"

def starQuery : Query :=
  .select false [.star] (some (.table none ⟨"album", false⟩ none)) [] none [] none [] {}

theorem rowsMasked_of_flow_star :
    letI := Python.ascii
    letI := parserOf starText starQuery
    RowsMasked Value albumCatalog 0 starText {"title"} :=
  @rowsMasked_of_flow Python.ascii Value _ _ albumCatalog (parserOf starText starQuery) 0 starText
    starQuery {"title"} (parseOne_parserOf _ _)
    (@OutputsMasked.mk Python.ascii _ _ _ (by decide) (by decide +kernel))

end DbGateway.Sql
