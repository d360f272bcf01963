import DbGateway.Sql.Cleaner
import DbGateway.Sql.Scan
import Mathlib.Algebra.GroupWithZero.Nat

/-!
# DbGateway.Repository.Cost

`SqlQueryRepository.estimate_query_cost` and `evaluate_query_cost`: the cost of
a statement by what its text contains.
-/

namespace DbGateway.Repository

open Re Re.Pattern Sql

/-! ## `estimate_query_cost` -/

/-- A text that is looked for in a statement, what it adds to the score and the
reason it gives. -/
structure Heuristic where
  /-- Any of these. -/
  needles : List String
  weight : Nat
  reason : Option String := none
  /-- Looked for in the upper-cased statement. -/
  folded : Bool := true

def heuristics : List Heuristic :=
  [{ needles := ["SELECT"], weight := 1 },
    { needles := ["JOIN"], weight := 4, reason := some "joins" },
    { needles := ["GROUP BY", "HAVING"], weight := 3, reason := some "aggregations" },
    { needles := ["ORDER BY"], weight := 2, reason := some "sorting" },
    { needles := ["LIMIT"], weight := 1 },
    { needles := ["*"], weight := 2, reason := some "wide scan", folded := false },
    { needles := ["UNION", "INTERSECT", "EXCEPT"], weight := 4, reason := some "set operations" },
    { needles := ["WITH "], weight := 3, reason := some "CTE" },
    { needles := ["SELECT COUNT"], weight := 2, reason := some "count aggregation" }]

/-- `needle in text` -/
def contains (needle : String) (text : List Char) : Bool := decide (needle.toList <:+: text)

def Heuristic.found (h : Heuristic) (normalized upperSql : List Char) : Bool :=
  h.needles.any fun needle => contains needle (bif h.folded then upperSql else normalized)

/-- `(?:'[^']*'|"[^"]*")` -/
def stringLiteral : Pattern := .alt (block '\'' '\'') (block '"' '"')

/-- `\([^)]*\)` -/
def parenthesized : Pattern := block '(' ')'

/-- `\bFROM\b|\bJOIN\b` -/
def tableKeyword : Pattern := .alt (wholeWord "FROM") (wholeWord "JOIN")

inductive CostLevel where
  | low
  | medium
  | high
  | critical
deriving DecidableEq, Repr

def costLevel (score : Nat) : CostLevel :=
  if score ≤ 4 then .low else if score ≤ 8 then .medium else if score ≤ 12 then .high else .critical

structure Estimate where
  score : Nat
  level : CostLevel
  reason : String
deriving DecidableEq, Repr

section

variable [Python]

/-- The statement without string literals and parenthesized blocks. -/
def outerSql (upperSql : List Char) : List Char :=
  sub parenthesized (fun _ => [' ']) (sub stringLiteral (fun _ => [' ']) upperSql)

def numberOfTables (upperSql : List Char) : Nat :=
  max 1 (findIter tableKeyword (outerSql upperSql)).length

variable [PythonUpper]

def estimateQueryCost (sql : String) : Estimate :=
  let normalized := strip sql
  if normalized = "" then ⟨0, .low, "Empty query"⟩
  else
    let upperSql := (upper normalized).toList
    let found := heuristics.filter fun h => h.found normalized.toList upperSql
    let score := 1 + (found.map Heuristic.weight).sum + (numberOfTables upperSql - 1)
    let reasons := found.filterMap Heuristic.reason
    ⟨score, costLevel score, if reasons = [] then "basic select" else ", ".intercalate reasons⟩

/-- The statement as the heuristics read it. -/
def upperSql (sql : String) : List Char := (upper (strip sql)).toList

end

/-! ## `evaluate_query_cost` -/

inductive CostAction where
  | allow
  | warn
  | deny
deriving DecidableEq, Repr

structure Evaluation where
  estimate : Estimate
  threshold : Rat
  decision : CostAction
  message : String

section

variable [Python] [PythonUpper]

def evaluateQueryCost (threshold : Rat) (action : CostAction) (sql : String) : Evaluation :=
  let estimate := estimateQueryCost sql
  let decision := if (estimate.score : Rat) ≥ threshold then action else .allow
  match decision with
  | .deny => ⟨estimate, threshold, .deny,
      "Query exceeds the configured cost threshold and is rejected."⟩
  | .warn => ⟨estimate, threshold, .warn,
      "Query exceeds the configured cost threshold and will be allowed with a warning."⟩
  | .allow => ⟨estimate, threshold, .allow, "Query is within the configured cost budget."⟩

end

/-! ## The patterns -/

section

variable [Python]

theorem isBlocks_stringLiteral : IsBlocks stringLiteral quoteClosing := by
  intro pre mid post gs
  simp only [stringLiteral, matches_alt, matches_block, quoteClosing, isQuote]
  constructor
  · rintro (⟨body, rfl, hbody, rfl⟩ | ⟨body, rfl, hbody, rfl⟩)
    · exact ⟨'\'', '\'', body, rfl, rfl, hbody, rfl⟩
    · exact ⟨'"', '"', body, rfl, rfl, hbody, rfl⟩
  · rintro ⟨o, c, body, hclosing, rfl, hbody, rfl⟩
    simp only [Bool.or_eq_true, beq_iff_eq, Option.ite_none_right_eq_some, Option.some.injEq]
      at hclosing
    obtain ⟨rfl | rfl, rfl⟩ := hclosing
    · exact .inl ⟨body, rfl, hbody, rfl⟩
    · exact .inr ⟨body, rfl, hbody, rfl⟩

theorem isBlocks_parenthesized : IsBlocks parenthesized parenClosing := by
  intro pre mid post gs
  rw [parenthesized, matches_block]
  constructor
  · rintro ⟨body, rfl, hbody, rfl⟩
    exact ⟨'(', ')', body, rfl, rfl, hbody, rfl⟩
  · rintro ⟨o, c, body, hclosing, rfl, hbody, rfl⟩
    obtain ⟨rfl, rfl⟩ : o = '(' ∧ ')' = c := by simpa [parenClosing] using hclosing
    exact ⟨body, rfl, hbody, rfl⟩

/-- `FROM` and `JOIN` -/
def tableWords : List (List Char) := ["FROM".toList, "JOIN".toList]

/-- The `FROM` and `JOIN` words among some words and symbols. -/
def tableCount (ls : List Lexeme) : Nat := ls.countP (Lexeme.isWordIn tableWords)

variable [PythonTables]

theorem isWords_tableKeyword : IsWords tableKeyword tableWords := by
  constructor
  · have hascii : ∀ w ∈ tableWords, w ≠ [] ∧ w.all Char.isAlphanum = true := by decide
    exact fun w hw => ⟨(hascii w hw).1, fun c hc =>
      isWord_of_isAlphanum (List.all_eq_true.mp (hascii w hw).2 c hc)⟩
  · intro pre mid post gs
    simp only [tableKeyword, matches_alt, matches_wholeWord, tableWords, List.mem_cons,
      List.not_mem_nil, or_false]
    tauto

/-- What the substitutions leave of a statement. -/
def seenParts (upperSql : List Char) : List Lexeme :=
  shown id parenClosing none (shown id quoteClosing none (parts upperSql))

/-- How many tables there are is said by the words and symbols of the statement. -/
theorem numberOfTables_eq (upperSql : List Char) :
    numberOfTables upperSql = max 1 (tableCount (seenParts upperSql)) := by
  have hquotes := parts_blankRest isBlocks_stringLiteral
    (fun o c h => by
      obtain ⟨hq, rfl⟩ : isQuote o = true ∧ o = c := by simpa [quoteClosing] using h
      have hdelimits := delimits_of_isQuote hq
      exact ⟨⟨not_isSpace_of_delimits hdelimits, not_isWord_of_delimits hdelimits⟩,
        not_isSpace_of_delimits hdelimits, not_isWord_of_delimits hdelimits⟩) [] upperSql
  have hparens := parts_blankRest isBlocks_parenthesized
    (fun o c h => by
      obtain ⟨rfl, rfl⟩ : o = '(' ∧ ')' = c := by simpa [parenClosing] using h
      rw [isWord_ascii (by decide), isWord_ascii (by decide)]
      decide) [] (blankRest stringLiteral [] upperSql)
  have hstart : Apart [] (blankRest parenthesized [] (blankRest stringLiteral [] upperSql)) := by
    simp [Apart]
  have hlength := length_findRest isWords_tableKeyword hstart
  rw [hparens, hquotes] at hlength
  exact congrArg (max 1) hlength

end

end DbGateway.Repository
