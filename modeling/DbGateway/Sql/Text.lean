import DbGateway.Policy.Model
import DbGateway.Re

/-!
# DbGateway.Sql.Text

The parts of `services/policy_engine.py` that read a statement as text: the
fallbacks of `tables_touched` and `referenced_columns`, and the alias map of
`mask_rows`.
-/

namespace DbGateway.Sql

open Re Pattern

variable [Python]

/-- `_SQL_KEYWORDS` -/
def sqlKeywords : List String :=
  ["select", "from", "where", "group", "having", "order", "by", "limit", "offset", "join", "left",
    "right", "inner", "outer", "cross", "on", "as", "asc", "desc", "and", "or", "not", "null",
    "true", "false", "case", "when", "then", "else", "end", "distinct", "count", "sum", "avg",
    "min", "max", "concat", "coalesce", "cast", "lower", "upper", "trim", "substring", "date",
    "time", "timestamp", "round", "abs", "length"]

/-! ## Patterns -/

/-- `_TABLE_PATTERN` -/
def tablePattern : Pattern :=
  seqs [.boundary, alts [word "from", word "join"], spaces,
    .group 1 (.seq (.char isLetterFolded) (.star true (.char fun c => isWord c || c == '.')))]

/-- `_COLUMN_PATTERN` -/
def columnPattern : Pattern :=
  seqs [.boundary, .group 1 (.seq (.char isLetterFolded) (.star true (.char isWord))),
    optionalSpaces,
    alts [text "=", text "<>", text "!=", text "<", text ">", text "<=", text ">=",
      seqs [.boundary, word "in", .boundary], seqs [.boundary, word "like", .boundary]]]

/-- `\bselect\s+(.*?)\s+\bfrom\b` -/
def selectPattern : Pattern :=
  seqs [.boundary, word "select", spaces, .group 1 (.star false (.char fun _ => true)), spaces,
    .boundary, word "from", .boundary]

/-- `\bAS\s+([A-Za-z_][\w$]*)\s*$` -/
def aliasPattern : Pattern :=
  seqs [.boundary, word "as", spaces,
    .group 1 (.seq (.char isLetterFolded) (.star true (.char fun c => isWord c || c == '$'))),
    optionalSpaces, .end_]

/-- `[A-Za-z_][\w$]*` -/
def identifierPattern : Pattern :=
  .seq (.char isLetter) (.star true (.char fun c => isWord c || c == '$'))

/-- `\b[a-zA-Z_][\w]*\b` -/
def wordPattern : Pattern :=
  seqs [.boundary, .char isLetter, .star true (.char isWord), .boundary]

/-- `\b{identifier}\s*\(` -/
def callPattern (identifier : String) : Pattern :=
  seqs [.boundary, text identifier, optionalSpaces, .char (· == '(')]

/-! ## Lists of a select clause -/

/-- The state of `_split_sql_list`. -/
structure Splitter where
  items : List String := []
  buffer : List Char := []
  depth : Nat := 0
  quote : Option Char := none

/-- The buffer, stripped, as an item unless it is empty. -/
def Splitter.flush (s : Splitter) : List String :=
  let item := strip (String.ofList s.buffer)
  if item = "" then s.items else s.items ++ [item]

/-- The splitter reads a character. -/
def Splitter.step (s : Splitter) (c : Char) : Splitter :=
  match s.quote with
  | some q => { s with buffer := s.buffer ++ [c], quote := if c = q then none else some q }
  | none =>
      if c = '\'' || c = '"' || c.toNat = 96 then
        { s with quote := some c, buffer := s.buffer ++ [c] }
      else if c = '(' || c = '[' then { s with depth := s.depth + 1, buffer := s.buffer ++ [c] }
      else if c = ')' || c = ']' then { s with depth := s.depth - 1, buffer := s.buffer ++ [c] }
      else if c = ',' && s.depth = 0 then { s with items := s.flush, buffer := [] }
      else { s with buffer := s.buffer ++ [c] }

/-- `_split_sql_list` -/
def splitSqlList (value : List Char) : List String := (value.foldl Splitter.step {}).flush

/-- An item and its `AS` alias. -/
def splitAlias (item : String) : String × Option String :=
  match search aliasPattern item.toList with
  | none => (item, none)
  | some m =>
      (String.ofList ((item.toList.take m.start).reverse.dropWhile isSpace).reverse,
        some (String.ofList (m.groupText item.toList 1)))

/-- `_column_candidates_from_expression` -/
def columnCandidates (expression : String) : List String :=
  let cleaned := strip expression
  if cleaned = "" then []
  else
    let candidates := ((findIter identifierPattern cleaned.toList).map fun m =>
      lower (String.ofList (m.whole cleaned.toList))).filter (· ∉ sqlKeywords)
    if candidates.isEmpty then [normalizeIdentifier cleaned] else candidates

/-- `_select_alias_map` -/
def selectAliasMap (sql : String) : Dict (List String) :=
  match search selectPattern sql.toList with
  | none => []
  | some m =>
      (splitSqlList (m.groupText sql.toList 1)).foldl (fun aliasMap item =>
        match splitAlias item with
        | (expression, some name) =>
            aliasMap.set (normalizeIdentifier (lower name)) (columnCandidates expression)
        | (expression, none) =>
            let lastColumn := normalizeIdentifier (afterLastDot expression)
            if lastColumn = "" then aliasMap
            else aliasMap.set lastColumn (columnCandidates expression)) []

/-! ## Fallbacks -/

/-- `_TABLE_PATTERN.findall`, last components, lower-cased, without
duplicates. -/
def tablesByPattern (sql : String) : List String :=
  ((findIter tablePattern sql.toList).map fun m =>
    lower (afterLastDot (String.ofList (m.groupText sql.toList 1)))).eraseDups

/-- The columns of one item of the select clause. -/
def itemColumns (item : String) : List String :=
  let expression := (splitAlias item).1
  ((findIter wordPattern expression.toList).map fun m =>
      String.ofList (m.whole expression.toList)).filterMap fun identifier =>
    if lower identifier ∈ sqlKeywords then none
    else if (search (callPattern identifier) expression.toList).isSome then none
    else some (afterLastDot (lower identifier))

/-- What `referenced_columns` finds by patterns. -/
def columnsByPattern (sql : String) : Finset String :=
  let columns := ((findIter columnPattern sql.toList).map fun m =>
    lower (String.ofList (m.groupText sql.toList 1))).toFinset
  match search selectPattern sql.toList with
  | none => columns
  | some m =>
      let clause := m.groupText sql.toList 1
      if '*' ∈ clause then {"*"}
      else columns ∪ ((splitSqlList clause).flatMap itemColumns).toFinset

end DbGateway.Sql
