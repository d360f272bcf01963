import DbGateway.Lines
import DbGateway.Policy.Model
import DbGateway.Re
import DbGateway.Runs

/-!
# DbGateway.Schema.Text

The schema text a language model is shown: `_format_schema_rows` of
`sql_query_repository.py` writes it, one line for a table and one for each of
its columns, and `_filter_schema_text_by_access` of `sql_query_controller.py`
reads it back line by line and drops what the principal cannot read.

Names and descriptions are written as they are, and a text is read by its
characters, so the two are inverse only for metadata whose lines can be told
apart (`Readable`).
-/

namespace DbGateway.Schema

/-! ## Writing -/

/-- A table of the metadata: its columns, with their descriptions. -/
structure SchemaTable where
  name : String
  columns : List (String × String)
deriving DecidableEq

/-- A list of rows, each of some tables. -/
abbrev Metadata := List (List SchemaTable)

/-- `f"{table_name}:"` -/
def SchemaTable.header (self : SchemaTable) : String := self.name ++ ":"

/-- `f"  {column_name}: {description}"` -/
def columnLine (column : String × String) : String := "  " ++ column.1 ++ ": " ++ column.2

/-- The lines of a table. -/
def SchemaTable.lines (self : SchemaTable) : List String :=
  self.header :: self.columns.map columnLine

/-- The text of the tables, row by row. -/
def formatTables (rows : Metadata) : String :=
  joinLines (rows.flatMap fun tables => tables.flatMap SchemaTable.lines ++ [""])

variable [Python]

/-- The description of a column, as it is written. -/
def description (columnInfo : Json) : String :=
  match columnInfo with
  | .obj _ => ((columnInfo.get? "column_description").getD (.str "")).toStr
  | value => value.toStr

/-- What `_format_single_schema` reads of an entry. -/
def readTable (entry : String × Json) : Except PyError SchemaTable :=
  match entry.2 with
  | .obj _ =>
      match (entry.2.get? "columns").getD (.obj []) with
      | .obj columns =>
          .ok ⟨entry.1, columns.map fun column => (column.1, description column.2)⟩
      | _ => .error .attributeError
  | _ => .ok ⟨entry.1, []⟩

/-- `_format_schema_rows` -/
def formatSchemaRows (rows : List (Dict Json)) : Except PyError String :=
  (rows.mapM (List.mapM readTable)).map formatTables

/-! ## Reading -/

/-- `raw_line.startswith((" ", "\t"))` -/
def indented (rawLine : String) : Bool :=
  rawLine.toList.head?.any fun c => c = ' ' || c = '\t'

/-- `raw_line.rstrip(":").strip()` -/
def candidate (rawLine : String) : String :=
  strip (String.ofList (rawLine.toList.rdropWhile (· = ':')))

/-- `^\s+([^:]+):` -/
def columnPattern : Re.Pattern :=
  .seqs [.spaces, .group 1 (.plus (.char (· ≠ ':'))), .char (· = ':')]

/-- `re.match(…).group(1).strip()` -/
def columnName? (rawLine : String) : Option String :=
  (Re.matchAt columnPattern rawLine.toList 0).map fun found =>
    strip (String.ofList (found.groupText rawLine.toList 1))

/-- One round of the loop: whether the line is kept, and the table that is
current after it. -/
def readLine (access : EffectiveAccess) (currentTable : Option String) (rawLine : String) :
    Bool × Option String :=
  if strip rawLine = "" then (false, currentTable)
  else if !indented rawLine then
    if access.tableAccessible (candidate rawLine) then (true, some (candidate rawLine))
    else (false, none)
  else
    match currentTable with
    | none => (false, none)
    | some table =>
        match columnName? rawLine with
        | some column => (access.columnAccessible table column, some table)
        | none => (true, some table)

/-- `_filter_schema_text_by_access` -/
def filterSchemaTextByAccess (schemaText : String) (access : EffectiveAccess) : String :=
  if access.unrestricted || schemaText = "" || strip schemaText = "" then schemaText
  else joinLines (Runs.accepted (readLine access) none (splitlines schemaText))

example :
    letI := Python.ascii
    filterSchemaTextByAccess
        (formatTables [[⟨"employees", [("id", "PK"), ("ssn", "social security number")]⟩],
          [⟨"salaries", [("amount", "compensation")]⟩]])
        { accessibleTables := {"employees"}, allowedColumns := {"id"} } =
      "employees:\n  id: PK" := by
  decide

end DbGateway.Schema
