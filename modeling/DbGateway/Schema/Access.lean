import DbGateway.Schema.Text

/-!
# DbGateway.Schema.Access

What the filtered schema text depends on.  A denied table or column is dropped
line by line, so it leaves no trace as long as its lines are read as its own:
`filter_noninterference` for metadata of which that holds (`Readable`).
-/

namespace DbGateway.Schema

variable [Python]

/-- The lines of a text, as they are read: without the blank ones. -/
def readLines (part : String) : List String :=
  (splitlines (part ++ "\n")).filter fun line => strip line ≠ ""

/-- The lines a table is read as. -/
def SchemaTable.readLines (self : SchemaTable) : List String :=
  self.lines.flatMap Schema.readLines

/-- The columns of a table a principal may see. -/
def visibleColumns (access : EffectiveAccess) (table : SchemaTable) : SchemaTable :=
  { table with
    columns := table.columns.filter fun column => access.columnAccessible table.name column.1 }

/-- The tables a principal may see, with the columns it may see of them. -/
def visible (access : EffectiveAccess) (tables : List SchemaTable) : List SchemaTable :=
  (tables.filter fun table => access.tableAccessible table.name).map (visibleColumns access)

/-- The filtered text depends on the visible part of the metadata only. -/
def SchemaSeparated (access : EffectiveAccess) (metadata metadata' : Metadata) : Prop :=
  visible access metadata.flatten = visible access metadata'.flatten →
    filterSchemaTextByAccess (formatTables metadata) access =
      filterSchemaTextByAccess (formatTables metadata') access

/-- What a principal may not see of a table is read as what it is. -/
structure ReadableTable (access : EffectiveAccess) (table : SchemaTable) : Prop where
  /-- The first line of the table is not indented. -/
  named : ∀ line ∈ (readLines table.header).head?, indented line = false
  /-- If the table is denied, no line of it is read as the name of an accessible
  one. -/
  denied : access.tableAccessible table.name = false → ∀ line ∈ table.readLines,
    indented line = true ∨ access.tableAccessible (candidate line) = false
  /-- Otherwise the lines of a denied column are read as those of denied
  columns. -/
  columns : access.tableAccessible table.name = true → ∀ column ∈ table.columns,
    access.columnAccessible table.name column.1 = false →
      ∀ line ∈ readLines (columnLine column), indented line = true ∧
        ∃ name ∈ columnName? line, access.columnAccessible table.name name = false

instance (access : EffectiveAccess) (table : SchemaTable) :
    Decidable (ReadableTable access table) :=
  decidable_of_iff
    ((∀ line ∈ (readLines table.header).head?, indented line = false) ∧
      (access.tableAccessible table.name = false → ∀ line ∈ table.readLines,
        indented line = true ∨ access.tableAccessible (candidate line) = false) ∧
      (access.tableAccessible table.name = true → ∀ column ∈ table.columns,
        access.columnAccessible table.name column.1 = false →
          ∀ line ∈ readLines (columnLine column), indented line = true ∧
            ∃ name ∈ columnName? line, access.columnAccessible table.name name = false))
    ⟨fun ⟨hnamed, hdenied, hcolumns⟩ => ⟨hnamed, hdenied, hcolumns⟩,
      fun h => ⟨h.named, h.denied, h.columns⟩⟩

/-- The tables are read as what they are, and there are some, or at most one
row. -/
structure Readable (access : EffectiveAccess) (metadata : Metadata) : Prop where
  tables : ∀ table ∈ metadata.flatten, ReadableTable access table
  rows : metadata.flatten = [] → metadata.length ≤ 1

instance (access : EffectiveAccess) (metadata : Metadata) :
    Decidable (Readable access metadata) :=
  decidable_of_iff
    ((∀ table ∈ metadata.flatten, ReadableTable access table) ∧
      (metadata.flatten = [] → metadata.length ≤ 1))
    ⟨fun ⟨htables, hrows⟩ => ⟨htables, hrows⟩, fun h => ⟨h.tables, h.rows⟩⟩

omit [Python] in
/-- The description of a column of `artist` reads as a table and a column. -/
theorem not_schemaSeparated_artist :
    letI := Python.ascii
    ¬ ∀ (access : EffectiveAccess) (metadata metadata' : Metadata),
      access.unrestricted = false → SchemaSeparated access metadata metadata' := by
  let _ := Python.ascii
  intro h
  have hsame := h { accessibleTables := {"album"} }
    [[⟨"artist", [("bio", "see\nalbum:\n  contract: expires in May")]⟩]]
    [[⟨"artist", [("bio", "see album")]⟩]] rfl (by decide)
  revert hsame
  decide

variable {access : EffectiveAccess}

/-! ## One line -/

theorem readLine_blank (currentTable : Option String) {line : String} (h : strip line = "") :
    readLine access currentTable line = (false, currentTable) := by
  unfold readLine
  rw [if_pos h]

/-- A line that is not indented is read alike whatever table is current. -/
theorem readLine_of_not_indented (currentTable currentTable' : Option String) {line : String}
    (hblank : strip line ≠ "") (h : indented line = false) :
    readLine access currentTable line = readLine access currentTable' line := by
  unfold readLine
  rw [if_neg hblank, if_neg hblank, h]
  rfl

theorem readLine_denied (currentTable : Option String) {line : String}
    (hblank : strip line ≠ "") (h : indented line = false)
    (hdenied : access.tableAccessible (candidate line) = false) :
    readLine access currentTable line = (false, none) := by
  simp [readLine, hblank, h, hdenied]

/-- No table is current: lines that name no accessible table are dropped. -/
theorem readLine_none {line : String}
    (h : indented line = true ∨ access.tableAccessible (candidate line) = false) :
    readLine access none line = (false, none) := by
  by_cases hblank : strip line = ""
  · exact readLine_blank none hblank
  · cases hindented : indented line with
    | true => simp [readLine, hblank, hindented]
    | false =>
        have hdenied := h.resolve_left (by simp [hindented])
        exact readLine_denied none hblank hindented hdenied

/-- A column denied in an accessible table is denied in every table. -/
theorem columnAccessible_denied {table column : String}
    (htable : access.tableAccessible table = true)
    (hdenied : access.columnAccessible table column = false) (table' : String) :
    access.columnAccessible table' column = false := by
  cases htable' : access.tableAccessible table' with
  | true => simpa [EffectiveAccess.columnAccessible, htable, htable'] using hdenied
  | false => simp [EffectiveAccess.columnAccessible, htable']

/-- A line of a denied column is dropped whatever table is current. -/
theorem readLine_hidden (currentTable : Option String) {table line name : String}
    (htable : access.tableAccessible table = true) (hindented : indented line = true)
    (hname : columnName? line = some name)
    (hdenied : access.columnAccessible table name = false) :
    readLine access currentTable line = (false, currentTable) := by
  by_cases hblank : strip line = ""
  · exact readLine_blank currentTable hblank
  · cases currentTable with
    | none => simp [readLine, hblank, hindented]
    | some current =>
        have hcurrent := columnAccessible_denied htable hdenied current
        simp [readLine, hblank, hindented, hname, hcurrent]

/-! ## One table -/

omit [Python] in
theorem isSpace_of_strip_eq_empty {s : String} (h : strip s = "") {c : Char}
    (hc : c ∈ s.toList) : isSpace c = true := by
  have hstrip : List.rdropWhile isSpace (s.toList.dropWhile isSpace) = [] := by
    have hlist := congrArg String.toList h
    rwa [strip, stripChars, String.toList_ofList] at hlist
  rw [List.rdropWhile_eq_nil_iff] at hstrip
  rw [← List.takeWhile_append_dropWhile (p := isSpace) (l := s.toList)] at hc
  cases List.mem_append.mp hc with
  | inl htake => exact List.mem_takeWhile_imp htake
  | inr hdrop => exact hstrip c hdrop

omit [Python] in
/-- A line with a colon is read as some line. -/
theorem readLines_header_ne_nil (table : SchemaTable) : readLines table.header ≠ [] := by
  have hcolon : ':' ∈ (table.header ++ "\n").toList := by
    simp [SchemaTable.header, String.toList_append]
  obtain ⟨line, hline, hmem⟩ := exists_mem_splitlines hcolon (by decide)
  refine List.ne_nil_of_mem (List.mem_filter.mpr ⟨hline, ?_⟩)
  refine decide_eq_true fun hblank => ?_
  exact absurd (isSpace_of_strip_eq_empty hblank hmem) (by decide)

/-- The lines a table is written as start with a line that forgets what came
before, so they are read alike after anything. -/
theorem read_header {table : SchemaTable} (h : ReadableTable access table)
    (currentTable currentTable' : Option String) :
    Runs.accepted (readLine access) currentTable (readLines table.header) =
        Runs.accepted (readLine access) currentTable' (readLines table.header) ∧
      Runs.after (Runs.next (readLine access)) currentTable (readLines table.header) =
        Runs.after (Runs.next (readLine access)) currentTable' (readLines table.header) := by
  have hnamed := h.named
  have hblank : ∀ line ∈ readLines table.header, strip line ≠ "" := fun line hline =>
    of_decide_eq_true (List.mem_filter.mp hline).2
  cases hlines : readLines table.header with
  | nil => exact absurd hlines (readLines_header_ne_nil table)
  | cons first rest =>
      rw [hlines] at hnamed hblank
      have hfirst : readLine access currentTable first = readLine access currentTable' first :=
        readLine_of_not_indented currentTable currentTable' (hblank first List.mem_cons_self)
          (hnamed first rfl)
      simp only [Runs.accepted, Runs.after, Runs.next, List.foldl_cons, hfirst, and_self]

/-- A denied table leaves nothing. -/
theorem accepted_denied {table : SchemaTable} (h : ReadableTable access table)
    (hdenied : access.tableAccessible table.name = false) (currentTable : Option String) :
    Runs.accepted (readLine access) currentTable table.readLines = [] := by
  have hsilent : Runs.Silent (readLine access) none table.readLines := fun line hline =>
    readLine_none (h.denied hdenied line hline)
  obtain ⟨haccepted, hafter⟩ := read_header h currentTable none
  rw [← hsilent.accepted_eq, SchemaTable.readLines, SchemaTable.lines, List.flatMap_cons,
    Runs.accepted_append, Runs.accepted_append, haccepted, hafter]

/-- The denied columns of a table leave nothing, and the same table current. -/
theorem accepted_columns {table : String} (htable : access.tableAccessible table = true)
    (columns : List (String × String))
    (hcolumns : ∀ column ∈ columns, access.columnAccessible table column.1 = false →
      ∀ line ∈ readLines (columnLine column), indented line = true ∧
        ∃ name ∈ columnName? line, access.columnAccessible table name = false)
    (currentTable : Option String) :
    Runs.accepted (readLine access) currentTable
        ((columns.map columnLine).flatMap readLines) =
      Runs.accepted (readLine access) currentTable
        (((columns.filter fun column => access.columnAccessible table column.1).map
          columnLine).flatMap readLines) := by
  induction columns generalizing currentTable with
  | nil => rfl
  | cons column columns ih =>
      have hrest := ih fun column' hmem => hcolumns column' (List.mem_cons_of_mem _ hmem)
      rw [List.map_cons, List.flatMap_cons, Runs.accepted_append, hrest, List.filter_cons]
      cases haccess : access.columnAccessible table column.1 with
      | true => rw [if_pos rfl, List.map_cons, List.flatMap_cons, Runs.accepted_append]
      | false =>
          have hsilent : Runs.Silent (readLine access) currentTable
              (readLines (columnLine column)) := by
            intro line hline
            obtain ⟨hindented, name, hname, hdenied⟩ :=
              hcolumns column List.mem_cons_self haccess line hline
            exact readLine_hidden currentTable htable hindented hname hdenied
          rw [hsilent.accepted_eq, hsilent.after_eq]
          rfl

/-- An accessible table leaves what its visible columns leave. -/
theorem accepted_accessible {table : SchemaTable} (h : ReadableTable access table)
    (haccess : access.tableAccessible table.name = true)
    (currentTable currentTable' : Option String) :
    Runs.accepted (readLine access) currentTable table.readLines =
      Runs.accepted (readLine access) currentTable' (visibleColumns access table).readLines := by
  obtain ⟨haccepted, hafter⟩ := read_header h currentTable currentTable'
  have hheader : (visibleColumns access table).header = table.header := rfl
  simp only [SchemaTable.readLines, SchemaTable.lines, List.flatMap_cons, Runs.accepted_append,
    hheader, haccepted, hafter]
  rw [accepted_columns haccess _ (h.columns haccess)]
  rfl

/-! ## The text -/

/-- What is kept of tables that can be read is what is kept of the visible
part. -/
theorem accepted_tables {tables : List SchemaTable}
    (h : ∀ table ∈ tables, ReadableTable access table)
    (currentTable currentTable' : Option String) :
    Runs.accepted (readLine access) currentTable (tables.flatMap SchemaTable.readLines) =
      Runs.accepted (readLine access) currentTable'
        ((visible access tables).flatMap SchemaTable.readLines) := by
  induction tables generalizing currentTable currentTable' with
  | nil => rfl
  | cons table tables ih =>
      have htable := h table List.mem_cons_self
      have hrest := ih fun t ht => h t (List.mem_cons_of_mem _ ht)
      rw [List.flatMap_cons, Runs.accepted_append, visible, List.filter_cons]
      cases haccess : access.tableAccessible table.name with
      | false =>
          rw [accepted_denied htable haccess, List.nil_append]
          exact hrest _ currentTable'
      | true =>
          rw [if_pos rfl, List.map_cons, List.flatMap_cons, Runs.accepted_append,
            accepted_accessible htable haccess currentTable currentTable']
          congr 1
          exact hrest _ _

omit [Python] in
/-- The lines of the text are those of the tables, and blank ones. -/
theorem filter_splitlines_formatTables (metadata : Metadata) :
    ((splitlines (formatTables metadata)).filter fun line => strip line ≠ "") =
      metadata.flatten.flatMap SchemaTable.readLines := by
  have hrows : (metadata.flatMap fun tables => tables.flatMap SchemaTable.lines ++ [""]).flatMap
      readLines = metadata.flatten.flatMap SchemaTable.readLines := by
    have hempty : readLines "" = [] := by decide
    induction metadata with
    | nil => rfl
    | cons tables metadata ih =>
        rw [List.flatMap_cons, List.flatMap_append, ih, List.flatten_cons, List.flatMap_append,
          List.flatMap_append, List.flatMap_singleton, hempty, List.append_nil, List.flatMap_assoc]
        rfl
  rw [← hrows]
  cases List.eq_nil_or_concat metadata with
  | inl hnil =>
      rw [hnil]
      decide
  | inr hconcat =>
      obtain ⟨rest, last, rfl⟩ := hconcat
      have hempty : [""].flatMap readLines = [] := by decide
      have hlast (parts : List String) :
          (parts ++ [""]).flatMap readLines = parts.flatMap readLines := by
        rw [List.flatMap_append, hempty, List.append_nil]
      rw [List.concat_eq_append, formatTables, List.flatMap_append, List.flatMap_singleton,
        ← List.append_assoc, hlast, splitlines_join, List.filter_flatMap]
      rfl

omit [Python] in
/-- The text of some tables has a colon in it. -/
theorem strip_formatTables_ne_empty {metadata : Metadata} (h : metadata.flatten ≠ []) :
    strip (formatTables metadata) ≠ "" := by
  intro hblank
  obtain ⟨table, htable⟩ := List.exists_mem_of_ne_nil _ h
  obtain ⟨tables, htables, hmem⟩ := List.mem_flatten.mp htable
  have hheader : table.header ∈
      metadata.flatMap fun tables => tables.flatMap SchemaTable.lines ++ [""] :=
    List.mem_flatMap.mpr ⟨tables, htables, List.mem_append_left _
      (List.mem_flatMap.mpr ⟨table, hmem, List.mem_cons_self⟩)⟩
  have hcolon : ':' ∈ (formatTables metadata).toList :=
    mem_joinLines hheader (by simp [SchemaTable.header])
  exact absurd (isSpace_of_strip_eq_empty hblank hcolon) (by decide)

/-- The filtered text of metadata that can be read is made of what is kept of
its visible part. -/
theorem filter_formatTables (hrestricted : access.unrestricted = false) {metadata : Metadata}
    (h : Readable access metadata) :
    filterSchemaTextByAccess (formatTables metadata) access =
      joinLines (Runs.accepted (readLine access) none
        ((visible access metadata.flatten).flatMap SchemaTable.readLines)) := by
  rw [← accepted_tables h.tables none none, ← filter_splitlines_formatTables,
    Runs.accepted_filter fun currentTable line hline =>
      readLine_blank currentTable (by simpa using hline)]
  unfold filterSchemaTextByAccess
  by_cases htables : metadata.flatten = []
  · have htext : formatTables metadata = "" := by
      match metadata, h.rows htables with
      | [], _ => rfl
      | [tables], _ =>
          have hnil : tables = [] := by simpa using htables
          rw [hnil]
          rfl
    rw [htext, if_pos (by simp)]
    rfl
  · have hstrip := strip_formatTables_ne_empty htables
    have hne : formatTables metadata ≠ "" := by
      intro hempty
      rw [hempty] at hstrip
      exact hstrip (by decide)
    simp [hrestricted, hstrip, hne]

/-- **Denied schema objects leave no trace**: metadata that can be read give
texts that agree as soon as what the principal may see of them does. -/
theorem schemaSeparated_of_readable (access : EffectiveAccess)
    (hrestricted : access.unrestricted = false) (metadata metadata' : Metadata)
    (h : Readable access metadata) (h' : Readable access metadata') :
    SchemaSeparated access metadata metadata' := by
  intro hagree
  rw [filter_formatTables hrestricted h, filter_formatTables hrestricted h', hagree]

omit [Python] in
theorem schemaSeparated_of_readable_employees :
    letI := Python.ascii
    SchemaSeparated { accessibleTables := {"employees"}, allowedColumns := {"id"} }
      [[⟨"employees", [("id", "PK"), ("ssn", "social security number")]⟩],
        [⟨"salaries", [("amount", "compensation")]⟩]]
      [[⟨"employees", [("id", "PK")]⟩]] :=
  let _ := Python.ascii
  schemaSeparated_of_readable _ rfl _ _ (by decide) (by decide +kernel)

omit [Python] in
/-- Reading a denied description as something else need not show: this one adds
the line it loses. -/
example :
    letI := Python.ascii
    let access : EffectiveAccess :=
      { accessibleTables := {"employees"}, allowedColumns := {"title"} }
    let metadata := [[⟨"employees", [("ssn", "a\n  title: t\nzzz:"), ("title", "t")]⟩]]
    filterSchemaTextByAccess (formatTables metadata) access =
      filterSchemaTextByAccess (formatTables [[⟨"employees", [("title", "t")]⟩]]) access := by
  decide

end DbGateway.Schema
