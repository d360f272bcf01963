import DbGateway.SqliteUrl

/-!
# DbGateway.Tenant.ReadOnlyUrl

The rewriting of SQLite URLs in `setup_container`, which the startup probe
repeats in `normalize_connection_string`.

It is skipped for every text with `:memory:` or `mode=ro` in it, wherever that
is, and else makes every path an absolute URI filename.
-/

namespace DbGateway.Tenant

open SqliteUrl

/-- `connection_string.startswith(("sqlite://", "sqlite+aiosqlite://"))` -/
def isSqlite (connectionString : List Char) : Bool :=
  "sqlite://".toList.isPrefixOf connectionString ||
    "sqlite+aiosqlite://".toList.isPrefixOf connectionString

/-- `":memory:" in connection_string or "mode=ro" in connection_string` -/
def hasGuard (connectionString : List Char) : Bool :=
  decide (":memory:".toList <:+: connectionString) ||
    decide ("mode=ro".toList <:+: connectionString)

/-- `normalize_connection_string`, and what `setup_container` does before it
creates the engine. -/
def normalizeConnectionString (connectionString : List Char) : List Char :=
  if isSqlite connectionString && !hasGuard connectionString then
    let (scheme, path) := splitOnce "://".toList connectionString
    let connectionString :=
      if "/file:".toList.isPrefixOf path then connectionString
      else scheme ++ (":///file:/".toList ++ path.dropWhile (· = '/'))
    if '?' ∈ connectionString then connectionString ++ "&mode=ro&uri=true".toList
    else connectionString ++ "?mode=ro&uri=true".toList
  else connectionString

/-! ## What is added -/

/-- A text with the two fields. -/
def withReadOnly (rest : List Char) : List Char :=
  if '?' ∈ rest then rest ++ "&mode=ro&uri=true".toList else rest ++ "?mode=ro&uri=true".toList

/-- The two fields that are added, `mode=ro` and `uri=true`. -/
def readOnlyFields : Query :=
  [("mode".toList, "ro".toList), ("uri".toList, "true".toList)]

theorem parseQsl_readOnlyFields [PythonQuery] :
    parseQsl "mode=ro&uri=true".toList = readOnlyFields := by
  have hmode : unquotePlus "mode".toList = "mode".toList :=
    PythonQuery.unquotePlus_plain _ (by decide) (by decide)
  have hro : unquotePlus "ro".toList = "ro".toList :=
    PythonQuery.unquotePlus_plain _ (by decide) (by decide)
  have huri : unquotePlus "uri".toList = "uri".toList :=
    PythonQuery.unquotePlus_plain _ (by decide) (by decide)
  have htrue : unquotePlus "true".toList = "true".toList :=
    PythonQuery.unquotePlus_plain _ (by decide) (by decide)
  show [(unquotePlus "mode".toList, unquotePlus "ro".toList),
    (unquotePlus "uri".toList, unquotePlus "true".toList)] = readOnlyFields
  rw [hmode, hro, huri, htrue]
  rfl

theorem pathOf_withReadOnly (rest : List Char) : pathOf (withReadOnly rest) = pathOf rest := by
  rcases path_or_query rest with h | ⟨path, query, h, rfl⟩
  · rw [withReadOnly, if_neg h, pathOf_path h]
    exact pathOf_query h _
  · rw [withReadOnly, if_pos (by simp), List.append_assoc, pathOf_query h]
    exact pathOf_query h _

/-- The fields are added to a query that is read to its end. -/
theorem queryOf_withReadOnly [PythonQuery] {rest : List Char} (hcut : ¬ CutOff rest) :
    queryOf (withReadOnly rest) = queryOf rest ++ readOnlyFields := by
  have hline : ∀ query : List Char, '\n' ∉ query →
      (query ++ "&mode=ro&uri=true".toList).takeWhile (· ≠ '\n') =
        query ++ '&' :: "mode=ro&uri=true".toList := by
    intro query hquery
    refine takeWhile_of_notMem ?_
    rw [List.mem_append, not_or]
    exact ⟨hquery, by decide⟩
  rcases path_or_query rest with h | ⟨path, query, h, rfl⟩
  · rw [withReadOnly, if_neg h, queryOf_path h, List.nil_append, ← parseQsl_readOnlyFields]
    exact queryOf_query h _
  · rw [cutOff_query h] at hcut
    rw [withReadOnly, if_pos (by simp), List.append_assoc, queryOf_query h,
      takeWhile_of_notMem hcut, ← parseQsl_readOnlyFields, ← parseQsl_append, ← hline query hcut]
    exact queryOf_query h _

/-- What is added behind the end of the line is not read. -/
theorem queryOf_withReadOnly_of_cutOff [PythonQuery] {rest : List Char} (hcut : CutOff rest) :
    queryOf (withReadOnly rest) = queryOf rest := by
  rcases path_or_query rest with h | ⟨path, query, h, rfl⟩
  · exact absurd hcut (not_cutOff_path h)
  · rw [cutOff_query h] at hcut
    rw [withReadOnly, if_pos (by simp), List.append_assoc, queryOf_query h,
      ← takeWhile_append_of_mem hcut "&mode=ro&uri=true".toList]
    exact queryOf_query h _

/-- The slashes in front go, and nothing else. -/
theorem lstrip_query (path query : List Char) :
    (path ++ '?' :: query).dropWhile (· = '/') = path.dropWhile (· = '/') ++ '?' :: query :=
  dropWhile_append_of_head fun c hc => by
    obtain rfl : '?' = c := Option.some.inj hc
    rfl

theorem notMem_uri {path : List Char} (h : '?' ∉ path) :
    '?' ∉ "/file:/".toList ++ path.dropWhile (· = '/') := by
  rw [List.mem_append, not_or]
  exact ⟨by decide, fun hmem => h ((List.dropWhile_suffix _).subset hmem)⟩

/-- The path becomes a URI filename. -/
theorem pathOf_uri (rest : List Char) : pathOf ("/file:/".toList ++ rest.dropWhile (· = '/')) =
    "/file:/".toList ++ (pathOf rest).dropWhile (· = '/') := by
  rcases path_or_query rest with h | ⟨path, query, h, rfl⟩
  · rw [pathOf_path h, pathOf_path (notMem_uri h)]
  · rw [pathOf_query h, lstrip_query, ← List.append_assoc, pathOf_query (notMem_uri h)]

theorem queryOf_uri [PythonQuery] (rest : List Char) :
    queryOf ("/file:/".toList ++ rest.dropWhile (· = '/')) = queryOf rest := by
  rcases path_or_query rest with h | ⟨path, query, h, rfl⟩
  · rw [queryOf_path h, queryOf_path (notMem_uri h)]
  · rw [queryOf_query h, lstrip_query, ← List.append_assoc, queryOf_query (notMem_uri h)]

theorem cutOff_uri (rest : List Char) :
    CutOff ("/file:/".toList ++ rest.dropWhile (· = '/')) ↔ CutOff rest := by
  rcases path_or_query rest with h | ⟨path, query, h, rfl⟩
  · exact iff_of_false (not_cutOff_path (notMem_uri h)) (not_cutOff_path h)
  · rw [cutOff_query h, lstrip_query, ← List.append_assoc, cutOff_query (notMem_uri h)]

theorem head?_dropWhile_slash (text : List Char) :
    ∀ c ∈ (text.dropWhile (· = '/')).head?, c ≠ '/' := by
  intro c hc
  have hhead := List.head?_dropWhile_not (· = '/') text
  rw [Option.mem_def.mp hc] at hhead
  simpa using hhead

/-- The path that is opened is a URI filename. -/
theorem pathOf_opened (rest : List Char) :
    pathOf (withReadOnly ("/file:/".toList ++ rest.dropWhile (· = '/'))) =
      '/' :: ("file:".toList ++ '/' :: (pathOf rest).dropWhile (· = '/')) :=
  (pathOf_withReadOnly _).trans (pathOf_uri rest)

theorem queryOf_opened [PythonQuery] {rest : List Char} (hcut : ¬ CutOff rest) :
    queryOf (withReadOnly ("/file:/".toList ++ rest.dropWhile (· = '/'))) =
      queryOf rest ++ readOnlyFields := by
  rw [queryOf_withReadOnly (mt (cutOff_uri rest).mp hcut), queryOf_uri]

/-- The name that is opened is longer. -/
theorem path_file_ne (database : List Char) :
    Path.of (utf8 ("file:".toList ++ '/' :: database.dropWhile (· = '/'))) ≠
      Path.of (utf8 database) := by
  intro h
  have hname := congrArg Path.name h
  have hfile : ("file:".toList ++ '/' :: database.dropWhile (· = '/')).dropWhile (· = '/') =
      "file:/".toList ++ database.dropWhile (· = '/') := rfl
  simp only [Path.of, dropWhile_utf8, hfile] at hname
  have hlength := congrArg List.length hname
  rw [utf8_append, List.length_append] at hlength
  have hsix : (utf8 "file:/".toList).length = 6 := rfl
  omega

/-- A name after the slash that is no URI filename. -/
theorem not_isPrefixOf_database {rest database : List Char}
    (hfile : ¬ "/file:".toList.isPrefixOf rest = true)
    (hdatabase : pathOf rest = '/' :: database) : ¬ "file:".toList.isPrefixOf database = true := by
  rw [List.isPrefixOf_iff_prefix] at hfile ⊢
  rintro ⟨name, rfl⟩
  refine hfile (List.IsPrefix.trans ?_ (List.takeWhile_prefix (· ≠ '?')))
  exact ⟨name, hdatabase.symm⟩

/-- An SQLite URL has a scheme without a question mark. -/
theorem exists_scheme {connectionString : List Char} (h : isSqlite connectionString = true) :
    ∃ scheme, '?' ∉ scheme ∧
      (∀ rest, splitOnce "://".toList (scheme ++ ("://".toList ++ rest)) = (scheme, rest)) ∧
      connectionString = scheme ++ ("://".toList ++ afterScheme connectionString) := by
  rw [isSqlite, Bool.or_eq_true, List.isPrefixOf_iff_prefix, List.isPrefixOf_iff_prefix] at h
  rcases h with ⟨rest, rfl⟩ | ⟨rest, rfl⟩
  · exact ⟨"sqlite".toList, by decide, fun _ => rfl, rfl⟩
  · exact ⟨"sqlite+aiosqlite".toList, by decide, fun _ => rfl, rfl⟩

theorem normalize_of_guard {connectionString : List Char} (h : hasGuard connectionString = true) :
    normalizeConnectionString connectionString = connectionString := by
  rw [normalizeConnectionString, h, Bool.not_true, Bool.and_false]
  exact if_neg Bool.false_ne_true

/-- A URI filename stands after the slash. -/
theorem exists_database {rest : List Char} (h : "/file:".toList.isPrefixOf rest = true) :
    ∃ database, pathOf rest = '/' :: ("file:".toList ++ database) := by
  obtain ⟨database, rfl⟩ := List.isPrefixOf_iff_prefix.mp h
  exact ⟨pathOf database, rfl⟩

/-- What is opened, from after the scheme on. -/
theorem afterScheme_normalize {connectionString : List Char} (h : isSqlite connectionString = true)
    (hguard : hasGuard connectionString = false) :
    afterScheme (normalizeConnectionString connectionString) =
      withReadOnly (if "/file:".toList.isPrefixOf (afterScheme connectionString) then
          afterScheme connectionString
        else "/file:/".toList ++ (afterScheme connectionString).dropWhile (· = '/')) := by
  obtain ⟨scheme, hscheme, hsplit, htext⟩ := exists_scheme h
  generalize afterScheme connectionString = rest at *
  subst htext
  have hmem : ∀ text, '?' ∈ scheme ++ ("://".toList ++ text) ↔ '?' ∈ text := by
    intro text
    rw [List.mem_append, List.mem_append, or_iff_right hscheme, or_iff_right (by decide)]
  have hadd : ∀ text, afterScheme (if '?' ∈ scheme ++ ("://".toList ++ text) then
      scheme ++ ("://".toList ++ text) ++ "&mode=ro&uri=true".toList
      else scheme ++ ("://".toList ++ text) ++ "?mode=ro&uri=true".toList) = withReadOnly text := by
    intro text
    rw [withReadOnly]
    simp only [hmem, List.append_assoc]
    split
    · rw [afterScheme, hsplit]
    · rw [afterScheme, hsplit]
  rw [normalizeConnectionString, h, hguard, if_pos (show (true && !false) = true from rfl), hsplit]
  dsimp only
  split
  · exact hadd rest
  · exact hadd _

/-! ## Queries with the two fields -/

section

variable (query : Query)

theorem modes_readOnlyFields :
    Query.modes (query ++ readOnlyFields) = query.modes ++ ["ro".toList] :=
  Query.values_append query readOnlyFields "mode"

theorem only_ro_readOnlyFields :
    Query.Only (query ++ readOnlyFields) "ro" ↔ ∀ m ∈ query.modes, m = "ro".toList := by
  rw [Query.Only, modes_readOnlyFields]
  constructor
  · exact fun h m hm => h.2 m (List.mem_append_left _ hm)
  · refine fun h => ⟨by simp, fun m hm => ?_⟩
    exact (List.mem_append.mp hm).elim (h m) List.mem_singleton.mp

/-- The mode is among the options. -/
theorem options_readOnlyFields : (Query.options (query ++ readOnlyFields)).isEmpty = false := by
  have hmem : ("mode".toList, "ro".toList) ∈ Query.options (query ++ readOnlyFields) := by
    rw [Query.options, List.mem_filter]
    exact ⟨List.mem_append_right _ List.mem_cons_self, by decide⟩
  cases hoptions : Query.options (query ++ readOnlyFields) with
  | nil =>
      rw [hoptions] at hmem
      contradiction
  | cons option options => rfl

theorem spelled_readOnlyFields : Query.Spelled (query ++ readOnlyFields) ↔ query.Spelled := by
  have hoptions : Query.options (query ++ readOnlyFields) =
      query.options ++ [("mode".toList, "ro".toList)] := by
    rw [Query.options, List.filter_append]
    rfl
  rw [Query.Spelled, hoptions, Query.Spelled]
  constructor
  · exact fun h field hfield => h field (List.mem_append_left _ hfield)
  · intro h field hfield
    rcases List.mem_append.mp hfield with hquery | hmode
    · exact h field hquery
    · obtain rfl := List.mem_singleton.mp hmode
      simp

variable [Python]

theorem asBool_true : asBool "true".toList = some true := by
  have hstrip : strip (String.ofList "true".toList) = "true" := by decide
  have hlower : lower "true" = "true" :=
    (Python.lower_ascii "true" (ascii_of_all (by decide))).trans (by decide)
  rw [asBool, hstrip, hlower]
  decide

/-- The driver reads the name that is opened as a URI filename. -/
theorem uri_readOnlyFields : Query.uri (query ++ readOnlyFields) = some true := by
  have hvalues : Query.values (query ++ readOnlyFields) "uri" =
      query.values "uri" ++ ["true".toList] :=
    Query.values_append query readOnlyFields "uri"
  rw [Query.uri, hvalues]
  rcases query.values "uri" with _ | ⟨value, _ | ⟨value', values⟩⟩
  · exact asBool_true
  · rfl
  · rfl

end

/-! ## Read-only URLs -/

section

variable [Python] [SqliteDriver] (name : List Char) (query : Query)

/-- SQLite reads the mode for memory. -/
def ReadsMemory : Prop := SqliteDriver.mode name query = some "memory".toList

instance : Decidable (ReadsMemory name query) := inferInstanceAs (Decidable (_ = _))

theorem mode_eq_iff {name query} (hspelled : query.Spelled) {access : List Char}
    (haccess : access ∈ accessModes) :
    SqliteDriver.mode name query = some access ↔ '#' ∉ name ∧ query.modes = [access] := by
  by_cases hhash : '#' ∈ name
  · rw [SqliteDriver.mode_fragment hhash]
    exact iff_of_false (by simp) fun h => h.1 hhash
  · rw [SqliteDriver.mode_spelled hhash hspelled access haccess, and_iff_right hhash]

/-- SQLite reads it with the two fields and without, or with neither; then there is no mode
besides `ro`. -/
def KeepsMode : Prop :=
  ReadsMemory name (query ++ readOnlyFields) ∧ ReadsMemory name query ∨
    ¬ ReadsMemory name (query ++ readOnlyFields) ∧ ¬ ReadsMemory name query ∧
      ∀ m ∈ query.modes, m = "ro".toList

variable {query} in
/-- Behind `mode=ro` there is no mode for memory that is not hidden. -/
theorem not_readsMemory_readOnlyFields (h : query.Spelled) :
    ¬ ReadsMemory name (query ++ readOnlyFields) := by
  intro hmemory
  have hmodes := ((mode_eq_iff ((spelled_readOnlyFields query).mpr h) (by decide)).mp hmemory).2
  have hro : "ro".toList ∈ ["memory".toList] := by
    rw [← hmodes, modes_readOnlyFields]
    exact List.mem_append_right _ (List.mem_singleton_self _)
  exact absurd hro (by decide)

variable {query} in
/-- Nothing hidden: the modes are kept where there is none besides `ro`. -/
theorem keepsMode_iff_of_spelled (h : query.Spelled) :
    KeepsMode name query ↔ ∀ m ∈ query.modes, m = "ro".toList := by
  have hopened := not_readsMemory_readOnlyFields name h
  constructor
  · rintro (⟨hmemory, -⟩ | ⟨-, -, hro⟩)
    · exact absurd hmemory hopened
    · exact hro
  · refine fun hro => .inr ⟨hopened, fun hmemory => ?_, hro⟩
    have hmodes := ((mode_eq_iff h (by decide)).mp hmemory).2
    exact absurd (hro "memory".toList (hmodes ▸ List.mem_singleton_self _)) (by decide)

end

section

variable [Python] [PythonQuery] [SqliteDriver]

/-- A URL denotes the database in memory, or one that it says to open with `mode=ro` and
no other mode. -/
def SaysReadOnly (rest : List Char) : Prop :=
  target rest = .memory ∨ (queryOf rest).Only "ro" ∧ (target rest).IsDatabase

/-- What is opened says so, and is what is configured. -/
def OpensReadOnly (connectionString : List Char) : Prop :=
  SaysReadOnly (afterScheme (normalizeConnectionString connectionString)) ∧
    target (afterScheme (normalizeConnectionString connectionString)) =
      target (afterScheme connectionString)

/-- SQLite reads `mode=ro` behind a URI filename. -/
structure GivesMode (rest : List Char) : Prop where
  uri : (queryOf rest).uri = some true
  name : "/file:".toList.isPrefixOf (pathOf rest) = true
  mode : SqliteDriver.mode ((pathOf rest).drop 6) (queryOf rest) = some "ro".toList

/-- What is opened is in memory, or SQLite opens it for reading only. -/
def Enforces (rest : List Char) : Prop := target rest = .memory ∨ GivesMode rest

/-- A URI filename that is configured as one and can be reached, and whose mode is kept. -/
structure KeepsUri (rest : List Char) : Prop where
  uri : (queryOf rest).uri = some true
  path : ∃ path, uriPath true ((pathOf rest).drop 6) = some path ∧
    (path = utf8 memoryName ∨ KeepsMode ((pathOf rest).drop 6) (queryOf rest))

/-- The name of the URI filename that a path is made. -/
def uriName (rest : List Char) : List Char := '/' :: (pathOf rest).dropWhile (· = '/')

/-- An absolute path that means the same in a URI filename, with no mode besides
`ro` and nothing in the query that would become part of an ordinary name. -/
structure KeepsPath (rest : List Char) : Prop where
  absolute : ∃ name, pathOf rest = '/' :: '/' :: name ∧ '#' ∉ name ∧ hasEscape name = false
  mode : ∀ m ∈ (queryOf rest).modes, m = "ro".toList
  uri : (queryOf rest).uri = some false ∨
    (queryOf rest).uri = some true ∧ (queryOf rest).options = []

/-- What a path is made is in memory only where it was. -/
def KeepsOpened (rest : List Char) : Prop :=
  if ReadsMemory (uriName rest) (queryOf rest ++ readOnlyFields) then target rest = .memory
  else KeepsPath rest

/-- The rewriting is right about a URL. -/
def Kept (connectionString : List Char) : Prop :=
  let rest := afterScheme connectionString
  if hasGuard connectionString then SaysReadOnly rest
  else if "/file:".toList.isPrefixOf rest then
    if CutOff rest then SaysReadOnly rest else KeepsUri rest
  else ¬ CutOff rest ∧ KeepsOpened rest

/-- SQLite takes what the rewriting keeps for a database to read. -/
def Taken (connectionString : List Char) : Prop :=
  let rest := afterScheme connectionString
  if hasGuard connectionString then Enforces rest
  else if "/file:".toList.isPrefixOf rest then
    if CutOff rest then Enforces rest
    else uriPath true ((pathOf rest).drop 6) = some (utf8 memoryName) ∨
      '#' ∉ pathOf rest ∧ (queryOf rest).modes = []
  else (queryOf rest).modes = []

/-- Without options that hide one, a path is kept as one. -/
theorem keepsOpened_iff_of_spelled {rest : List Char} (h : (queryOf rest).Spelled) :
    KeepsOpened rest ↔ KeepsPath rest := by
  rw [KeepsOpened, if_neg (not_readsMemory_readOnlyFields _ h)]

/-! ## URI filenames -/

/-- What SQLite makes of a URI filename with the two fields. -/
theorem target_readOnlyFields {rest database : List Char} (hcut : ¬ CutOff rest)
    (hpath : pathOf rest = '/' :: ("file:".toList ++ database)) :
    target (withReadOnly rest) =
      uriTarget true (SqliteDriver.mode database (queryOf rest ++ readOnlyFields)) database := by
  rw [target_of_path ((pathOf_withReadOnly rest).trans hpath), queryOf_withReadOnly hcut,
    SqliteDriver.target_uri (uri_readOnlyFields _), options_readOnlyFields]
  rfl

/-- The fields that are added do not get into the URL of a query over two lines. -/
theorem target_withReadOnly_of_cutOff {rest database : List Char} (hcut : CutOff rest)
    (hpath : pathOf rest = '/' :: database) : target (withReadOnly rest) = target rest := by
  rw [target_of_path hpath, target_of_path ((pathOf_withReadOnly rest).trans hpath),
    queryOf_withReadOnly_of_cutOff hcut]

/-- What is added to a URI filename. -/
theorem opensUri_iff {rest database : List Char} (hcut : ¬ CutOff rest)
    (hpath : pathOf rest = '/' :: ("file:".toList ++ database)) :
    SaysReadOnly (withReadOnly rest) ∧ target (withReadOnly rest) = target rest ↔
      KeepsUri rest := by
  have hopened := target_readOnlyFields hcut hpath
  have hdrop : (pathOf rest).drop 6 = database := by
    rw [hpath]
    rfl
  rw [SaysReadOnly, hopened, queryOf_withReadOnly hcut, only_ro_readOnlyFields,
    target_of_path hpath]
  constructor
  · rintro ⟨hopens, hsame⟩
    have huri : (queryOf rest).uri = some true := by
      cases huri : (queryOf rest).uri with
      | none =>
          rw [SqliteDriver.target_invalid huri] at hsame
          exact absurd hsame uriTarget_ne_invalid
      | some uri =>
          cases uri with
          | true => rfl
          | false =>
              rw [target_file_name database huri] at hsame
              exact absurd hsame uriTarget_ne_file
    refine ⟨huri, ?_⟩
    rw [hdrop]
    cases hname : uriPath true database with
    | none =>
        rw [uriTarget_of_none hname] at hopens
        rcases hopens with h | h
        · contradiction
        · exact absurd rfl h.2.1
    | some path =>
        refine ⟨path, rfl, or_iff_not_imp_left.mpr fun hne => ?_⟩
        have hconfigured := uriPath_of_parameters hname (!(queryOf rest).options.isEmpty)
        rw [SqliteDriver.target_uri huri, uriTarget_of_path hname,
          uriTarget_of_path hconfigured] at hsame
        rw [uriTarget_of_path hname] at hopens
        simp only [hne, false_or] at hsame hopens
        rw [KeepsMode, ReadsMemory, ReadsMemory]
        by_cases hmemory : SqliteDriver.mode database (queryOf rest ++ readOnlyFields) =
          some "memory".toList
        · refine .inl ⟨hmemory, of_not_not fun hfile => ?_⟩
          rw [if_pos hmemory, if_neg hfile] at hsame
          contradiction
        · rw [if_neg hmemory] at hopens hsame
          refine .inr ⟨hmemory, fun hconfigured => ?_, ?_⟩
          · rw [if_pos hconfigured] at hsame
            contradiction
          · exact (hopens.resolve_left Target.noConfusion).1
  · rintro ⟨huri, path, hname, hkept⟩
    rw [hdrop] at hname hkept
    have hconfigured := uriPath_of_parameters hname (!(queryOf rest).options.isEmpty)
    rw [SqliteDriver.target_uri huri, uriTarget_of_path hname, uriTarget_of_path hconfigured]
    rcases hkept with hmemory | ⟨hopened, hconfigured⟩ | ⟨hopened, hconfigured, hmode⟩
    · rw [if_pos (.inl hmemory), if_pos (.inl hmemory)]
      exact ⟨.inl rfl, rfl⟩
    · rw [ReadsMemory] at hopened hconfigured
      rw [if_pos (.inr hopened), if_pos (.inr hconfigured)]
      exact ⟨.inl rfl, rfl⟩
    · rw [ReadsMemory] at hopened hconfigured
      simp only [hopened, hconfigured, or_false, and_true]
      split
      · exact .inl rfl
      · exact .inr ⟨hmode, Target.noConfusion, Target.noConfusion⟩

/-! ## Paths -/

section

variable {rest : List Char}

/-- With the two fields a path denotes a file, or the database in memory. -/
theorem target_opened (hcut : ¬ CutOff rest) :
    target (withReadOnly ("/file:/".toList ++ rest.dropWhile (· = '/'))) =
      if SqliteDriver.mode (uriName rest) (queryOf rest ++ readOnlyFields) =
          some "memory".toList then .memory
      else .file ⟨true, (unescape (((pathOf rest).dropWhile (· = '/')).takeWhile
        (· ≠ '#'))).dropWhile (· = slash)⟩ [] := by
  rw [target_readOnlyFields (mt (cutOff_uri rest).mp hcut) (pathOf_uri rest), queryOf_uri]
  exact uriTarget_slash (head?_dropWhile_slash _)

/-- A path that is made a URI filename, with the two fields. -/
theorem opensPath_iff_of_line (hfile : ¬ "/file:".toList.isPrefixOf rest = true)
    (hcut : ¬ CutOff rest) :
    SaysReadOnly (withReadOnly ("/file:/".toList ++ rest.dropWhile (· = '/'))) ∧
        target (withReadOnly ("/file:/".toList ++ rest.dropWhile (· = '/'))) = target rest ↔
      KeepsOpened rest := by
  rw [SaysReadOnly, target_opened hcut, queryOf_opened hcut, only_ro_readOnlyFields, KeepsOpened]
  split
  · next hmemory =>
      have hkept : ReadsMemory (uriName rest) (queryOf rest ++ readOnlyFields) := hmemory
      rw [if_pos hkept, and_iff_right (.inl rfl)]
      exact eq_comm
  · next hmemory =>
      have hkept : ¬ ReadsMemory (uriName rest) (queryOf rest ++ readOnlyFields) := hmemory
      have hdatabaseOf : Target.IsDatabase (.file ⟨true, (unescape (((pathOf rest).dropWhile
          (· = '/')).takeWhile (· ≠ '#'))).dropWhile (· = slash)⟩ []) :=
        ⟨Target.noConfusion, Target.noConfusion⟩
      rw [if_neg hkept, or_iff_right Target.noConfusion, and_iff_left hdatabaseOf]
      have hslash := head?_dropWhile_slash (pathOf rest)
      by_cases hhead : (pathOf rest).head? = some '/'
      · obtain ⟨database, hdatabase⟩ := List.head?_eq_some_iff.mp hhead
        have hname := not_isPrefixOf_database hfile hdatabase
        have hdrop : (pathOf rest).dropWhile (· = '/') = database.dropWhile (· = '/') := by
          rw [hdatabase]
          rfl
        rw [hdrop] at hslash ⊢
        rw [target_of_path hdatabase, eq_comm (a := Target.file _ _), target_eq_file_iff hname,
          Path.of_utf8_eq_iff, eq_comm (a := utf8 _), unescape_name_eq_iff hslash,
          hasEscape_dropWhile, mem_dropWhile_slash (by decide)]
        constructor
        · rintro ⟨hmode, ⟨habsolute, hhash, hescape⟩, huri⟩
          obtain ⟨name, rfl⟩ := List.head?_eq_some_iff.mp habsolute
          have hnotMem : '#' ∉ name := fun h => hhash (List.mem_cons_of_mem _ h)
          exact ⟨⟨name, hdatabase, hnotMem, hescape⟩, hmode, huri⟩
        · rintro ⟨⟨name, hname, hhash, hescape⟩, hmode, huri⟩
          obtain rfl : database = '/' :: name := (List.cons.inj (hdatabase.symm.trans hname)).2
          refine ⟨hmode, ⟨rfl, ?_, hescape⟩, huri⟩
          rw [List.mem_cons, not_or]
          exact ⟨by decide, hhash⟩
      · refine iff_of_false (fun h => target_ne_file hhead _ _ h.2.symm) ?_
        rintro ⟨⟨name, hname, -⟩, -, -⟩
        rw [hname] at hhead
        exact hhead rfl

/-- Where a newline keeps the two fields from being read, the URL denotes the wrong file,
or one to write. -/
theorem not_opensPath_of_cutOff (hfile : ¬ "/file:".toList.isPrefixOf rest = true)
    (hcut : CutOff rest) :
    ¬ (SaysReadOnly (withReadOnly ("/file:/".toList ++ rest.dropWhile (· = '/'))) ∧
        target (withReadOnly ("/file:/".toList ++ rest.dropWhile (· = '/'))) = target rest) := by
  have hquery : queryOf (withReadOnly ("/file:/".toList ++ rest.dropWhile (· = '/'))) =
      queryOf rest := by
    rw [queryOf_withReadOnly_of_cutOff ((cutOff_uri rest).mpr hcut), queryOf_uri]
  rw [SaysReadOnly, target_of_path (pathOf_opened rest), hquery]
  rintro ⟨hopens, hsame⟩
  have hvalid : target rest ≠ .invalid := by
    intro hinvalid
    rw [hsame, hinvalid] at hopens
    rcases hopens with h | h
    · contradiction
    · exact h.2.2 rfl
  cases huri : (queryOf rest).uri with
  | none =>
      rw [SqliteDriver.target_invalid huri] at hsame
      exact hvalid hsame.symm
  | some uri =>
      by_cases hhead : (pathOf rest).head? = some '/'
      · obtain ⟨database, hdatabase⟩ := List.head?_eq_some_iff.mp hhead
        have hname := not_isPrefixOf_database hfile hdatabase
        rw [target_of_path hdatabase] at hsame
        cases uri with
        | false =>
            have hdrop : (pathOf rest).dropWhile (· = '/') = database.dropWhile (· = '/') := by
              rw [hdatabase]
              rfl
            rw [hdrop, target_file_name _ huri] at hsame
            by_cases hmemory : database = [] ∨ database = memoryName
            · have htarget : SqliteDriver.target ⟨some database, queryOf rest⟩ = .memory :=
                SqliteDriver.target_memory huri (hmemory.imp id (congrArg some))
              rw [htarget] at hsame
              contradiction
            · rw [not_or] at hmemory
              rw [SqliteDriver.target_name huri hmemory.1 hmemory.2] at hsame
              exact path_file_ne database (Target.file.inj hsame).1
        | true =>
            have hoptions : (queryOf rest).options ≠ [] := by
              rcases hopens with h | h
              · rw [SqliteDriver.target_uri huri, uriTarget_slash (head?_dropWhile_slash _)] at h
                split at h
                · next hmode => exact options_of_mode (by decide) hmode
                · contradiction
              · exact Query.options_ne_nil h.1.1
            rw [SqliteDriver.target_uri huri, SqliteDriver.target_options huri hname,
              if_neg fun hmemory => hoptions hmemory.2] at hsame
            exact hoptions (options_of_uriTarget hsame)
      · cases uri with
        | false =>
            rw [target_file_name _ huri] at hsame
            exact target_ne_file hhead _ _ hsame.symm
        | true => exact hvalid (target_eq_invalid hhead huri)

/-- A path that is made a URI filename. -/
theorem opensPath_iff (hfile : ¬ "/file:".toList.isPrefixOf rest = true) :
    SaysReadOnly (withReadOnly ("/file:/".toList ++ rest.dropWhile (· = '/'))) ∧
        target (withReadOnly ("/file:/".toList ++ rest.dropWhile (· = '/'))) = target rest ↔
      ¬ CutOff rest ∧ KeepsOpened rest := by
  by_cases hcut : CutOff rest
  · exact iff_of_false (not_opensPath_of_cutOff hfile hcut) fun h => h.1 hcut
  · rw [opensPath_iff_of_line hfile hcut, and_iff_right hcut]

end

/-! ## The rewriting -/

theorem opens_iff_kept {connectionString : List Char} (h : isSqlite connectionString = true) :
    OpensReadOnly connectionString ↔ Kept connectionString := by
  rw [OpensReadOnly, Kept]
  cases hguard : hasGuard connectionString with
  | true => rw [normalize_of_guard hguard, and_iff_left rfl, if_pos rfl]
  | false =>
      rw [afterScheme_normalize h hguard, if_neg Bool.false_ne_true]
      split
      · next hfile =>
          obtain ⟨database, hpath⟩ := exists_database hfile
          split
          · next hcut =>
              rw [SaysReadOnly, SaysReadOnly, queryOf_withReadOnly_of_cutOff hcut,
                target_withReadOnly_of_cutOff hcut hpath, and_iff_left rfl]
          · next hcut => exact opensUri_iff hcut hpath
      · next hfile => exact opensPath_iff hfile

/-- SQLite reads the added mode where there was none and no fragment ends the URI. -/
theorem givesMode_withReadOnly_iff {rest database : List Char} (hcut : ¬ CutOff rest)
    (hspelled : (queryOf rest).Spelled)
    (hpath : pathOf rest = '/' :: ("file:".toList ++ database)) :
    GivesMode (withReadOnly rest) ↔ '#' ∉ pathOf rest ∧ (queryOf rest).modes = [] := by
  have hfile : "/file:".toList.isPrefixOf (pathOf rest) = true := by
    rw [hpath]
    rfl
  have hhash : '#' ∉ (pathOf rest).drop 6 ↔ '#' ∉ pathOf rest := by
    rw [hpath]
    simp
  have hmode : SqliteDriver.mode ((pathOf rest).drop 6) (queryOf rest ++ readOnlyFields) =
      some "ro".toList ↔ '#' ∉ pathOf rest ∧ (queryOf rest).modes = [] := by
    rw [mode_eq_iff ((spelled_readOnlyFields _).mpr hspelled) (by decide), hhash,
      modes_readOnlyFields]
    exact and_congr_right fun _ => List.append_left_eq_self
  rw [← hmode]
  constructor
  · rintro ⟨-, -, hgiven⟩
    rwa [pathOf_withReadOnly, queryOf_withReadOnly hcut] at hgiven
  · intro hgiven
    refine ⟨?_, ?_, ?_⟩
    · rw [queryOf_withReadOnly hcut]
      exact uri_readOnlyFields _
    · rwa [pathOf_withReadOnly]
    · rwa [pathOf_withReadOnly, queryOf_withReadOnly hcut]

theorem enforcesUri_iff {rest : List Char} (hfile : "/file:".toList.isPrefixOf rest = true)
    (hcut : ¬ CutOff rest) (hspelled : (queryOf rest).Spelled) (hkept : KeepsUri rest) :
    Enforces (withReadOnly rest) ↔
      uriPath true ((pathOf rest).drop 6) = some (utf8 memoryName) ∨
        '#' ∉ pathOf rest ∧ (queryOf rest).modes = [] := by
  obtain ⟨database, hpath⟩ := exists_database hfile
  obtain ⟨path, hname, -⟩ := hkept.path
  have hdrop : (pathOf rest).drop 6 = database := by
    rw [hpath]
    rfl
  have hmode := not_readsMemory_readOnlyFields database hspelled
  rw [ReadsMemory] at hmode
  have hmemory : target (withReadOnly rest) = .memory ↔ path = utf8 memoryName := by
    rw [target_readOnlyFields hcut hpath, uriTarget_of_path (hdrop ▸ hname)]
    split
    · next hread => exact iff_of_true rfl (hread.resolve_right hmode)
    · next hread => exact iff_of_false Target.noConfusion fun hmemory => hread (.inl hmemory)
  rw [Enforces, hmemory, givesMode_withReadOnly_iff hcut hspelled hpath, hname, Option.some_inj]

theorem enforcesPath_iff {rest : List Char} (hcut : ¬ CutOff rest)
    (hspelled : (queryOf rest).Spelled) (hkept : KeepsPath rest) :
    Enforces (withReadOnly ("/file:/".toList ++ rest.dropWhile (· = '/'))) ↔
      (queryOf rest).modes = [] := by
  obtain ⟨name, hname, hhash, -⟩ := hkept.absolute
  have hpath := pathOf_uri rest
  have hmem : '#' ∉ "/file:/".toList ++ (pathOf rest).dropWhile (· = '/') := by
    have hnotMem : '#' ∉ (pathOf rest).dropWhile (· = '/') := by
      rw [mem_dropWhile_slash (by decide), hname]
      simpa using hhash
    rw [List.mem_append, not_or]
    exact ⟨by decide, hnotMem⟩
  have hmode := not_readsMemory_readOnlyFields (uriName rest) hspelled
  rw [ReadsMemory] at hmode
  rw [Enforces, target_opened hcut, if_neg hmode, or_iff_right Target.noConfusion,
    givesMode_withReadOnly_iff (mt (cutOff_uri rest).mp hcut) (by rwa [queryOf_uri]) hpath, hpath,
    queryOf_uri, and_iff_right hmem]

/-- SQLite is given the mode where what is kept has no other mode and no fragment. -/
theorem enforces_iff_taken {connectionString : List Char} (h : isSqlite connectionString = true)
    (hspelled : (queryOf (afterScheme connectionString)).Spelled)
    (hkept : Kept connectionString) :
    Enforces (afterScheme (normalizeConnectionString connectionString)) ↔
      Taken connectionString := by
  rw [Kept] at hkept
  rw [Taken]
  cases hguard : hasGuard connectionString with
  | true => rw [normalize_of_guard hguard, if_pos rfl]
  | false =>
      rw [hguard, if_neg Bool.false_ne_true] at hkept
      rw [afterScheme_normalize h hguard, if_neg Bool.false_ne_true]
      split
      · next hfile =>
          rw [if_pos hfile] at hkept
          split
          · next hcut =>
              have hpath := pathOf_withReadOnly (afterScheme connectionString)
              have hquery := queryOf_withReadOnly_of_cutOff hcut
              obtain ⟨database, hdatabase⟩ := exists_database hfile
              rw [Enforces, Enforces, target_withReadOnly_of_cutOff hcut hdatabase]
              refine or_congr_right ?_
              constructor
              · rintro ⟨huri, hname, hmode⟩
                rw [hquery] at huri
                rw [hpath] at hname
                rw [hpath, hquery] at hmode
                exact ⟨huri, hname, hmode⟩
              · rintro ⟨huri, hname, hmode⟩
                rw [← hquery] at huri
                rw [← hpath] at hname
                rw [← hpath, ← hquery] at hmode
                exact ⟨huri, hname, hmode⟩
          · next hcut =>
              rw [if_neg hcut] at hkept
              exact enforcesUri_iff hfile hcut hspelled hkept
      · next hfile =>
          rw [if_neg hfile] at hkept
          exact enforcesPath_iff hkept.1 hspelled ((keepsOpened_iff_of_spelled hspelled).mp hkept.2)

/-- **A configured SQLite URL** is opened with `mode=ro` or in memory, and as the database
that it denotes, exactly where the rewriting keeps what it says; where no option hides
another, SQLite opens it for reading only exactly where it also takes the mode. -/
theorem opensReadOnly_iff {connectionString : List Char} (h : isSqlite connectionString = true) :
    (OpensReadOnly connectionString ↔ Kept connectionString) ∧
      ((queryOf (afterScheme connectionString)).Spelled →
        (OpensReadOnly connectionString ∧
            Enforces (afterScheme (normalizeConnectionString connectionString)) ↔
          Kept connectionString ∧ Taken connectionString)) := by
  refine ⟨opens_iff_kept h, fun hspelled => ?_⟩
  rw [opens_iff_kept h]
  exact and_congr_right (enforces_iff_taken h hspelled)

end

/-- An absolute path is opened read-only, and a URI filename is. -/
theorem opensReadOnly_absolute :
    letI := Python.ascii
    letI := PythonQuery.plain
    letI := SqliteDriver.documented
    let opened (connectionString : List Char) : Prop := OpensReadOnly connectionString ∧
      Enforces (afterScheme (normalizeConnectionString connectionString))
    opened "sqlite:////srv/data.db".toList ∧
      opened "sqlite+aiosqlite:///file:/srv/data.db?uri=true&cache=private".toList := by
  let _ := Python.ascii
  let _ := PythonQuery.plain
  let _ := SqliteDriver.documented
  refine ⟨((opensReadOnly_iff (by decide)).2 (by decide)).mpr ⟨?_, ?_⟩,
    ((opensReadOnly_iff (by decide)).2 (by decide)).mpr ⟨?_, ?_⟩⟩
  · rw [Kept, if_neg (by decide), if_neg (by decide), keepsOpened_iff_of_spelled (by decide)]
    exact ⟨by decide, ⟨"srv/data.db".toList, by decide⟩, by decide, by decide⟩
  · rw [Taken, if_neg (by decide), if_neg (by decide)]
    decide
  · rw [Kept, if_neg (by decide), if_pos (by decide), if_neg (by decide)]
    have hmode : KeepsMode "/srv/data.db".toList (queryOf (afterScheme
        "sqlite+aiosqlite:///file:/srv/data.db?uri=true&cache=private".toList)) :=
      (keepsMode_iff_of_spelled _ (by decide)).mpr (by decide)
    exact ⟨by decide, utf8 "/srv/data.db".toList, by decide, .inr hmode⟩
  · rw [Taken, if_neg (by decide), if_pos (by decide), if_neg (by decide)]
    decide

/-- A directory whose name contains `mode=ro` is enough to open a file for
writing. -/
theorem not_opensReadOnly_directory :
    letI := Python.ascii
    letI := PythonQuery.plain
    letI := SqliteDriver.documented
    ¬ ∀ connectionString, isSqlite connectionString = true → OpensReadOnly connectionString := by
  let _ := Python.ascii
  let _ := PythonQuery.plain
  let _ := SqliteDriver.documented
  intro h
  have hdirectory := (h "sqlite:////srv/mode=ro/data.db".toList (by decide)).1
  rcases hdirectory with hmemory | ⟨honly, -⟩
  · exact absurd hmemory (by decide)
  · exact absurd honly (by decide)

end DbGateway.Tenant
