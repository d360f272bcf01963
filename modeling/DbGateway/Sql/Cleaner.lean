import DbGateway.Re

/-!
# DbGateway.Sql.Cleaner

`sql_cleaner.py`: what `clean_sql` makes of a statement written by a language
model.  It takes away a code fence and a leading `SQL:`, completes `ELECT`, and
rejects what then starts with neither `SELECT` nor `WITH`.
-/

namespace DbGateway.Sql

/-- `str.upper` -/
class PythonUpper where
  upper : String → String

export PythonUpper (upper)

/-- The ASCII table. -/
@[reducible] def PythonUpper.ascii : PythonUpper := ⟨mapChars Char.toUpper⟩

/-- `text.startswith(head)` -/
def startsWith (text head : String) : Bool := head.toList.isPrefixOf text.toList

/-- `text[n:]` -/
def dropChars (n : Nat) (text : String) : String := String.ofList (text.toList.drop n)

/-- `text.split("\n")` -/
def splitLines (text : String) : List String := (text.toList.splitOn '\n').map String.ofList

/-- The words of a text, each of them not empty. -/
def wordsOf : List Char → List Char → List (List Char)
  | word, [] => if word = [] then [] else [word.reverse]
  | word, c :: cs =>
      if isSpace c then (if word = [] then wordsOf [] cs else word.reverse :: wordsOf [] cs)
      else wordsOf (c :: word) cs

/-- `text.split()` -/
def splitWords (text : String) : List String := (wordsOf [] text.toList).map String.ofList

/-- The markdown fence. -/
def fence : String := "```"

/-- A fenced statement without its fence lines. -/
def removeFences (sql : String) : String :=
  if startsWith sql fence then
    strip (String.intercalate "\n"
      ((splitLines sql).filter fun line => !startsWith (strip line) fence))
  else sql

theorem strip_of_startsWith {text word : String} (hne : word.toList ≠ [])
    (hword : word.toList.all (!isSpace ·) = true) (h : startsWith text word = true) :
    startsWith (strip text) word = true := by
  obtain ⟨rest, hrest⟩ := List.isPrefixOf_iff_prefix.mp h
  have hchars : ∀ c ∈ word.toList, isSpace c = false := by simpa using hword
  have hstrip : stripList isSpace (word.toList ++ rest) =
      word.toList ++ List.rdropWhile isSpace rest :=
    @stripList_append isSpace [] _ rest hne (fun c hc => hchars c (List.mem_of_mem_head? hc))
      fun c hc => hchars c (List.mem_of_mem_getLast? hc)
  rw [startsWith, strip, stripChars, String.toList_ofList, ← hrest, hstrip]
  exact List.isPrefixOf_iff_prefix.mpr (List.prefix_append _ _)

/-- What is stripped stays so without its fences. -/
theorem strip_removeFences {sql : String} (h : strip sql = sql) :
    strip (removeFences sql) = removeFences sql := by
  rw [removeFences]
  split
  · exact strip_strip _
  · exact h

/-- `SELECT` is not a truncated `SELECT`. -/
theorem not_startsWith_elect {text : String} (h : startsWith text "SELECT" = true) :
    startsWith text "ELECT" = false := by
  obtain ⟨rest, hrest⟩ := List.isPrefixOf_iff_prefix.mp h
  rw [startsWith, ← hrest]
  rfl

section

variable [Python] [PythonUpper]

/-- A statement without a leading `SQL:` or `SQL `. -/
def removeKeyword (sql : String) : String :=
  if startsWith (upper sql) "SQL:" then strip (dropChars 4 sql)
  else if startsWith (upper sql) "SQL " then strip (dropChars 4 sql)
  else sql

omit [Python] in
theorem strip_removeKeyword {sql : String} (h : strip sql = sql) :
    strip (removeKeyword sql) = removeKeyword sql := by
  rw [removeKeyword]
  split
  · exact strip_strip _
  · split
    · exact strip_strip _
    · exact h

/-- `_WITH_PREFIX_RE`: `^WITH\b`, ignoring case. -/
def withPrefix : Re.Pattern :=
  .seq (.char fun c => c ∈ ['W', 'w'])
    (.seq (.char fun c => c ∈ ['I', 'i', '\u0130', '\u0131'])
      (.seq (.char fun c => c ∈ ['T', 't']) (.seq (.char fun c => c ∈ ['H', 'h']) .boundary)))

/-- `_WITH_PREFIX_RE.match(text)` -/
def startsWithWith (text : String) : Bool := (Re.matchAt withPrefix text.toList 0).isSome

/-- What `clean_sql` does with a stripped statement; a `ValueError` is its
message. -/
def cleanStripped (sql : String) : Except String String :=
  let sql := removeKeyword (strip (removeFences sql))
  let sql := if startsWith (strip (upper sql)) "ELECT" then "S" ++ sql else sql
  let words := splitWords sql
  if !startsWith (strip (upper sql)) "SELECT" && (words.head?.map upper) ≠ some "ELECT" &&
      !startsWithWith (strip (upper sql)) then
    .error ("SQL query failed safety validation: must start with SELECT after cleaning: " ++
      String.ofList (sql.toList.take 100))
  else
    let sql :=
      if !startsWith (strip (upper sql)) "SELECT" && (words.head?.map upper) = some "ELECT" then
        "SELECT " ++ String.intercalate " " words.tail
      else sql
    if startsWith (strip (upper sql)) "SELECT" || startsWithWith (strip (upper sql)) then
      .ok (strip sql)
    else
      .error ("SQL query failed safety validation: does not start with SELECT after cleaning: " ++
        String.ofList (sql.toList.take 100))

/-- `clean_sql` -/
def cleanSql (sql : String) : Except String String :=
  if sql = "" then .error "SQL query cannot be empty" else cleanStripped (strip sql)

/-- Whitespace around a statement does not matter. -/
theorem cleanSql_strip {sql : String} (h : strip sql ≠ "") :
    cleanSql (strip sql) = cleanSql sql := by
  have hne : sql ≠ "" := fun hempty => h (by rw [hempty]; decide)
  rw [cleanSql, cleanSql, if_neg h, if_neg hne, strip_strip]

end

end DbGateway.Sql
