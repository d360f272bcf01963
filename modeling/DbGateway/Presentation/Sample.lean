import DbGateway.Json.Text
import DbGateway.Re

/-!
# DbGateway.Presentation.Sample

`services/result_presentation_service.py`: the rows, and the sample of them that
the planner is shown.

The sample is popped from the end until its text fits, so it is the longest one
that fits (`buildContext_bounded`).
-/

namespace DbGateway.Presentation

/-! ## Popping until it fits -/

/-- `while len(rows) > 0`: leave, or pop the last one and say so.  The rows are
given in reverse. -/
def popUntil {α : Type*} (fits : List α → Bool) : List α → Bool → List α × Bool
  | [], truncated => ([], truncated)
  | row :: rows, truncated =>
      if fits (row :: rows).reverse then ((row :: rows).reverse, truncated)
      else popUntil fits rows true

/-- A prefix that fits and that every other prefix that fits is a prefix of. -/
structure IsLongest {α : Type*} (fits : List α → Bool) (rows shown : List α) : Prop where
  isPrefix : shown <+: rows
  fit : fits shown = true
  longest : ∀ other, other <+: rows → fits other = true → other <+: shown

section

variable {α : Type*} {fits : List α → Bool}

/-- Popping one that does not fit keeps the longest prefix that fits. -/
theorem IsLongest.concat {rows shown : List α} {row : α} (h : IsLongest fits rows shown)
    (hrow : fits (rows ++ [row]) = false) : IsLongest fits (rows ++ [row]) shown := by
  refine ⟨h.isPrefix.trans (List.prefix_append _ _), h.fit, fun other hother hfits => ?_⟩
  rcases List.prefix_concat_iff.mp hother with rfl | hother
  · rw [hfits] at hrow
    contradiction
  · exact h.longest other hother hfits

theorem isLongest_popUntil (hnil : fits [] = true) (rows : List α) (truncated : Bool) :
    IsLongest fits rows.reverse (popUntil fits rows truncated).1 := by
  induction rows generalizing truncated with
  | nil => exact ⟨List.prefix_rfl, hnil, fun _ hother _ => hother⟩
  | cons row rows ih =>
      rw [popUntil]
      split
      case isTrue hfits => exact ⟨List.prefix_rfl, hfits, fun _ hother _ => hother⟩
      case isFalse hfits =>
        rw [List.reverse_cons] at hfits ⊢
        exact (ih true).concat (Bool.eq_false_iff.mpr hfits)

theorem length_popUntil_le (rows : List α) (truncated : Bool) :
    (popUntil fits rows truncated).1.length ≤ rows.length := by
  induction rows generalizing truncated with
  | nil => exact Nat.le_refl _
  | cons row rows ih =>
      rw [popUntil]
      split
      · rw [List.length_reverse]
      · exact (ih true).trans (Nat.le_succ _)

/-- The flag says whether something was popped, now or before. -/
theorem popUntil_snd (rows : List α) (truncated : Bool) :
    (popUntil fits rows truncated).2 = true ↔
      truncated = true ∨ (popUntil fits rows truncated).1.length < rows.length := by
  induction rows generalizing truncated with
  | nil => simp [popUntil]
  | cons row rows ih =>
      rw [popUntil]
      split
      · simp
      · have hpopped : (popUntil fits rows true).1.length ≤ rows.length := length_popUntil_le rows true
        rw [ih, List.length_cons]
        exact iff_of_true (.inl rfl) (.inr (Nat.lt_succ_of_le hpopped))

end

/-! ## Rows -/

/-- A `float` -/
inductive PyFloat where
  | finite (q : Rat)
  | negZero
  | inf
  | negInf
  | nan

/-- A value of a row. -/
inductive Cell where
  | none
  | bool (b : Bool)
  | int (n : Int)
  | float (x : PyFloat)
  | str (s : String)
  | list (items : List Cell)
  | dict (fields : List (String × Cell))
  /-- Any other object, of which `default=str` takes the text. -/
  | other (text : String)

/-- `dict[str, Any]` -/
abbrev Row := Dict Cell

section

variable [Python]

/-- `json.dumps` of a float. -/
def PyFloat.print : PyFloat → List Char
  | finite q => (Python.floatRepr q).toList
  | negZero => "-0.0".toList
  | inf => "Infinity".toList
  | negInf => "-Infinity".toList
  | nan => "NaN".toList

mutual
/-- The text of a value, with `separators=(",", ":")` and `default=str`. -/
def Cell.print : Cell → List Char
  | .none => "null".toList
  | .bool b => if b then "true".toList else "false".toList
  | .int n => Json.printInt n
  | .float x => x.print
  | .str s => Json.printString s
  | .list items => '[' :: printItems items ++ [']']
  | .dict fields => '\x7b' :: printFields fields ++ ['\x7d']
  | .other text => Json.printString text

def printItems : List Cell → List Char
  | [] => []
  | x :: xs => x.print ++ (if xs.isEmpty then [] else ',' :: printItems xs)

def printFields : List (String × Cell) → List Char
  | [] => []
  | (k, v) :: xs =>
      Json.printString k ++ ':' :: v.print ++ (if xs.isEmpty then [] else ',' :: printFields xs)
end

/-- `json.dumps(rows, default=str, separators=(",", ":"))` -/
def dumps (rows : List Row) : String := String.ofList (Cell.list (rows.map .dict)).print

end

/-! ## Columns -/

/-- What the planner is told of a column. -/
structure Column where
  name : String
  type : String
  nullable : Bool

def Cell.isNone : Cell → Bool
  | .none => true
  | _ => false

/-- `isinstance(value, bool)` -/
def Cell.isBool : Cell → Bool
  | .bool _ => true
  | _ => false

/-- `isinstance(value, int)`, which a `bool` is too. -/
def Cell.isInt : Cell → Bool
  | .bool _ | .int _ => true
  | _ => false

/-- `isinstance(value, (int, float))` -/
def Cell.isNumber : Cell → Bool
  | .bool _ | .int _ | .float _ => true
  | _ => false

/-- `_column_type` -/
def columnType (values : List Cell) : String :=
  let nonNull := values.filter fun value => !value.isNone
  if nonNull = [] then "unknown"
  else if nonNull.all Cell.isBool then "boolean"
  else if nonNull.all Cell.isInt then "integer"
  else if nonNull.all Cell.isNumber then "number"
  else "string"

/-- `_infer_columns` -/
def inferColumns (rows : List Row) (sampleLimit : Nat) : List Column :=
  let keys := ((rows.take (max 1 sampleLimit)).flatMap fun row => row.map Prod.fst).foldl
    (fun keys key => if key ∈ keys then keys else keys ++ [key]) []
  keys.map fun key =>
    let values := (rows.take sampleLimit).map fun row => (row.get? key).getD .none
    ⟨key, columnType values, values.any Cell.isNone⟩

/-! ## The sample -/

/-- `_truncate_row`, for one value. -/
def truncateCell (cellLimit : Nat) : Cell → Cell
  | .str s =>
      if cellLimit < s.length then .str (String.ofList (s.toList.take (cellLimit - 1)) ++ "…")
      else .str s
  | value => value

/-- `_truncate_row` -/
def truncateRow (row : Row) (cellLimit : Nat) : Row :=
  row.map fun kv => (kv.1, truncateCell cellLimit kv.2)

/-- The limits of a service, as far as a sample can meet them at all. -/
structure Limits where
  maxSampleRows : Nat
  maxCellChars : Nat
  maxPayloadBytes : Nat
  maxSqlChars : Nat
  cell_pos : 1 ≤ maxCellChars
  payload_pos : 2 ≤ maxPayloadBytes

/-- The rows the sample is taken from, with long texts cut. -/
def truncatedRows (limits : Limits) (rows : List Row) : List Row :=
  (rows.take limits.maxSampleRows).map fun row => truncateRow row limits.maxCellChars

section

variable [Python]

/-- The text of a sample is within the limit. -/
def fitsPayload (limits : Limits) (sample : List Row) : Bool :=
  (dumps sample).utf8ByteSize ≤ limits.maxPayloadBytes

/-- The sample and whether it is truncated. -/
def boundedSample (limits : Limits) (rows : List Row) : List Row × Bool :=
  let sample := truncatedRows limits rows
  popUntil (fitsPayload limits) sample.reverse (sample.length < rows.length)

/-- One of the letters `a` to `z`, with `IGNORECASE`. -/
def isLatin (c : Char) : Bool := Re.Pattern.isLetterFolded c && c != '_'

/-- `_SUMMARY_COLUMN_PATTERN`, after its first group. -/
def summaryColumn : Re.Pattern :=
  .seq (Re.Pattern.alts (["count", "qty", "quantity", "total", "sum", "avg", "average", "min",
      "max", "most", "num", "number"].map Re.Pattern.word))
    (.alt (.char fun c => !isLatin c) .end_)

/-- `_SUMMARY_COLUMN_PATTERN.search` -/
def hasSummaryColumn (names : List Char) : Bool :=
  (Re.matchAt summaryColumn names 0).isSome ||
    (Re.search (.seq (.char fun c => !isLatin c) summaryColumn) names).isSome

/-- `_looks_like_question_answer` -/
def looksLikeQuestionAnswer (question : Option String) (rows : List Row) : Bool :=
  if question.getD "" = "" || rows.isEmpty || 3 < rows.length then false
  else
    hasSummaryColumn (String.intercalate " " (rows.flatMap fun row => row.map Prod.fst)).toList

/-- `_QUESTION_SUMMARY_HINT` -/
def questionSummaryHint : String :=
  "NOTE: These ROWS directly answer a single factual question, even though " ++
    "they span a few rows. Choose \"paragraph\" and fold the rows into one or two " ++
    "sentences. Only deviate if the rows clearly show unrelated records."

/-- `text or "(none set)"` -/
def orNoneSet (text : String) : String := if text = "" then "(none set)" else text

def yesNo (b : Bool) : String := if b then "yes" else "no"

/-- `_render_user_prompt` -/
def renderUserPrompt (limits : Limits) (question : Option String) (sql : String)
    (columns : List Column) (rows : List Row) (totalRows : Nat) (truncated : Bool) : String :=
  String.intercalate "\n" <|
    ["QUESTION:", orNoneSet (strip (orNoneSet (question.getD ""))), "", "SQL:",
      strip (String.ofList (sql.toList.take limits.maxSqlChars)), "", "COLUMNS:"] ++
    (if columns.isEmpty then [" (columns could not be inferred)"]
      else columns.map fun col =>
        " - name: " ++ col.name ++ ", type: " ++ col.type ++ ", nullable: " ++ yesNo col.nullable) ++
    ["", "ROWS (shown: " ++ toString rows.length ++ " of " ++ toString totalRows ++
        "; truncated: " ++ yesNo truncated ++ "):", dumps rows] ++
    (if looksLikeQuestionAnswer question rows then ["", questionSummaryHint] else [])

/-- What `_build_context` returns. -/
structure Context where
  prompt : String
  sampleRows : List Row
  columns : List Column

/-- `_build_context` -/
def buildContext (limits : Limits) (question : Option String) (sql : String) (rows : List Row) :
    Context :=
  let columns := inferColumns rows limits.maxSampleRows
  let sample := boundedSample limits rows
  ⟨renderUserPrompt limits question sql columns sample.1 rows.length sample.2, sample.1, columns⟩

/-! ## Bounds -/

omit [Python] in
theorem length_truncateCell {limits : Limits} {cell : Cell} {s : String}
    (h : truncateCell limits.maxCellChars cell = .str s) : s.length ≤ limits.maxCellChars := by
  cases cell with
  | str t =>
      rw [truncateCell] at h
      have hpos := limits.cell_pos
      split at h
      case isTrue hlong =>
        rw [← Cell.str.inj h, String.length_append, String.length_ofList, List.length_take]
        have hellipsis : "…".length = 1 := rfl
        omega
      case isFalse hshort => exact Cell.str.inj h ▸ Nat.le_of_not_lt hshort
  | _ => exact Cell.noConfusion h

theorem isLongest_boundedSample (limits : Limits) (rows : List Row) :
    IsLongest (fitsPayload limits) (truncatedRows limits rows) (boundedSample limits rows).1 := by
  have hnil : fitsPayload limits [] = true := decide_eq_true limits.payload_pos
  have hlongest := isLongest_popUntil hnil (truncatedRows limits rows).reverse
    (decide ((truncatedRows limits rows).length < rows.length))
  rwa [List.reverse_reverse] at hlongest

theorem boundedSample_truncated (limits : Limits) (rows : List Row) :
    (boundedSample limits rows).2 = true ↔ (boundedSample limits rows).1.length < rows.length := by
  have hpopped := (isLongest_boundedSample limits rows).isPrefix.length_le
  have hrows : (truncatedRows limits rows).length ≤ rows.length := by
    rw [truncatedRows, List.length_map, List.length_take]
    exact Nat.min_le_right _ _
  rw [boundedSample, popUntil_snd, decide_eq_true_eq, List.length_reverse, ← boundedSample]
  omega

/-- **Sample bounding**: the planner is shown the longest sample that fits, with
no text over the limit, and is told whether rows are missing. -/
theorem buildContext_bounded (limits : Limits) (question : Option String) (sql : String)
    (rows : List Row) :
    let context := buildContext limits question sql rows
    ∃ truncated : Bool,
      context.prompt = renderUserPrompt limits question sql context.columns context.sampleRows
        rows.length truncated ∧
      (truncated = true ↔ context.sampleRows.length < rows.length) ∧
      IsLongest (fitsPayload limits) (truncatedRows limits rows) context.sampleRows ∧
      ∀ row ∈ context.sampleRows, ∀ key s, (key, Cell.str s) ∈ row →
        s.length ≤ limits.maxCellChars := by
  dsimp only [buildContext]
  refine ⟨(boundedSample limits rows).2, rfl, boundedSample_truncated limits rows,
    isLongest_boundedSample limits rows, fun row hrow key s hcell => ?_⟩
  have hmem := (isLongest_boundedSample limits rows).isPrefix.subset hrow
  obtain ⟨source, -, rfl⟩ := List.mem_map.mp hmem
  obtain ⟨kv, -, hkv⟩ := List.mem_map.mp hcell
  exact length_truncateCell (Prod.mk.inj hkv).2

end

end DbGateway.Presentation
