import DbGateway.Json.Text
import DbGateway.Runs

/-!
# DbGateway.Repository.Fetch

`_execute_query` of `execute_sql_statement`: fetching the rows of a result in
batches, and the limits on their number and on their size.

The loop is one machine step for each guard, batch, row and check, so that
every list of rows the loop ever holds is a state.  Nothing in it can be
suspended.
-/

namespace DbGateway.Repository

open Runs (Reaches)

/-! ## Rows -/

section

variable {V : Type} (ofText : String → V)

variable [Python]

/-- `_apply_sensitive_column_masking` -/
def applySensitiveColumnMasking (sensitiveColumns : List String) (rows : List (Dict V)) :
    List (Dict V) :=
  if sensitiveColumns = [] then rows
  else rows.map fun row => row.map fun kv =>
    if lower kv.1 ∈ sensitiveColumns ∨ afterLastDot (lower kv.1) ∈ sensitiveColumns then
      (kv.1, ofText "[MASKED]")
    else kv

/-- `_apply_row_filter` -/
def applyRowFilter (rowFilter : Option (Dict V → Bool)) (rows : List (Dict V)) : List (Dict V) :=
  match rowFilter with
  | none => rows
  | some keep => rows.filter keep

/-- `len(json.dumps(rows, default=str).encode("utf-8"))`, given what each value
is to `json.dumps`. -/
def serializedSize (jsonOf : V → Json) (rows : List (Dict V)) : Nat :=
  (Json.dumps .default (.arr (rows.map fun row => .obj (row.map fun kv =>
    (kv.1, jsonOf kv.2))))).utf8ByteSize

end

/-! ## The loop -/

/-- What is left of a result: the answers of `fetchmany(256)` to come, before
the empty ones. -/
structure Cursor (R : Type) where
  batches : List (List R)
  proper : ∀ batch ∈ batches, batch ≠ [] ∧ batch.length ≤ 256

/-- The rows a cursor has left. -/
def Cursor.rows {R : Type} (cursor : Cursor R) : List R := cursor.batches.flatten

section

variable {R : Type}

/-- `SqlStatementExecutionError`s -/
inductive LimitExceeded where
  | rows (limit : Nat)
  | bytes (limit : Int)
deriving DecidableEq

/-- The text of the error. -/
def LimitExceeded.message : LimitExceeded → String
  | .rows limit => "Query result exceeds the maximum allowed row limit (" ++ toString limit ++
      " rows)."
  | .bytes limit => "Query result exceeds maximum allowed size (" ++ toString limit ++ " bytes)."

/-- Where the loop is, and what is in `result_dicts`. -/
inductive Fetching (R : Type) where
  /-- Before `while len(result_dicts) <= self._max_row_limit`. -/
  | guard (rows : List R) (batches : List (List R))
  /-- Before the next row of a batch. -/
  | inBatch (rows rest : List R) (batches : List (List R))
  /-- A row has been appended. -/
  | appended (rows rest : List R) (batches : List (List R))
  /-- The loop has ended. -/
  | done (rows : List R)
  | raised (rows : List R) (error : LimitExceeded)

/-- `result_dicts` -/
def Fetching.rows : Fetching R → List R
  | .guard rows _ => rows
  | .inBatch rows _ _ => rows
  | .appended rows _ _ => rows
  | .done rows => rows
  | .raised rows _ => rows

/-- A step of the loop over the batches. -/
def Fetching.step (limit : Nat) : Fetching R → Fetching R
  | .guard rows batches =>
      if rows.length ≤ limit then
        match batches with
        | [] => .done rows
        | [] :: _ => .done rows
        | batch :: batches => .inBatch rows batch batches
      else .done rows
  | .inBatch rows [] batches => .guard rows batches
  | .inBatch rows (row :: rest) batches => .appended (rows ++ [row]) rest batches
  | .appended rows rest batches =>
      if limit < rows.length then .raised rows (.rows limit) else .inBatch rows rest batches
  | .done rows => .done rows
  | .raised rows error => .raised rows error

@[simp] theorem Fetching.step_inBatch_nil (limit : Nat) (rows : List R)
    (batches : List (List R)) :
    (Fetching.inBatch rows [] batches).step limit = .guard rows batches := rfl

@[simp] theorem Fetching.step_inBatch_cons (limit : Nat) (row : R) (rows rest : List R)
    (batches : List (List R)) :
    (Fetching.inBatch rows (row :: rest) batches).step limit =
      .appended (rows ++ [row]) rest batches := rfl

theorem Fetching.step_appended_of_le {limit : Nat} {rows rest : List R}
    {batches : List (List R)} (h : rows.length ≤ limit) :
    (Fetching.appended rows rest batches).step limit = .inBatch rows rest batches := by
  simp [step, Nat.not_lt.mpr h]

theorem Fetching.step_appended_of_lt {limit : Nat} {rows rest : List R}
    {batches : List (List R)} (h : limit < rows.length) :
    (Fetching.appended rows rest batches).step limit = .raised rows (.rows limit) := by
  simp [step, h]

/-- The rows fetched, or the error, once the loop has ended. -/
def Fetching.result? : Fetching R → Option (Except LimitExceeded (List R))
  | .guard _ _ => none
  | .inBatch _ _ _ => none
  | .appended _ _ _ => none
  | .done rows => some (.ok rows)
  | .raised _ error => some (.error error)

/-- The loop after some steps. -/
def fetchingAfter (limit : Nat) (cursor : Cursor R) (n : Nat) : Fetching R :=
  (Fetching.step limit)^[n] (.guard [] cursor.batches)

theorem Fetching.step_of_result? {limit : Nat} {state : Fetching R}
    {result : Except LimitExceeded (List R)} (h : state.result? = some result) :
    state.step limit = state := by
  cases state <;> simp [result?, step] at h ⊢

/-! ## What it fetches -/

variable {limit : Nat}

/-- A batch that fits is taken over. -/
theorem reaches_guard (rows rest : List R) (batches : List (List R))
    (h : rows.length + rest.length ≤ limit) :
    Reaches (Fetching.step limit) (.inBatch rows rest batches) (.guard (rows ++ rest) batches) := by
  induction rest generalizing rows with
  | nil =>
      refine Reaches.head ?_
      rw [Fetching.step_inBatch_nil, List.append_nil]
      exact Reaches.refl
  | cons row rest ih =>
      have hroom : (rows ++ [row]).length ≤ limit := by simp at h ⊢; omega
      have hrest := ih (rows ++ [row]) (by simp at h ⊢; omega)
      refine Reaches.head (Reaches.head ?_)
      rw [Fetching.step_inBatch_cons, Fetching.step_appended_of_le hroom]
      simpa using hrest

/-- In a batch that does not, the row after the last allowed one raises. -/
theorem reaches_raised (rows rest : List R) (batches : List (List R))
    (hrows : rows.length ≤ limit) (h : limit < rows.length + rest.length) :
    Reaches (Fetching.step limit) (.inBatch rows rest batches)
      (.raised ((rows ++ rest).take (limit + 1)) (.rows limit)) := by
  induction rest generalizing rows with
  | nil => simp at h; omega
  | cons row rest ih =>
      refine Reaches.head (Reaches.head ?_)
      rw [Fetching.step_inBatch_cons]
      by_cases hroom : (rows ++ [row]).length ≤ limit
      · have hrest := ih (rows ++ [row]) hroom (by simp at h ⊢; omega)
        rw [Fetching.step_appended_of_le hroom]
        simpa using hrest
      · have hlength : rows.length = limit := by simp at hroom; omega
        have htake : (rows ++ row :: rest).take (limit + 1) = rows ++ [row] := by
          rw [← hlength, List.take_length_add_append]
          rfl
        rw [Fetching.step_appended_of_lt (Nat.lt_of_not_le hroom), htake]
        exact Reaches.refl

/-- Where the loop ends: with all rows, or one past the limit. -/
def fetched (limit : Nat) (rows : List R) : Fetching R :=
  if rows.length ≤ limit then .done rows else .raised (rows.take (limit + 1)) (.rows limit)

theorem reaches_fetched (rows : List R) (batches : List (List R)) (hrows : rows.length ≤ limit)
    (hproper : ∀ batch ∈ batches, batch ≠ []) :
    Reaches (Fetching.step limit) (.guard rows batches) (fetched limit (rows ++ batches.flatten)) := by
  induction batches generalizing rows with
  | nil =>
      refine Reaches.head ?_
      simpa [Fetching.step, fetched, hrows] using Reaches.refl
  | cons batch batches ih =>
      obtain ⟨row, rest, rfl⟩ := List.exists_cons_of_ne_nil (hproper batch List.mem_cons_self)
      have hentered : (Fetching.guard rows ((row :: rest) :: batches)).step limit =
          .inBatch rows (row :: rest) batches := by
        simp [Fetching.step, hrows]
      refine Reaches.head ?_
      rw [hentered, List.flatten_cons, ← List.append_assoc]
      by_cases hfits : rows.length + (row :: rest).length ≤ limit
      · have hlength : (rows ++ row :: rest).length ≤ limit := by simpa using hfits
        exact (reaches_guard rows _ batches hfits).trans
          (ih _ hlength fun b hb => hproper b (List.mem_cons_of_mem _ hb))
      · have hraised := reaches_raised rows (row :: rest) batches hrows (by omega)
        have hlong : ¬ (rows ++ row :: rest ++ batches.flatten).length ≤ limit := by
          simp at hfits ⊢
          omega
        have htake : (rows ++ row :: rest ++ batches.flatten).take (limit + 1) =
            (rows ++ row :: rest).take (limit + 1) :=
          List.take_append_of_le_length (by simp at hfits ⊢; omega)
        rwa [fetched, if_neg hlong, htake]

/-- Every result is fetched to the end, or to one row past the limit. -/
theorem reaches_fetched_rows (limit : Nat) (cursor : Cursor R) :
    Reaches (Fetching.step limit) (.guard [] cursor.batches) (fetched limit cursor.rows) := by
  have hends := reaches_fetched [] cursor.batches (Nat.zero_le limit)
    fun b hb => (cursor.proper b hb).1
  rw [List.nil_append] at hends
  exact hends

/-! ## What it holds -/

/-- The list of rows stays within the limit, but for the row that is checked. -/
def Fetching.Bounded (limit : Nat) : Fetching R → Prop
  | .guard rows _ => rows.length ≤ limit
  | .inBatch rows _ _ => rows.length ≤ limit
  | .appended rows _ _ => rows.length ≤ limit + 1
  | .done rows => rows.length ≤ limit
  | .raised rows _ => rows.length ≤ limit + 1

theorem Fetching.Bounded.step {state : Fetching R} (h : state.Bounded limit) :
    (state.step limit).Bounded limit := by
  cases state with
  | guard rows batches =>
      simp only [Bounded] at h
      match batches with
      | [] => simp [Fetching.step, h, Bounded]
      | [] :: _ => simp [Fetching.step, h, Bounded]
      | (row :: rest) :: _ => simp [Fetching.step, h, Bounded]
  | inBatch rows rest batches =>
      cases rest with
      | nil => exact h
      | cons row rest => simpa [Fetching.step, Bounded] using h
  | appended rows rest batches =>
      simp only [Bounded] at h
      by_cases hlimit : limit < rows.length
      · simpa [Fetching.step, hlimit, Bounded] using h
      · simp [Fetching.step, hlimit, Bounded]
        omega
  | done rows => exact h
  | raised rows error => exact h

theorem Fetching.Bounded.length_rows_le {state : Fetching R} (h : state.Bounded limit) :
    state.rows.length ≤ limit + 1 := by
  cases state <;> simp only [Bounded, rows] at h ⊢ <;> omega

theorem length_rows_le (limit : Nat) (cursor : Cursor R) (n : Nat) :
    (fetchingAfter limit cursor n).rows.length ≤ limit + 1 := by
  have hbounded : (fetchingAfter limit cursor n).Bounded limit := by
    induction n with
    | zero => exact Nat.zero_le _
    | succ n ih =>
        rw [fetchingAfter, Function.iterate_succ_apply']
        exact ih.step
  exact hbounded.length_rows_le

end

/-! ## The query -/

section

variable [Python] {V : Type} (ofText : String → V) (jsonOf : V → Json)

/-- The settings of a repository that are about results. -/
structure Settings (V : Type) where
  maxRowLimit : Nat
  maxResultBytes : Int
  rowFilter : Option (Dict V → Bool)
  sensitiveColumns : List String

/-- What becomes of the rows fetched. -/
def conclude (settings : Settings V) (rows : List (Dict V)) :
    Except LimitExceeded (List (Dict V)) :=
  if settings.maxResultBytes < serializedSize jsonOf rows then
    .error (.bytes settings.maxResultBytes)
  else .ok (applySensitiveColumnMasking ofText settings.sensitiveColumns
    (applyRowFilter settings.rowFilter rows))

/-- `_execute_query`: its answer, if it has one after so many steps of the loop.
A statement that returns no rows has no cursor. -/
def executeQuery (settings : Settings V) (cursor : Option (Cursor (Dict V))) (n : Nat) :
    Option (Except LimitExceeded (List (Dict V))) :=
  match cursor with
  | none => some (.ok [])
  | some cursor => (fetchingAfter settings.maxRowLimit cursor n).result?.map fun fetched =>
      fetched.bind (conclude ofText jsonOf settings)

variable {ofText jsonOf} {settings : Settings V} {cursor : Cursor (Dict V)}

/-- The rows are within both limits. -/
def Fits (jsonOf : V → Json) (settings : Settings V) (rows : List (Dict V)) : Prop :=
  rows.length ≤ settings.maxRowLimit ∧
    (serializedSize jsonOf rows : Int) ≤ settings.maxResultBytes

omit [Python] in
/-- The loop ends as `fetched` says, and as nothing else. -/
theorem result?_fetchingAfter {n : Nat} {result : Except LimitExceeded (List (Dict V))}
    (h : (fetchingAfter settings.maxRowLimit cursor n).result? = some result) :
    (fetched settings.maxRowLimit cursor.rows).result? = some result := by
  have hends := reaches_fetched_rows settings.maxRowLimit cursor
  have hrest : (fetched settings.maxRowLimit cursor.rows).step settings.maxRowLimit =
      fetched settings.maxRowLimit cursor.rows := by
    unfold fetched
    split <;> rfl
  have hsame := Reaches.eq_of_fixed ⟨n, rfl⟩ hends (Fetching.step_of_result? h) hrest
  exact hsame ▸ h

/-- **No silent truncation**: the loop ends; the query then returns the rows of
the result, all and in order, filtered and masked, when they are within both
limits, and raises otherwise; and the list of rows never grows beyond one row
more than the limit. -/
theorem executeQuery_complete (ofText : String → V) (jsonOf : V → Json) (settings : Settings V)
    (cursor : Cursor (Dict V)) :
    (∃ n answer, executeQuery ofText jsonOf settings (some cursor) n = some answer) ∧
      (∀ n answer, executeQuery ofText jsonOf settings (some cursor) n = some answer →
        ∀ rows, answer = .ok rows ↔ Fits jsonOf settings cursor.rows ∧
          rows = applySensitiveColumnMasking ofText settings.sensitiveColumns
            (applyRowFilter settings.rowFilter cursor.rows)) ∧
      ∀ n, (fetchingAfter settings.maxRowLimit cursor n).rows.length ≤
        settings.maxRowLimit + 1 := by
  refine ⟨?_, ?_, length_rows_le settings.maxRowLimit cursor⟩
  · obtain ⟨n, hn⟩ := reaches_fetched_rows settings.maxRowLimit cursor
    have hsome : (fetchingAfter settings.maxRowLimit cursor n).result?.isSome := by
      rw [fetchingAfter, hn]
      unfold fetched
      split <;> rfl
    obtain ⟨result, hresult⟩ := Option.isSome_iff_exists.mp hsome
    exact ⟨n, _, by rw [executeQuery, hresult]; rfl⟩
  · intro n answer hanswer rows
    obtain ⟨result, hresult, rfl⟩ := Option.map_eq_some_iff.mp hanswer
    have hfetched := result?_fetchingAfter hresult
    unfold fetched at hfetched
    by_cases hlimit : cursor.rows.length ≤ settings.maxRowLimit
    · rw [if_pos hlimit] at hfetched
      obtain rfl := Option.some.inj hfetched
      by_cases hsize : settings.maxResultBytes < serializedSize jsonOf cursor.rows
      · have hnot : ¬ Fits jsonOf settings cursor.rows := fun h => absurd h.2 (by omega)
        simp [Except.bind, conclude, hsize, hnot]
      · have hfits : Fits jsonOf settings cursor.rows := ⟨hlimit, by omega⟩
        simp [Except.bind, conclude, hsize, hfits, eq_comm]
    · rw [if_neg hlimit] at hfetched
      obtain rfl := Option.some.inj hfetched
      have hnot : ¬ Fits jsonOf settings cursor.rows := fun h => hlimit h.1
      simp [Except.bind, hnot]

end

end DbGateway.Repository
