import DbGateway.Fallible
import DbGateway.Presentation.Numbers
import DbGateway.Presentation.Parse
import DbGateway.Sql.Cleaner

/-!
# DbGateway.Presentation.Decide

`services/result_presentation_service.py`: how a result is to be shown.

`decide` handles what the request raises and what is wrong with the answer's
text.  What is wrong with the shape of the body around it is not handled, nor is
JSON that nests too deep for the interpreter (`decide_total_iff`).
-/

namespace DbGateway.Presentation

open Fallible
open Json (PythonFloat PythonLimits)
open Sql (splitWords)

/-! ## The service -/

/-- `PresentationDecision` -/
structure PresentationDecision where
  format : String
  content : Option String
  reason : Option String
  columnLabels : Dict String

/-- `SUPPORTED_FORMATS` -/
def supportedFormats : List String := ["paragraph", "list", "chart", "table"]

/-- `ResultPresentationService`; how long it waits is not part of it. -/
structure ResultPresentationService where
  systemPrompt : String
  enabled : Bool
  apiKey : String
  baseUrl : String
  model : String
  maxTokens : Int
  retries : Nat
  disableReasoning : Bool
  limits : Limits

/-- The arguments of `__init__`, with the texts of its defaults. -/
structure Settings where
  systemPrompt : String := ""
  enabled : Bool := true
  apiKey : String := ""
  baseUrl : String := "https://openrouter.ai/api/v1"
  model : String := ""
  maxTokens : Int := 300
  retries : Int := 3
  disableReasoning : Bool := true
  maxSampleRows : Int := 20
  maxCellChars : Int := 80
  maxPayloadBytes : Int := 20000
  maxSqlChars : Int := 2000

/-- The limits, none of them below its least value. -/
def Settings.limits (settings : Settings) : Limits where
  maxSampleRows := (max 1 settings.maxSampleRows).toNat
  maxCellChars := (max 10 settings.maxCellChars).toNat
  maxPayloadBytes := (max 512 settings.maxPayloadBytes).toNat
  maxSqlChars := (max 100 settings.maxSqlChars).toNat
  cell_pos := by omega
  payload_pos := by omega

/-- `__init__`, with the system prompt on disk (`""` without one). -/
def Settings.init (settings : Settings) (loaded : String) : ResultPresentationService :=
  let systemPrompt := if settings.systemPrompt = "" then loaded else settings.systemPrompt
  { systemPrompt
    enabled := settings.enabled && systemPrompt != ""
    apiKey := settings.apiKey
    baseUrl := String.ofList (settings.baseUrl.toList.rdropWhile (· = '/'))
    model := if settings.model = "" then "openai/gpt-4o" else settings.model
    maxTokens := max 1 settings.maxTokens
    retries := (max 1 settings.retries).toNat
    disableReasoning := settings.disableReasoning
    limits := settings.limits }

/-! ## The request -/

/-- What can be raised on the way. -/
inductive Raised where
  /-- `asyncio.TimeoutError` -/
  | timeout
  /-- `PresentationServiceError` -/
  | service (text : String)
  /-- `_RetryableResponseError` -/
  | retryable (text : String)
  /-- `_InvalidDecisionError` -/
  | invalidDecision (text : String)
  /-- `httpx.HTTPError` -/
  | http (text : String)
  /-- `ValueError` -/
  | value (text : String)
  | typeError
  | attributeError
  | keyError
  | indexError
  /-- `RecursionError` -/
  | recursion

/-- What `response.json()` raises. -/
inductive BodyError where
  /-- `ValueError` -/
  | value (text : String)
  /-- `RecursionError` -/
  | recursion

/-- What comes of a request. -/
inductive Reply where
  /-- The time for all requests is up, before this one is answered. -/
  | deadline
  /-- An `httpx.HTTPError` -/
  | httpError (text : String)
  /-- A `ValueError` -/
  | valueError (text : String)
  /-- A response, with its body as `response.json()` gives or raises it. -/
  | response (status : Int) (body : Except BodyError Json)

/-- The POST to the completion service. -/
structure Request where
  url : String
  headers : Dict String
  body : Dict Json

/-- The request of `_complete`. -/
def ResultPresentationService.request (service : ResultPresentationService) (userPrompt : String) :
    Request where
  url := service.baseUrl ++ "/chat/completions"
  headers := [("Authorization", "Bearer " ++ service.apiKey), ("Content-Type", "application/json")]
  body :=
    [("model", .str service.model),
      ("messages", .arr
        [.obj [("role", .str "system"), ("content", .str service.systemPrompt)],
          .obj [("role", .str "user"), ("content", .str userPrompt)]]),
      ("max_tokens", .int service.maxTokens), ("temperature", .int 0),
      ("response_format", .obj [("type", .str "json_object")])] ++
    (if service.disableReasoning then [("reasoning", .obj [("enabled", .bool false)])] else [])

/-- `value.get(field)` -/
def attrGet (value : Json) (field : String) : Except Raised Json :=
  match value with
  | .obj _ => .ok (value.getD field)
  | _ => .error .attributeError

/-- `value[0]` -/
def first : Json → Except Raised Json
  | .arr (item :: _) => .ok item
  | .arr [] => .error .indexError
  | .str s =>
      match s.toList with
      | c :: _ => .ok (.str (String.ofList [c]))
      | [] => .error .indexError
  | .obj _ => .error .keyError
  | _ => .error .typeError

/-- `((data.get("choices") or [{}])[0].get("message") or {}).get("content") or ""` -/
def completionContent (data : Json) : Except Raised Json := do
  let choices ← attrGet data "choices"
  let choice ← first (choices.or (.arr [.obj []]))
  let message ← attrGet choice "message"
  let content ← attrGet (message.or (.obj [])) "content"
  pure (content.or (.str ""))

/-- `isinstance(text, str) and text.strip()` -/
def isText : Json → Bool
  | .str s => strip s != ""
  | _ => false

/-- What an attempt makes of the reply to its POST. -/
def attempt : Reply → Except Raised Json
  | .deadline => .error .timeout
  | .httpError text => .error (.http text)
  | .valueError text => .error (.value text)
  | .response status body =>
      if status = 408 ∨ status = 429 then
        .error (.retryable ("retryable status " ++ toString status))
      else if status ≥ 400 then
        .error (.service ("llm http error: status " ++ toString status))
      else
        match body with
        | .error (.value text) => .error (.value text)
        | .error .recursion => .error .recursion
        | .ok data => do
            let content ← completionContent data
            if !isText content then .error (.retryable "empty completion content")
            else pure data

/-- The attempts that are left, the next of them the `n`th. -/
def attempts (replies : Nat → Reply) (retries : Nat) : Nat → Nat → String → Except Raised Json
  | 0, _, lastError =>
      .error (.service ("llm request failed after " ++ toString retries ++ " attempts: " ++ lastError))
  | left + 1, n, _ =>
      match attempt (replies n) with
      | .ok data => .ok data
      | .error (.retryable text) => attempts replies retries left (n + 1) text
      | .error (.http text) | .error (.value text) =>
          .error (.service ("llm request failed: " ++ text))
      | .error raised => .error raised

/-- `_complete`, within `asyncio.wait_for` -/
def ResultPresentationService.complete (service : ResultPresentationService)
    (post : Request → Nat → Reply) (userPrompt : String) : Except Raised Json :=
  attempts (post (service.request userPrompt)) service.retries service.retries 1 "None"

/-- `_extract_content_text` -/
def extractContentText (response : Json) : Except Raised String := do
  match ← attrGet response "choices" with
  | .arr (choice :: _) =>
      let message ← attrGet choice "message"
      let message := message.or (.obj [])
      let content ← attrGet message "content"
      let reasoning ← attrGet message "reasoning"
      match if isText content then content else reasoning with
      | .str s =>
          if strip s = "" then .error (.service "llm response had no usable content")
          else pure (strip s)
      | _ => .error (.service "llm response had no usable content")
  | _ => .error (.service "llm response missing choices")

/-! ## The decision -/

/-- `str.isprintable` of a one-character string -/
class PythonPrintable where
  isPrintable : Char → Bool

/-- `_has_numeric_column` -/
def hasNumericColumn (rows : List Row) : Bool :=
  rows.any fun row => row.any fun kv => !kv.2.isBool && kv.2.isNumber

section

variable [PythonPrintable]

/-- A label as it is shown. -/
def cleanLabel (value : String) : String :=
  let printable := value.toList.flatMap fun c =>
    if PythonPrintable.isPrintable c then [c] else if isSpace c then [' '] else []
  String.intercalate " " (splitWords (String.ofList printable))

/-- `_validated_column_labels` -/
def validatedColumnLabels (raw : Json) (rows : List Row) : Dict String :=
  match raw with
  | .obj fields =>
      if rows = [] then []
      else
        let validColumns := rows.flatMap fun row => row.map Prod.fst
        fields.foldl (fun labels kv =>
          match kv.2 with
          | .str value =>
              if kv.1 ∉ validColumns then labels
              else if cleanLabel value = "" then labels
              else labels.set kv.1 (String.ofList ((cleanLabel value).toList.take 60))
          | _ => labels) []
  | _ => []

variable [Python] [PythonTables] [PythonFloat] [PythonLimits]

/-- `data.get(field)`, where it is a text. -/
def textField (data : Dict Json) (field : String) : Option String :=
  match data.get? field with
  | some (.str s) => if strip s = "" then none else some s
  | _ => none

/-- The decision in an object. -/
def decisionOf (data : Dict Json) (rows : List Row) : Except Raised PresentationDecision :=
  match data.get? "format" with
  | some (.str rawFormat) =>
      let fmt := lower (strip rawFormat)
      if fmt ∉ supportedFormats then
        .error (.invalidDecision ("unsupported format '" ++ fmt ++ "'"))
      else
        let content := (textField data "content").map strip
        if fmt = "paragraph" ∧ content = none then
          .error (.invalidDecision "paragraph requires non-empty 'content'")
        else if fmt = "chart" ∧ hasNumericColumn rows = false then
          .error (.invalidDecision "'chart' plan has no numeric column to plot")
        else if content.any (fun text => !integersFit text rows) then
          .error (.invalidDecision "content invents values not present in the result")
        else
          .ok
            { format := fmt
              content
              reason := textField data "reason"
              columnLabels := validatedColumnLabels ((data.get? "column_labels").getD .null) rows }
  | _ => .error (.invalidDecision "missing 'format'")

/-- `_validate_decision` -/
def validateDecision (contentText : String) (rows : List Row) :
    Except Raised PresentationDecision :=
  match parseJsonObject contentText with
  | .error (.invalid text) => .error (.invalidDecision text)
  | .error .recursion => .error .recursion
  | .ok data => decisionOf data rows

omit [Python] [PythonTables] [PythonFloat] [PythonLimits] [PythonPrintable] in
/-- `_fallback_decision` -/
def fallbackDecision (reason : String) : PresentationDecision := ⟨"table", none, some reason, []⟩

/-- `decide` -/
def ResultPresentationService.decide (service : ResultPresentationService)
    (post : Request → Nat → Reply) (question : Option String) (sql : String) (rows : List Row) :
    Except Raised (Option PresentationDecision) :=
  if !service.enabled then .ok none
  else if service.apiKey = "" then .ok none
  else if rows = [] then .ok none
  else
    let context := buildContext service.limits question sql rows
    match service.complete post context.prompt with
    | .error .timeout => .ok (some (fallbackDecision "llm request timed out"))
    | .error (.service text) => .ok (some (fallbackDecision text))
    | .error raised => .error raised
    | .ok response => do
        let contentText ← extractContentText response
        match validateDecision contentText context.sampleRows with
        | .ok decision => pure (some decision)
        | .error (.invalidDecision text) => pure (some (fallbackDecision text))
        | .error (.value _) | .error .typeError => pure (some (fallbackDecision "malformed llm response"))
        | .error raised => .error raised

end

/-! ## Bodies -/

def IsObject (value : Json) : Prop := ∃ fields, value = .obj fields

/-- The message of the first choice, where there is one. -/
def firstMessage (data : Json) : Json :=
  match data.getD "choices" with
  | .arr (choice :: _) => choice.getD "message"
  | _ => .null

/-- A body in which the message is looked for without an error. -/
structure Shaped (data : Json) : Prop where
  body : IsObject data
  choices : (data.getD "choices").truthy = true →
    ∃ choice rest, data.getD "choices" = .arr (choice :: rest) ∧ IsObject choice
  message : (firstMessage data).truthy = true → IsObject (firstMessage data)

/-- What no handler is for. -/
def Raised.isUnhandled : Raised → Bool
  | typeError | attributeError | keyError | indexError | recursion => true
  | _ => false

/-- Nothing is raised that a handler is for. -/
def OnlyUnhandled {α : Type} (x : Except Raised α) : Prop :=
  ∀ raised, x = .error raised → raised.isUnhandled = true

theorem OnlyUnhandled.bind {α β : Type} {x : Except Raised α} {f : α → Except Raised β}
    (hx : OnlyUnhandled x) (hf : ∀ a, OnlyUnhandled (f a)) : OnlyUnhandled (x >>= f) := by
  cases x with
  | ok a => exact hf a
  | error e => exact fun raised h => Except.error.inj h ▸ hx e rfl

theorem onlyUnhandled_attrGet (value : Json) (field : String) :
    OnlyUnhandled (attrGet value field) := by
  intro raised h
  cases value with
  | obj fields => contradiction
  | _ => exact Except.error.inj h ▸ rfl

theorem onlyUnhandled_first (value : Json) : OnlyUnhandled (first value) := by
  intro raised h
  cases value with
  | arr items =>
      cases items with
      | nil => exact Except.error.inj h ▸ rfl
      | cons item items => contradiction
  | str s =>
      rw [first] at h
      split at h
      · contradiction
      · exact Except.error.inj h ▸ rfl
  | _ => exact Except.error.inj h ▸ rfl

theorem onlyUnhandled_completionContent (data : Json) : OnlyUnhandled (completionContent data) :=
  (onlyUnhandled_attrGet _ _).bind fun _ => (onlyUnhandled_first _).bind fun _ =>
    (onlyUnhandled_attrGet _ _).bind fun _ => (onlyUnhandled_attrGet _ _).bind fun _ _ => nofun

theorem attrGet_eq_ok_iff {value found : Json} {field : String} :
    attrGet value field = .ok found ↔ IsObject value ∧ value.getD field = found := by
  cases value with
  | obj fields => simp [attrGet, IsObject]
  | _ => simp [attrGet, IsObject]

theorem getD_of_not_truthy {value : Json} (h : value.truthy = false) (field : String) :
    value.getD field = .null := by
  cases value with
  | obj fields =>
      have hnil : fields = [] := by simpa [Json.truthy] using h
      rw [hnil]
      rfl
  | _ => rfl

theorem isText_or (content : Json) : isText (content.or (.str "")) = isText content := by
  cases htruthy : content.truthy with
  | true => rw [Json.or_of_truthy _ htruthy]
  | false =>
      rw [Json.or_of_not_truthy _ htruthy]
      cases content with
      | str s =>
          have hempty : s = "" := by simpa [Json.truthy] using htruthy
          rw [hempty]
      | _ => rfl

theorem isObject_or {message : Json} :
    IsObject (message.or (.obj [])) ↔ (message.truthy = true → IsObject message) := by
  cases htruthy : message.truthy with
  | true =>
      rw [Json.or_of_truthy _ htruthy]
      exact ⟨fun h _ => h, fun h => h rfl⟩
  | false =>
      rw [Json.or_of_not_truthy _ htruthy]
      exact iff_of_true ⟨[], rfl⟩ nofun

theorem getD_or (message : Json) (field : String) :
    (message.or (.obj [])).getD field = message.getD field := by
  cases htruthy : message.truthy with
  | true => rw [Json.or_of_truthy _ htruthy]
  | false =>
      rw [Json.or_of_not_truthy _ htruthy, getD_of_not_truthy htruthy]
      rfl

theorem first_eq_ok_iff {value item : Json} (hitem : IsObject item) :
    first value = .ok item ↔ ∃ rest, value = .arr (item :: rest) := by
  constructor
  · intro h
    cases value with
    | arr items =>
        cases items with
        | nil => contradiction
        | cons found rest => exact ⟨rest, by rw [Except.ok.inj h]⟩
    | str s =>
        obtain ⟨fields, rfl⟩ := hitem
        rw [first] at h
        split at h
        · exact nomatch Except.ok.inj h
        · contradiction
    | _ => contradiction
  · rintro ⟨rest, rfl⟩
    rfl

theorem firstMessage_of_arr {data choice : Json} {rest : List Json}
    (h : data.getD "choices" = .arr (choice :: rest)) :
    firstMessage data = choice.getD "message" := by
  rw [firstMessage, h]

/-- Without choices there is no message. -/
theorem firstMessage_of_not_truthy {data : Json} (h : (data.getD "choices").truthy = false) :
    firstMessage data = .null := by
  rw [firstMessage]
  split
  case h_1 hchoices =>
    rw [hchoices] at h
    contradiction
  case h_2 => rfl

/-- A message is looked for without an error in a shaped body, and in no other. -/
theorem completionContent_eq_ok_iff {data content : Json} :
    completionContent data = .ok content ↔
      Shaped data ∧ ((firstMessage data).getD "content").or (.str "") = content := by
  simp only [completionContent, bind_eq_ok_iff, attrGet_eq_ok_iff, pure_eq_ok_iff]
  constructor
  · rintro ⟨_, ⟨hbody, rfl⟩, choice, hchoice, _, ⟨hobject, rfl⟩, _, ⟨hmessage, rfl⟩, rfl⟩
    rw [isObject_or] at hmessage
    rw [getD_or]
    cases htruthy : (data.getD "choices").truthy with
    | true =>
        rw [Json.or_of_truthy _ htruthy] at hchoice
        obtain ⟨rest, hchoices⟩ := (first_eq_ok_iff hobject).mp hchoice
        rw [← firstMessage_of_arr hchoices] at hmessage ⊢
        exact ⟨⟨hbody, fun _ => ⟨choice, rest, hchoices, hobject⟩, hmessage⟩, rfl⟩
    | false =>
        rw [Json.or_of_not_truthy _ htruthy] at hchoice
        have hnone := firstMessage_of_not_truthy htruthy
        rw [← Except.ok.inj hchoice, hnone]
        refine ⟨⟨hbody, fun h => ?_, fun h => ?_⟩, rfl⟩
        · rw [htruthy] at h
          contradiction
        · rw [hnone] at h
          contradiction
  · rintro ⟨hshaped, rfl⟩
    cases htruthy : (data.getD "choices").truthy with
    | true =>
        obtain ⟨choice, rest, hchoices, hobject⟩ := hshaped.choices htruthy
        have hmessage := hshaped.message
        rw [firstMessage_of_arr hchoices] at hmessage ⊢
        refine ⟨_, ⟨hshaped.body, rfl⟩, choice, ?_, _, ⟨hobject, rfl⟩, _,
          ⟨isObject_or.mpr hmessage, rfl⟩, by rw [getD_or]⟩
        rw [Json.or_of_truthy _ htruthy, hchoices]
        rfl
    | false =>
        rw [firstMessage_of_not_truthy htruthy]
        refine ⟨_, ⟨hshaped.body, rfl⟩, .obj [], ?_, _, ⟨⟨[], rfl⟩, rfl⟩, _, ⟨⟨[], rfl⟩, rfl⟩, rfl⟩
        rw [Json.or_of_not_truthy _ htruthy]
        rfl

/-! ## Attempts -/

/-- The content of a body's first message is a text. -/
def HasText (data : Json) : Prop := isText ((firstMessage data).getD "content") = true

/-- The content of a body's first message, stripped. -/
def contentText (data : Json) : String :=
  match (firstMessage data).getD "content" with
  | .str s => strip s
  | _ => ""

section

variable [Python] [PythonFloat] [PythonLimits]

/-- A response that is asked for again. -/
def Reply.IsTransient : Reply → Prop
  | response status body =>
      status = 408 ∨ status = 429 ∨
        status < 400 ∧ ∃ data, body = .ok data ∧ Shaped data ∧ ¬ HasText data
  | _ => False

/-- A response whose body nests too deep to be read, or has another shape. -/
def Reply.IsMisshapen : Reply → Prop
  | response status body =>
      status < 400 ∧ (body = .error .recursion ∨ ∃ data, body = .ok data ∧ ¬ Shaped data)
  | _ => False

/-- A response with a text that nests too deep. -/
def Reply.IsNested : Reply → Prop
  | response status body =>
      status < 400 ∧ ∃ data, body = .ok data ∧ Shaped data ∧ HasText data ∧
        NestsTooDeep (contentText data)
  | _ => False

/-- What there is no handler for. -/
def Reply.IsFatal (self : Reply) : Prop := self.IsMisshapen ∨ self.IsNested

/-- What `decide` can go on with. -/
inductive Handled : Except Raised Json → Prop where
  | answered {data : Json} : Shaped data → HasText data → ¬ NestsTooDeep (contentText data) →
      Handled (.ok data)
  | timeout : Handled (.error .timeout)
  | service (text : String) : Handled (.error (.service text))

/-- What `decide` cannot go on with. -/
inductive Failed : Except Raised Json → Prop where
  | raised {raised : Raised} : raised.isUnhandled = true → Failed (.error raised)
  | nested {data : Json} : Shaped data → HasText data → NestsTooDeep (contentText data) →
      Failed (.ok data)

/-- What one attempt can come to. -/
inductive Attempted (reply : Reply) : Except Raised Json → Prop where
  | transient (text : String) : reply.IsTransient → Attempted reply (.error (.retryable text))
  | fatal {result : Except Raised Json} : reply.IsFatal → Failed result → Attempted reply result
  | handled {result : Except Raised Json} : ¬ reply.IsTransient → ¬ reply.IsFatal →
      Handled result → Attempted reply result
  | http (text : String) : ¬ reply.IsTransient → ¬ reply.IsFatal →
      Attempted reply (.error (.http text))
  | value (text : String) : ¬ reply.IsTransient → ¬ reply.IsFatal →
      Attempted reply (.error (.value text))

theorem attempted_body {status : Int} (hstatus : status < 400) (data : Json) :
    Attempted (.response status (.ok data))
      (completionContent data >>= fun content =>
        if !isText content then .error (.retryable "empty completion content") else pure data) := by
  have h408 : status ≠ 408 := by omega
  have h429 : status ≠ 429 := by omega
  have htransient : (Reply.response status (.ok data)).IsTransient ↔ Shaped data ∧ ¬ HasText data := by
    simp [Reply.IsTransient, h408, h429, hstatus]
  have hmisshapen : (Reply.response status (.ok data)).IsMisshapen ↔ ¬ Shaped data := by
    simp [Reply.IsMisshapen, hstatus]
  have hnested : (Reply.response status (.ok data)).IsNested ↔
      Shaped data ∧ HasText data ∧ NestsTooDeep (contentText data) := by
    simp [Reply.IsNested, hstatus]
  by_cases hshaped : Shaped data
  · have hcontent := completionContent_eq_ok_iff.mpr ⟨hshaped, rfl⟩
    rw [hcontent]
    show Attempted _ (if !isText (((firstMessage data).getD "content").or (.str "")) then _ else _)
    rw [isText_or]
    cases htext : isText ((firstMessage data).getD "content") with
    | true =>
        by_cases hdeep : NestsTooDeep (contentText data)
        · exact .fatal (.inr (hnested.mpr ⟨hshaped, htext, hdeep⟩)) (.nested hshaped htext hdeep)
        · refine .handled (fun h => (htransient.mp h).2 htext) ?_ (.answered hshaped htext hdeep)
          rintro (h | h)
          · exact hmisshapen.mp h hshaped
          · exact hdeep (hnested.mp h).2.2
    | false =>
        refine .transient _ (htransient.mpr ⟨hshaped, fun h => ?_⟩)
        rw [HasText, htext] at h
        contradiction
  · cases hcontent : completionContent data with
    | ok content => exact absurd (completionContent_eq_ok_iff.mp hcontent).1 hshaped
    | error raised =>
        exact .fatal (.inl (hmisshapen.mpr hshaped))
          (.raised (onlyUnhandled_completionContent data raised hcontent))

/-- Without a body that is read, there is no text. -/
theorem not_isFatal_of_value (status : Int) (text : String) :
    ¬ (Reply.response status (.error (.value text))).IsFatal := by
  rintro (⟨-, h | ⟨data, h, -⟩⟩ | ⟨-, data, h, -⟩)
  · cases h
  · contradiction
  · contradiction

theorem not_isFatal_of_status {status : Int} (h : status ≥ 400) (body : Except BodyError Json) :
    ¬ (Reply.response status body).IsFatal := by
  rintro (⟨hlow, -⟩ | ⟨hlow, -⟩)
  · exact absurd hlow (Int.not_lt.mpr h)
  · exact absurd hlow (Int.not_lt.mpr h)

theorem attempted (reply : Reply) : Attempted reply (attempt reply) := by
  have hnever : ¬ False := id
  cases reply with
  | deadline => exact .handled nofun (fun h => h.elim id id) .timeout
  | httpError text => exact .http text nofun fun h => h.elim id id
  | valueError text => exact .value text nofun fun h => h.elim id id
  | response status body =>
      show Attempted _ (if status = 408 ∨ status = 429 then _ else _)
      split
      case isTrue hretry => exact .transient _ (hretry.imp_right .inl)
      case isFalse hretry =>
        rw [not_or] at hretry
        split
        case isTrue hstatus =>
          refine .handled ?_ (not_isFatal_of_status hstatus body) (.service _)
          rintro (h408 | h429 | ⟨hlow, -⟩)
          · exact hretry.1 h408
          · exact hretry.2 h429
          · exact absurd hlow (Int.not_lt.mpr hstatus)
        case isFalse hstatus =>
          cases body with
          | ok data => exact attempted_body (Int.not_le.mp hstatus) data
          | error raised =>
              cases raised with
              | recursion => exact .fatal (.inl ⟨Int.not_le.mp hstatus, .inl rfl⟩) (.raised rfl)
              | value text =>
                  refine .value text ?_ (not_isFatal_of_value status text)
                  rintro (h408 | h429 | ⟨_, data, hdata, _⟩)
                  · exact hretry.1 h408
                  · exact hretry.2 h429
                  · contradiction

/-- The attempts from the `n`th on come to an answer that there is no handler for. -/
def Stumbles (replies : Nat → Reply) (left n : Nat) : Prop :=
  ∃ i < left, (∀ j < i, (replies (n + j)).IsTransient) ∧ (replies (n + i)).IsFatal

theorem stumbles_succ {replies : Nat → Reply} {left n : Nat} :
    Stumbles replies (left + 1) n ↔
      (replies n).IsFatal ∨ (replies n).IsTransient ∧ Stumbles replies left (n + 1) := by
  have hshift : ∀ i, n + (i + 1) = n + 1 + i := fun i => by omega
  constructor
  · rintro ⟨i, hi, hbefore, hfatal⟩
    cases i with
    | zero => exact .inl hfatal
    | succ i =>
        refine .inr ⟨hbefore 0 (Nat.succ_pos i), i, Nat.lt_of_succ_lt_succ hi, fun j hj => ?_, ?_⟩
        · exact hshift j ▸ hbefore (j + 1) (Nat.succ_lt_succ hj)
        · exact hshift i ▸ hfatal
  · rintro (hfatal | ⟨htransient, i, hi, hbefore, hfatal⟩)
    · exact ⟨0, Nat.succ_pos left, nofun, hfatal⟩
    · refine ⟨i + 1, Nat.succ_lt_succ hi, fun j hj => ?_, (hshift i).symm ▸ hfatal⟩
      cases j with
      | zero => exact htransient
      | succ j => exact (hshift j).symm ▸ hbefore j (Nat.lt_of_succ_lt_succ hj)

theorem Reply.IsTransient.not_isFatal {reply : Reply} (h : reply.IsTransient) :
    ¬ reply.IsFatal := by
  cases reply with
  | response status body =>
      intro hfatal
      rcases h with rfl | rfl | ⟨-, data, rfl, hshaped, htext⟩
      · exact not_isFatal_of_status (by decide) body hfatal
      · exact not_isFatal_of_status (by decide) body hfatal
      · rcases hfatal with ⟨-, h | ⟨data', hdata, hnot⟩⟩ | ⟨-, data', hdata, -, htext', -⟩
        · contradiction
        · exact hnot (Except.ok.inj hdata ▸ hshaped)
        · exact htext (Except.ok.inj hdata ▸ htext')
  | _ => contradiction

theorem not_stumbles {replies : Nat → Reply} {left n : Nat} (htransient : ¬ (replies n).IsTransient)
    (hfatal : ¬ (replies n).IsFatal) : ¬ Stumbles replies (left + 1) n := by
  rw [stumbles_succ]
  rintro (h | h)
  · exact hfatal h
  · exact htransient h.1

omit [Python] [PythonFloat] [PythonLimits] in
/-- What is raised and not handled is raised by the loop. -/
theorem attempts_of_unhandled {replies : Nat → Reply} {retries left n : Nat} {lastError : String}
    {raised : Raised} (h : attempt (replies n) = .error raised) (hraised : raised.isUnhandled = true) :
    attempts replies retries (left + 1) n lastError = .error raised := by
  rw [attempts, h]
  cases raised with
  | typeError | attributeError | keyError | indexError | recursion => rfl
  | _ => contradiction

/-- The attempts end in something handled, unless they stumble. -/
theorem attempts_cases (replies : Nat → Reply) (retries left n : Nat) (lastError : String) :
    ¬ Stumbles replies left n ∧ Handled (attempts replies retries left n lastError) ∨
      Stumbles replies left n ∧ Failed (attempts replies retries left n lastError) := by
  induction left generalizing n lastError with
  | zero => exact .inl ⟨fun ⟨i, hi, _⟩ => Nat.not_lt_zero i hi, .service _⟩
  | succ left ih =>
      have hattempted := attempted (replies n)
      generalize hresult : attempt (replies n) = result at hattempted
      cases hattempted with
      | transient text htransient =>
          have hnot := htransient.not_isFatal
          rw [stumbles_succ, attempts, hresult]
          simp only [hnot, htransient, false_or, true_and]
          exact ih (n + 1) text
      | fatal hfatal hfailed =>
          refine .inr ⟨stumbles_succ.mpr (.inl hfatal), ?_⟩
          cases hfailed with
          | raised hraised =>
              rw [attempts_of_unhandled hresult hraised]
              exact .raised hraised
          | nested hshaped htext hdeep =>
              rw [attempts, hresult]
              exact .nested hshaped htext hdeep
      | handled htransient hfatal hhandled =>
          refine .inl ⟨not_stumbles htransient hfatal, ?_⟩
          rw [attempts, hresult]
          cases hhandled with
          | answered hshaped htext hread => exact .answered hshaped htext hread
          | timeout => exact .timeout
          | service text => exact .service text
      | http text htransient hfatal =>
          refine .inl ⟨not_stumbles htransient hfatal, ?_⟩
          rw [attempts, hresult]
          exact .service _
      | value text htransient hfatal =>
          refine .inl ⟨not_stumbles htransient hfatal, ?_⟩
          rw [attempts, hresult]
          exact .service _

/-- A body with one choice. -/
def completion (content : String) : Json :=
  .obj [("choices", .arr [.obj [("message", .obj [("content", .str content)])]])]

theorem isFatal_list : (Reply.response 200 (.ok (.arr []))).IsFatal := by
  refine .inl ⟨by decide, .inr ⟨_, rfl, fun hshaped => ?_⟩⟩
  obtain ⟨fields, hfields⟩ := hshaped.body
  contradiction

/-- Open brackets are a text that nests too deep. -/
theorem isFatal_brackets {n : Nat} (h : PythonLimits.depth < n) :
    (Reply.response 200 (.ok (completion (String.ofList (List.replicate n '['))))).IsFatal := by
  have hdeep := nestsTooDeep_brackets h
  rw [← strip_brackets] at hdeep
  have htext : strip (String.ofList (List.replicate n '[')) ≠ "" := by
    rw [strip_brackets, ne_eq, String.ofList_eq_empty_iff, List.replicate_eq_nil_iff]
    exact Nat.ne_of_gt (Nat.zero_lt_of_lt h)
  generalize String.ofList (List.replicate n '[') = content at hdeep htext
  have hshaped : Shaped (completion content) :=
    ⟨⟨_, rfl⟩, fun _ => ⟨_, _, rfl, _, rfl⟩, fun _ => ⟨_, rfl⟩⟩
  have hhas : HasText (completion content) := bne_iff_ne.mpr htext
  exact .inr ⟨by decide, _, rfl, hshaped, hhas, hdeep⟩

end

/-! ## Decisions -/

/-- A text that is there is extracted. -/
theorem extractContentText_of_hasText {data : Json} (hshaped : Shaped data) (htext : HasText data) :
    extractContentText data = .ok (contentText data) := by
  have htruthy : (data.getD "choices").truthy = true := by
    by_contra hnot
    rw [Bool.not_eq_true] at hnot
    rw [HasText, firstMessage_of_not_truthy hnot] at htext
    contradiction
  obtain ⟨choice, rest, hchoices, hobject⟩ := hshaped.choices htruthy
  have hmessage := hshaped.message
  rw [HasText] at htext
  rw [firstMessage_of_arr hchoices] at hmessage htext
  have hbody := attrGet_eq_ok_iff.mpr ⟨hshaped.body, hchoices⟩
  have hchoice := attrGet_eq_ok_iff.mpr ⟨hobject, @rfl _ (choice.getD "message")⟩
  have hcontent := attrGet_eq_ok_iff.mpr ⟨isObject_or.mpr hmessage, getD_or _ "content"⟩
  have hreasoning := attrGet_eq_ok_iff.mpr ⟨isObject_or.mpr hmessage, getD_or _ "reasoning"⟩
  rw [contentText, firstMessage_of_arr hchoices]
  generalize (choice.getD "message").getD "content" = content at htext hcontent ⊢
  cases content with
  | str s =>
      have hne : strip s ≠ "" := by simpa [isText] using htext
      simp only [extractContentText, hbody, hchoice, hcontent, hreasoning, htext, bind, Except.bind,
        if_true, hne, if_false]
      rfl
  | _ => contradiction

section

variable [Python] [PythonTables] [PythonFloat] [PythonLimits] [PythonPrintable]

omit [PythonFloat] [PythonLimits] in
theorem decisionOf_cases (data : Dict Json) (rows : List Row) :
    (∃ decision, decisionOf data rows = .ok decision ∧ decision.format ∈ supportedFormats) ∨
      ∃ text, decisionOf data rows = .error (.invalidDecision text) := by
  unfold decisionOf
  split
  case h_1 rawFormat _ =>
    dsimp only
    split
    case isTrue => exact .inr ⟨_, rfl⟩
    case isFalse hformat =>
      split
      case isTrue => exact .inr ⟨_, rfl⟩
      case isFalse =>
        split
        case isTrue => exact .inr ⟨_, rfl⟩
        case isFalse =>
          split
          case isTrue => exact .inr ⟨_, rfl⟩
          case isFalse => exact .inl ⟨_, rfl, not_not.mp hformat⟩
  case h_2 => exact .inr ⟨_, rfl⟩

/-- A decision that is made has a supported format; nothing else but an
`_InvalidDecisionError` comes of an answer that is read. -/
theorem validateDecision_cases {contentText : String} (h : ¬ NestsTooDeep contentText)
    (rows : List Row) :
    (∃ decision, validateDecision contentText rows = .ok decision ∧
        decision.format ∈ supportedFormats) ∨
      ∃ text, validateDecision contentText rows = .error (.invalidDecision text) := by
  unfold validateDecision
  split
  case h_1 text _ => exact .inr ⟨text, rfl⟩
  case h_2 hparsed => exact absurd (parseJsonObject_eq_recursion_iff.mp hparsed) h
  case h_3 data _ => exact decisionOf_cases data rows

theorem validateDecision_of_nested {contentText : String} (h : NestsTooDeep contentText)
    (rows : List Row) : validateDecision contentText rows = .error .recursion := by
  rw [validateDecision, parseJsonObject_eq_recursion_iff.mpr h]

/-- Planning is asked for. -/
def ResultPresentationService.Plans (service : ResultPresentationService) (rows : List Row) : Prop :=
  service.enabled = true ∧ service.apiKey ≠ "" ∧ rows ≠ []

/-- What planning is to come to. -/
def PlansSafely (result : Except Raised (Option PresentationDecision)) : Prop :=
  ∃ decision, result = .ok decision ∧ ∀ d ∈ decision, d.format ∈ supportedFormats

omit [Python] [PythonTables] [PythonFloat] [PythonLimits] [PythonPrintable] in
theorem plansSafely_fallback (reason : String) :
    PlansSafely (.ok (some (fallbackDecision reason))) := by
  have htable : "table" ∈ supportedFormats := by decide
  exact ⟨_, rfl, fun d hd => Option.some_inj.mp hd ▸ htable⟩

/-- A service that is off, or has nothing to plan. -/
theorem decide_of_not_plans {service : ResultPresentationService} {rows : List Row}
    (h : ¬ service.Plans rows) (post : Request → Nat → Reply) (question : Option String)
    (sql : String) : service.decide post question sql rows = .ok none := by
  unfold ResultPresentationService.decide
  split
  case isTrue => rfl
  case isFalse henabled =>
    split
    case isTrue => rfl
    case isFalse hkey =>
      split
      case isTrue => rfl
      case isFalse hrows => exact absurd ⟨by simpa using henabled, hkey, hrows⟩ h

/-- An answer is planned with, or the table is shown. -/
theorem plansSafely_of_handled {service : ResultPresentationService} {rows : List Row}
    (hplans : service.Plans rows) {post : Request → Nat → Reply} {question : Option String}
    {sql : String}
    (h : Handled (service.complete post (buildContext service.limits question sql rows).prompt)) :
    PlansSafely (service.decide post question sql rows) := by
  obtain ⟨henabled, hkey, hrows⟩ := hplans
  unfold ResultPresentationService.decide
  rw [if_neg (by simp [henabled]), if_neg hkey, if_neg hrows]
  dsimp only
  generalize hresult : service.complete post
    (buildContext service.limits question sql rows).prompt = result at h
  cases h with
  | timeout => exact plansSafely_fallback _
  | service text => exact plansSafely_fallback _
  | answered hshaped htext hread =>
      simp only [extractContentText_of_hasText hshaped htext, bind, Except.bind]
      rcases validateDecision_cases hread
          (buildContext service.limits question sql rows).sampleRows with
        ⟨decision, hdecision, hformat⟩ | ⟨reason, hinvalid⟩
      · rw [hdecision]
        exact ⟨_, rfl, fun d hd => Option.some_inj.mp hd ▸ hformat⟩
      · rw [hinvalid]
        exact plansSafely_fallback _

theorem decide_of_failed {service : ResultPresentationService} {rows : List Row}
    (hplans : service.Plans rows) {post : Request → Nat → Reply} {question : Option String}
    {sql : String}
    (h : Failed (service.complete post (buildContext service.limits question sql rows).prompt)) :
    ∃ raised, service.decide post question sql rows = .error raised := by
  obtain ⟨henabled, hkey, hrows⟩ := hplans
  unfold ResultPresentationService.decide
  rw [if_neg (by simp [henabled]), if_neg hkey, if_neg hrows]
  dsimp only
  generalize hresult : service.complete post
    (buildContext service.limits question sql rows).prompt = result at h
  cases h with
  | @raised raised hraised =>
      refine ⟨raised, ?_⟩
      cases raised with
      | typeError | attributeError | keyError | indexError | recursion => rfl
      | _ => contradiction
  | nested hshaped htext hdeep =>
      refine ⟨.recursion, ?_⟩
      simp only [extractContentText_of_hasText hshaped htext, bind, Except.bind,
        validateDecision_of_nested hdeep]

end

/-! ## A list for a body -/

/-- Python whose floats are whole numbers, with the letters `IGNORECASE` adds. -/
@[reducible] def wholePython : Python :=
  { Python.folding with floatRepr := @Python.floatRepr Json.whole }

@[reducible] def wholeTables : @PythonTables wholePython :=
  let _ := wholePython
  let tables := PythonTables.folding
  { decimal := @PythonTables.decimal Python.folding tables
    decimal_ascii := @PythonTables.decimal_ascii Python.folding tables
    isAlnum_ascii := @PythonTables.isAlnum_ascii Python.folding tables
    isAlnum_folded := @PythonTables.isAlnum_folded Python.folding tables
    isAlnum_of_decimal := @PythonTables.isAlnum_of_decimal Python.folding tables
    isAlnum_of_isSpace := @PythonTables.isAlnum_of_isSpace Python.folding tables }

@[reducible] def wholeFloats : @PythonFloat wholePython :=
  let _ := wholePython
  let floats := Json.wholeFloat
  { isFloat := @PythonFloat.isFloat Json.whole floats
    float := @PythonFloat.float Json.whole floats
    addInt := @PythonFloat.addInt Json.whole floats
    float_repr := @PythonFloat.float_repr Json.whole floats
    scan_repr := @PythonFloat.scan_repr Json.whole floats }

@[reducible] def PythonPrintable.ascii : PythonPrintable := ⟨fun c => 32 ≤ c.toNat && c.toNat ≤ 126⟩

end DbGateway.Presentation
