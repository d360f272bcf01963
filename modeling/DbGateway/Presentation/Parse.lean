import DbGateway.Json.Limits

/-!
# DbGateway.Presentation.Parse

`services/result_presentation_service.py`: the JSON object in an answer of the
model, with a code fence or with prose around it.

A fence is cut at the next three backticks, also where they are part of the
object.  `parseJsonObject_wrap_iff` says that nothing else goes wrong with an
object that the interpreter can read.  What nests deeper than it can read is
not handled (`parseJsonObject_eq_recursion_iff`).
-/

namespace DbGateway.Presentation

open Json (PythonFloat PythonLimits loads loadsWithin)

/-! ## Parsing -/

/-- Three backticks. -/
def fenceMark : List Char := ['`', '`', '`']

/-- ``text.split("```", 1)[0]`` -/
def beforeFence : List Char → List Char
  | [] => []
  | c :: cs => if fenceMark.isPrefixOf (c :: cs) then [] else c :: beforeFence cs

/-- The text without the code fence around it. -/
def unfenced (cleaned : List Char) : List Char :=
  if fenceMark.isPrefixOf cleaned then
    let inner := beforeFence (cleaned.drop 3)
    let inner :=
      if "json".toList.isPrefixOf (inner.dropWhile isSpace) then
        (inner.dropWhile isSpace).drop 4
      else inner
    stripList isSpace inner
  else cleaned

/-- `_JSON_OBJECT_RE.search`, where it finds something. -/
def bracedPart (text : List Char) : List Char :=
  (text.dropWhile (· ≠ '\x7b')).rdropWhile (· ≠ '\x7d')

/-- What `_parse_json_object` raises. -/
inductive ParseError where
  /-- `_InvalidDecisionError` -/
  | invalid (text : String)
  /-- `RecursionError`, which is no `ValueError` -/
  | recursion

/-- `if not isinstance(parsed, dict)` -/
def asObject : Json → Except ParseError (Dict Json)
  | .obj fields => .ok fields
  | _ => .error (.invalid "response is not a JSON object")

/-- The text that `_parse_json_object` parses. -/
def cleanedText (text : String) : List Char := unfenced (stripList isSpace text.toList)

/-- `_parse_json_object` -/
def parseJsonObject [Python] [PythonFloat] [PythonLimits] (text : String) :
    Except ParseError (Dict Json) :=
  let cleaned := cleanedText text
  match loadsWithin cleaned with
  | .ok parsed => asObject parsed
  | .error .recursion => .error .recursion
  | .error .value =>
      if bracedPart cleaned = [] then .error (.invalid "response is not JSON")
      else
        match loadsWithin (bracedPart cleaned) with
        | .ok parsed => asObject parsed
        | .error .recursion => .error .recursion
        | .error .value => .error (.invalid "response is not JSON")

/-- The text nests too deep, or is not read and what is in its braces nests too deep. -/
def NestsTooDeep [Python] [PythonFloat] [PythonLimits] (text : String) : Prop :=
  Json.limit (cleanedText text) = some .depth ∨
    loadsWithin (cleanedText text) = .error .value ∧
      Json.limit (bracedPart (cleanedText text)) = some .depth

/-- What is read is an object, or refused. -/
theorem asObject_ne_recursion (parsed : Json) : asObject parsed ≠ .error .recursion := by
  cases parsed <;> simp [asObject]

theorem parseJsonObject_eq_recursion_iff [Python] [PythonFloat] [PythonLimits] {text : String} :
    parseJsonObject text = .error .recursion ↔ NestsTooDeep text := by
  rw [parseJsonObject, NestsTooDeep, ← Json.loadsWithin_eq_recursion_iff,
    ← Json.loadsWithin_eq_recursion_iff]
  generalize cleanedText text = cleaned
  cases hloads : loadsWithin cleaned with
  | ok parsed => simpa using asObject_ne_recursion parsed
  | error raised =>
      cases raised with
      | recursion => simp
      | value =>
          dsimp only
          split
          case isTrue hnil =>
            rw [hnil]
            simp [Json.loadsWithin_eq_recursion_iff, Json.limit_nil]
          case isFalse =>
            cases hbraced : loadsWithin (bracedPart cleaned) with
            | ok parsed => simpa using asObject_ne_recursion parsed
            | error raised => cases raised <;> simp

/-! ## Fences -/

theorem isPrefixOf_fenceMark {c : Char} {cs : List Char} (hc : c ≠ '`') :
    ¬ fenceMark.isPrefixOf (c :: cs) = true := by
  rw [List.isPrefixOf_iff_prefix]
  rintro ⟨tail, htail⟩
  exact hc (List.cons.inj htail).1.symm

/-- Nothing is cut in a text without a fence. -/
theorem beforeFence_append {front : List Char} (hfence : ¬ fenceMark <:+: front)
    (hlast : ∀ c ∈ front.getLast?, c ≠ '`') (rest : List Char) :
    beforeFence (front ++ rest) = front ++ beforeFence rest := by
  induction front with
  | nil => rfl
  | cons c front ih =>
      have hnot : ¬ fenceMark.isPrefixOf (c :: (front ++ rest)) = true := by
        rw [List.isPrefixOf_iff_prefix, ← List.cons_append]
        intro hprefix
        have hself := List.prefix_append (c :: front) rest
        rcases le_total fenceMark.length (c :: front).length with hle | hle
        · exact hfence (List.prefix_of_prefix_length_le hprefix hself hle).isInfix
        · -- the text would be backticks only
          have hticks := List.prefix_of_prefix_length_le hself hprefix hle
          have hmem := hticks.subset (List.getLast_mem (List.cons_ne_nil c front))
          refine hlast _ (List.getLast?_eq_some_getLast (List.cons_ne_nil c front)) ?_
          simpa [fenceMark] using hmem
      have htail : ∀ d ∈ front.getLast?, d ≠ '`' := by
        intro d hd
        refine hlast d ?_
        rw [List.getLast?_cons, Option.mem_def.mp hd]
        rfl
      rw [List.cons_append, beforeFence, if_neg hnot,
        ih (fun h => hfence (h.trans (List.suffix_cons c front).isInfix)) htail]
      rfl

theorem beforeFence_append_of_notMem {front : List Char} (h : '`' ∉ front) (rest : List Char) :
    beforeFence (front ++ rest) = front ++ beforeFence rest := by
  refine beforeFence_append (fun hfence => h (hfence.subset List.mem_cons_self)) ?_ rest
  intro c hc hbacktick
  exact h (hbacktick ▸ List.mem_of_getLast? hc)

/-- A text with a fence in it is cut within. -/
theorem beforeFence_infix {text : List Char} (hfence : fenceMark <:+: text) (back : List Char) :
    ∃ x, x ≠ [] ∧ text = beforeFence (text ++ back) ++ x := by
  induction text with
  | nil => exact absurd (List.infix_nil.mp hfence) (by decide)
  | cons c text ih =>
      rw [List.cons_append, beforeFence]
      split
      case isTrue => exact ⟨c :: text, List.cons_ne_nil _ _, rfl⟩
      case isFalse hnot =>
        rcases List.infix_cons_iff.mp hfence with hprefix | hinfix
        · refine absurd (List.isPrefixOf_iff_prefix.mpr ?_) hnot
          exact hprefix.trans (List.prefix_append (c :: text) back)
        · obtain ⟨x, hx, htext⟩ := ih hinfix
          exact ⟨x, hx, by rw [List.cons_append, ← htext]⟩

theorem strip_brackets (n : Nat) :
    strip (String.ofList (List.replicate n '[')) = String.ofList (List.replicate n '[') := by
  have hspace : isSpace '[' = false := rfl
  simp [strip, stripChars, stripList, hspace]

/-- A text of nothing but open brackets nests too deep, if there are enough of them. -/
theorem nestsTooDeep_brackets [Python] [PythonFloat] [PythonLimits] {n : Nat}
    (h : PythonLimits.depth < n) : NestsTooDeep (String.ofList (List.replicate n '[')) := by
  have hcleaned : cleanedText (String.ofList (List.replicate n '[')) = List.replicate n '[' := by
    have hstrip := congrArg String.toList (strip_brackets n)
    rw [strip, stripChars, String.toList_ofList, String.toList_ofList] at hstrip
    obtain ⟨m, rfl⟩ := Nat.exists_eq_succ_of_ne_zero (Nat.ne_of_gt (Nat.zero_lt_of_lt h))
    rw [cleanedText, String.toList_ofList, hstrip, List.replicate_succ, unfenced,
      if_neg (isPrefixOf_fenceMark (by decide))]
  rw [NestsTooDeep, hcleaned]
  exact .inl (Json.limit_replicate h)

/-! ## Wrappers -/

/-- Characters that `str.strip` takes away. -/
abbrev Spaces := {cs : List Char // ∀ c ∈ cs, isSpace c = true}

/-- Text without braces, brackets, quotes and backticks. -/
abbrev Prose :=
  {cs : List Char // ∀ c ∈ cs, c ∉ ['\x7b', '\x7d', '[', ']', '"', '\'', '`']}

/-- What stands around an object. -/
inductive Wrapper where
  | spaces (before after : Spaces)
  | fence (tagged : Bool) (before opening closing after : Spaces)
  | prose (before after : Prose)

namespace Wrapper

/-- `json`, where the fence is tagged. -/
def tag (tagged : Bool) : List Char := if tagged then "json".toList else []

def wrap (text : List Char) : Wrapper → List Char
  | spaces before after => before.1 ++ (text ++ after.1)
  | fence tagged before opening closing after =>
      before.1 ++ ((fenceMark ++ (tag tagged ++ (opening.1 ++ (text ++
        (closing.1 ++ fenceMark))))) ++ after.1)
  | prose before after => before.1 ++ (text ++ after.1)

def isFence : Wrapper → Bool
  | fence .. => true
  | _ => false

end Wrapper

/-- A text that an object is read from, with nothing around it. -/
structure Serialization [Python] [PythonFloat] [PythonLimits] (fields : Dict Json) where
  text : List Char
  loads : Json.loads (String.ofList text) = some (.obj fields)
  /-- No bracket is too deep and no integer too long for the interpreter. -/
  within : Json.limit text = none
  trimmed : stripList isSpace text = text

section

variable [Python] [PythonFloat] [PythonLimits] {fields : Dict Json}

omit [Python] [PythonFloat] [PythonLimits] in
theorem isSpace_of_isBlank {c : Char} (h : Json.isBlank c = true) : isSpace c = true := by
  simp only [Json.isBlank, Bool.or_eq_true, decide_eq_true_eq] at h
  rcases h with ((rfl | rfl) | rfl) | rfl <;> rfl

omit [Python] [PythonFloat] [PythonLimits] in
/-- A text that is stripped has no space at its ends. -/
theorem ends_of_stripped {text : List Char} (h : stripList isSpace text = text) :
    (∀ c ∈ text.head?, isSpace c = false) ∧ ∀ c ∈ text.getLast?, isSpace c = false := by
  have hstrip : (text.dropWhile isSpace).rdropWhile isSpace = text := h
  constructor
  · intro c hc
    have hprefix : text <+: text.dropWhile isSpace := by
      have hdrop := List.rdropWhile_prefix isSpace (text.dropWhile isSpace)
      rwa [hstrip] at hdrop
    have hhead := List.head?_dropWhile_not isSpace text
    obtain ⟨x, hx⟩ := hprefix
    rw [← hx, List.head?_append, Option.mem_def.mp hc] at hhead
    simpa using hhead
  · intro c hc
    have hlast := List.rdropWhile_last_not isSpace (text.dropWhile isSpace)
    rw [hstrip] at hlast
    have hne : text ≠ [] := by
      rintro rfl
      contradiction
    rw [List.getLast?_eq_some_getLast hne] at hc
    exact Option.some_inj.mp hc ▸ Bool.eq_false_iff.mpr (hlast hne)

theorem Serialization.isObjectText (s : Serialization fields) : Json.IsObjectText s.text fields := by
  obtain ⟨hfirst, hlast⟩ := ends_of_stripped s.trimmed
  have hblank : ∀ {c : Char}, isSpace c = false → Json.isBlank c = false := by
    intro c hc
    by_contra hblank
    rw [Bool.not_eq_false] at hblank
    rw [isSpace_of_isBlank hblank] at hc
    contradiction
  exact Json.isObjectText_of_loads s.loads (fun c hc => hblank (hfirst c hc))
    fun c hc => hblank (hlast c hc)

/-! ## What is parsed -/

section

variable {input cleaned text : List Char} (hcleaned : unfenced (stripList isSpace input) = cleaned)

include hcleaned

theorem parseJsonObject_of_loads (hloads : loadsWithin cleaned = .ok (.obj fields)) :
    parseJsonObject (String.ofList input) = .ok fields := by
  simp only [parseJsonObject, cleanedText, String.toList_ofList, hcleaned, hloads]
  rfl

theorem parseJsonObject_of_bracedPart (hloads : loadsWithin cleaned = .error .value)
    (hbraced : bracedPart cleaned = text) (htext : loadsWithin text = .ok (.obj fields))
    (hne : text ≠ []) : parseJsonObject (String.ofList input) = .ok fields := by
  simp only [parseJsonObject, cleanedText, String.toList_ofList, hcleaned, hloads, hbraced, hne,
    if_false, htext]
  rfl

theorem parseJsonObject_fails (hloads : loads (String.ofList cleaned) = none)
    (hbraced : bracedPart cleaned ≠ [] → loads (String.ofList (bracedPart cleaned)) = none) :
    parseJsonObject (String.ofList input) ≠ .ok fields := by
  have hunread : ∀ {text : List Char} {v : Json}, loads (String.ofList text) = none →
      loadsWithin text ≠ .ok v := by
    intro text v hnone hok
    rw [(Json.loadsWithin_eq_ok_iff.mp hok).2] at hnone
    contradiction
  simp only [parseJsonObject, cleanedText, String.toList_ofList, hcleaned]
  split
  case h_1 hok => exact absurd hok (hunread hloads)
  case h_2 => nofun
  case h_3 =>
    split
    case isTrue => nofun
    case isFalse hne =>
      split
      case h_1 hok => exact absurd hok (hunread (hbraced hne))
      case h_2 => nofun
      case h_3 => nofun

end

/-- The object is read from its text. -/
theorem Serialization.loadsWithin (s : Serialization fields) :
    Json.loadsWithin s.text = .ok (.obj fields) :=
  Json.loadsWithin_eq_ok_iff.mpr ⟨s.within, s.loads⟩

theorem Serialization.ne_nil (s : Serialization fields) : s.text ≠ [] := by
  obtain ⟨body, hbody⟩ := s.isObjectText.braces
  rw [hbody]
  exact List.cons_ne_nil _ _

/-- The braces at the ends of an object's text. -/
structure Braced (text : List Char) : Prop where
  ne_nil : text ≠ []
  first : ∀ c ∈ text.head?, c = '\x7b'
  last : ∀ c ∈ text.getLast?, c = '\x7d'

omit [Python] [PythonFloat] [PythonLimits] in
theorem braced_of_braces {text : List Char} (h : ∃ body, text = '\x7b' :: (body ++ ['\x7d'])) :
    Braced text := by
  obtain ⟨body, rfl⟩ := h
  refine ⟨List.cons_ne_nil _ _, fun c hc => (Option.some_inj.mp hc).symm, fun c hc => ?_⟩
  rw [← List.cons_append, List.getLast?_append_of_ne_nil _ (List.cons_ne_nil _ _)] at hc
  exact (Option.some_inj.mp hc).symm

omit [Python] [PythonFloat] [PythonLimits] in
/-- What stands around an object is stripped by itself. -/
theorem Braced.strip {text : List Char} (h : Braced text) (front back : List Char) :
    stripList isSpace (front ++ (text ++ back)) =
      front.dropWhile isSpace ++ (text ++ back.rdropWhile isSpace) :=
  stripList_append h.ne_nil (fun c hc => h.first c hc ▸ rfl) fun c hc => h.last c hc ▸ rfl

omit [Python] [PythonFloat] [PythonLimits] in
theorem dropWhile_spaces (spaces : Spaces) : spaces.1.dropWhile isSpace = [] :=
  List.dropWhile_eq_nil_iff.mpr spaces.2

omit [Python] [PythonFloat] [PythonLimits] in
theorem rdropWhile_spaces (spaces : Spaces) : spaces.1.rdropWhile isSpace = [] :=
  List.rdropWhile_eq_nil_iff.mpr spaces.2

omit [Python] [PythonFloat] [PythonLimits] in
theorem Braced.unfenced {text : List Char} (h : Braced text) (back : List Char) :
    unfenced (text ++ back) = text ++ back := by
  obtain ⟨c, cs, rfl⟩ := List.exists_cons_of_ne_nil h.ne_nil
  rw [Presentation.unfenced, List.cons_append, if_neg (isPrefixOf_fenceMark ?_)]
  rw [h.first c rfl]
  decide

/-- An object with white space around it. -/
theorem parse_spaces (s : Serialization fields) (before after : Spaces) :
    parseJsonObject (String.ofList ((Wrapper.spaces before after).wrap s.text)) = .ok fields := by
  have hbraced := braced_of_braces s.isObjectText.braces
  refine parseJsonObject_of_loads ?_ s.loadsWithin
  have hunfenced := hbraced.unfenced []
  rw [List.append_nil] at hunfenced
  rw [Wrapper.wrap, hbraced.strip, dropWhile_spaces, rdropWhile_spaces, List.nil_append,
    List.append_nil, hunfenced]

omit [Python] [PythonFloat] [PythonLimits] in
/-- The braces of an object are the outermost ones in prose. -/
theorem Braced.bracedPart {text front back : List Char} (h : Braced text)
    (hfront : ∀ c ∈ front, c ≠ '\x7b') (hback : ∀ c ∈ back, c ≠ '\x7d') :
    bracedPart (front ++ (text ++ back)) = text := by
  have hfirst : ∀ c ∈ (text ++ back).head?, decide (c ≠ '\x7b') = false := by
    rw [List.head?_append_of_ne_nil _ h.ne_nil]
    exact fun c hc => decide_eq_false (not_not.mpr (h.first c hc))
  have hlast : ∀ c ∈ text.getLast?, decide (c ≠ '\x7d') = false :=
    fun c hc => decide_eq_false (not_not.mpr (h.last c hc))
  have hfront' : front.dropWhile (fun c => decide (c ≠ '\x7b')) = [] :=
    List.dropWhile_eq_nil_iff.mpr fun c hc => decide_eq_true (hfront c hc)
  have hback' : back.rdropWhile (fun c => decide (c ≠ '\x7d')) = [] :=
    List.rdropWhile_eq_nil_iff.mpr fun c hc => decide_eq_true (hback c hc)
  rw [Presentation.bracedPart, dropWhile_append_of_head hfirst, hfront', List.nil_append,
    rdropWhile_append_of_last hlast, hback', List.append_nil]

/-- An object with prose around it. -/
theorem parse_prose (s : Serialization fields) (before after : Prose) :
    parseJsonObject (String.ofList ((Wrapper.prose before after).wrap s.text)) = .ok fields := by
  have hbraced := braced_of_braces s.isObjectText.braces
  have hfront : ∀ c ∈ before.1.dropWhile isSpace,
      c ∉ ['\x7b', '\x7d', '[', ']', '"', '\'', '`'] :=
    fun c hc => before.2 c ((List.dropWhile_sublist _).subset hc)
  have hback : ∀ c ∈ after.1.rdropWhile isSpace, c ≠ '\x7d' := by
    intro c hc hbrace
    exact after.2 c ((List.rdropWhile_prefix _ _).subset hc) (by rw [hbrace]; decide)
  have hpart := hbraced.bracedPart (fun c hc hbrace => hfront c hc (by rw [hbrace]; decide)) hback
  have hstrip := hbraced.strip before.1 after.1
  cases hdrop : before.1.dropWhile isSpace with
  | nil =>
      rw [hdrop, List.nil_append] at hstrip hpart
      have hcleaned : unfenced (stripList isSpace ((Wrapper.prose before after).wrap s.text)) =
          s.text ++ after.1.rdropWhile isSpace := by
        rw [Wrapper.wrap, hstrip, hbraced.unfenced]
      have hwithin : Json.limit (s.text ++ after.1.rdropWhile isSpace) = none :=
        (s.isObjectText.limit_append _).trans s.within
      cases hloads : loads (String.ofList (s.text ++ after.1.rdropWhile isSpace)) with
      | none =>
          have hunread := Json.loadsWithin_of_not_read (by rw [hwithin]; simp) hloads
          exact parseJsonObject_of_bracedPart hcleaned hunread hpart s.loadsWithin s.ne_nil
      | some v =>
          rw [s.isObjectText.eq_of_loads_append hloads] at hloads
          exact parseJsonObject_of_loads hcleaned (Json.loadsWithin_eq_ok_iff.mpr ⟨hwithin, hloads⟩)
  | cons c front =>
      rw [hdrop] at hstrip hpart hfront
      have hc := hfront c List.mem_cons_self
      have hspace : isSpace c = false := by
        have hhead := List.head?_dropWhile_not isSpace before.1
        rw [hdrop] at hhead
        simpa using hhead
      have hblank : Json.isBlank c = false := by
        by_contra hblank
        rw [Bool.not_eq_false] at hblank
        rw [isSpace_of_isBlank hblank] at hspace
        contradiction
      have hbacktick : c ≠ '`' := fun h => hc (by rw [h]; decide)
      have hcleaned : unfenced (stripList isSpace ((Wrapper.prose before after).wrap s.text)) =
          c :: (front ++ (s.text ++ after.1.rdropWhile isSpace)) := by
        rw [Wrapper.wrap, hstrip, List.cons_append, unfenced, if_neg (isPrefixOf_fenceMark hbacktick)]
      have hmem : '\x7b' ∈ front ++ (s.text ++ after.1.rdropWhile isSpace) := by
        obtain ⟨body, hbody⟩ := s.isObjectText.braces
        rw [hbody]
        simp
      have hbracket : c ≠ '[' := fun h => hc (by rw [h]; decide)
      have hbrace : c ≠ '\x7b' := fun h => hc (by rw [h]; decide)
      have hloads := Json.loads_brace hblank ⟨fun h => hc (by rw [h]; decide), hbracket, hbrace⟩ hmem
      have hunread := Json.loadsWithin_of_not_read (Json.limit_ne_depth hblank ⟨hbracket, hbrace⟩) hloads
      exact parseJsonObject_of_bracedPart hcleaned hunread hpart s.loadsWithin s.ne_nil

omit [Python] [PythonFloat] [PythonLimits] in
/-- The tag of a fence is taken away. -/
theorem untagged {opening text : List Char} (tagged : Bool) (hopening : ∀ c ∈ opening, isSpace c = true)
    (htext : text.head? = some '\x7b') :
    stripList isSpace
        (if "json".toList.isPrefixOf ((Wrapper.tag tagged ++ (opening ++ text)).dropWhile isSpace) then
          ((Wrapper.tag tagged ++ (opening ++ text)).dropWhile isSpace).drop 4
        else Wrapper.tag tagged ++ (opening ++ text)) =
      text.rdropWhile isSpace := by
  have hhead : ∀ c ∈ text.head?, isSpace c = false := by
    intro c hc
    rw [htext] at hc
    exact Option.some_inj.mp hc ▸ rfl
  have hdrop : (opening ++ text).dropWhile isSpace = text := by
    rw [dropWhile_append_of_head hhead, List.dropWhile_eq_nil_iff.mpr hopening, List.nil_append]
  have hstrip : stripList isSpace (opening ++ text) = text.rdropWhile isSpace := by
    show ((opening ++ text).dropWhile isSpace).rdropWhile isSpace = _
    rw [hdrop]
  cases tagged with
  | true =>
      have htag : (Wrapper.tag true ++ (opening ++ text)).dropWhile isSpace =
          "json".toList ++ (opening ++ text) := rfl
      have hrest : ("json".toList ++ (opening ++ text)).drop 4 = opening ++ text := rfl
      rw [htag, if_pos (List.isPrefixOf_iff_prefix.mpr (List.prefix_append _ _)), hrest, hstrip]
  | false =>
      have htag : Wrapper.tag false ++ (opening ++ text) = opening ++ text := rfl
      rw [htag, hdrop, if_neg, hstrip]
      rw [List.isPrefixOf_iff_prefix]
      rintro ⟨rest, rfl⟩
      exact absurd (Option.some_inj.mp htext) (by decide)

omit [Python] [PythonFloat] [PythonLimits] in
theorem notMem_of_spaces (spaces : Spaces) : '`' ∉ spaces.1 :=
  fun h => absurd (spaces.2 _ h) (by decide)

omit [Python] [PythonFloat] [PythonLimits] in
theorem notMem_tag (tagged : Bool) : '`' ∉ Wrapper.tag tagged := by
  cases tagged <;> decide

omit [Python] [PythonFloat] [PythonLimits] in
/-- What is left of a fence: the text up to the next one, without the tag. -/
theorem unfenced_fence {body : List Char} (tagged : Bool) (before opening after : Spaces)
    (hbody : (beforeFence body).head? = some '\x7b') (hlast : body.getLast? = some '`') :
    unfenced (stripList isSpace (before.1 ++
        ((fenceMark ++ (Wrapper.tag tagged ++ (opening.1 ++ body))) ++ after.1))) =
      (beforeFence body).rdropWhile isSpace := by
  have hne : body ≠ [] := by
    rintro rfl
    contradiction
  have hlast' : ∀ c ∈ (fenceMark ++ (Wrapper.tag tagged ++ (opening.1 ++ body))).getLast?,
      isSpace c = false := by
    intro c hc
    rw [← List.append_assoc, ← List.append_assoc, List.getLast?_append_of_ne_nil _ hne, hlast] at hc
    exact Option.some_inj.mp hc ▸ rfl
  have hfirst : ∀ c ∈ (fenceMark ++ (Wrapper.tag tagged ++ (opening.1 ++ body))).head?,
      isSpace c = false := fun c hc => Option.some_inj.mp hc ▸ rfl
  have hinner : beforeFence (Wrapper.tag tagged ++ (opening.1 ++ body)) =
      Wrapper.tag tagged ++ (opening.1 ++ beforeFence body) := by
    rw [beforeFence_append_of_notMem (notMem_tag tagged),
      beforeFence_append_of_notMem (notMem_of_spaces opening)]
  have hopen : fenceMark ++ (Wrapper.tag tagged ++ (opening.1 ++ body)) ≠ [] := List.cons_ne_nil _ _
  have hdrop : (fenceMark ++ (Wrapper.tag tagged ++ (opening.1 ++ body))).drop 3 =
      Wrapper.tag tagged ++ (opening.1 ++ body) := rfl
  rw [stripList_append hopen hfirst hlast', dropWhile_spaces, rdropWhile_spaces,
    List.nil_append, List.append_nil, unfenced,
    if_pos (List.isPrefixOf_iff_prefix.mpr (List.prefix_append _ _)), hdrop, hinner]
  exact untagged tagged opening.2 hbody

/-! ### In a fence -/

omit [Python] [PythonFloat] [PythonLimits] in
/-- The text between the marks of a fence. -/
theorem unfenced_wrap {text : List Char} (tagged : Bool) (before opening closing after : Spaces)
    (hhead : (beforeFence (text ++ (closing.1 ++ fenceMark))).head? = some '\x7b') :
    unfenced (stripList isSpace ((Wrapper.fence tagged before opening closing after).wrap text)) =
      (beforeFence (text ++ (closing.1 ++ fenceMark))).rdropWhile isSpace := by
  refine unfenced_fence tagged before opening after hhead ?_
  have hmark : fenceMark ≠ [] := List.cons_ne_nil _ _
  rw [← List.append_assoc, List.getLast?_append_of_ne_nil _ hmark]
  rfl

/-- An object in a fence, without a fence in it. -/
theorem parse_fence (s : Serialization fields) (tagged : Bool)
    (before opening closing after : Spaces) (hfence : ¬ fenceMark <:+: s.text) :
    parseJsonObject (String.ofList ((Wrapper.fence tagged before opening closing after).wrap s.text)) =
      .ok fields := by
  have hbraced := braced_of_braces s.isObjectText.braces
  have hlast : ∀ c ∈ s.text.getLast?, c ≠ '`' := by
    intro c hc hbacktick
    exact absurd (hbraced.last c hc) (by rw [hbacktick]; decide)
  have hcut : beforeFence (s.text ++ (closing.1 ++ fenceMark)) = s.text ++ closing.1 := by
    rw [beforeFence_append hfence hlast, beforeFence_append_of_notMem (notMem_of_spaces closing)]
    rw [show beforeFence fenceMark = [] from rfl, List.append_nil]
  refine parseJsonObject_of_loads ?_ s.loadsWithin
  rw [unfenced_wrap, hcut, rdropWhile_append_of_last, rdropWhile_spaces, List.append_nil]
  · exact fun c hc => hbraced.last c hc ▸ rfl
  · obtain ⟨body, hbody⟩ := s.isObjectText.braces
    rw [hcut, hbody]
    rfl

/-- An object in a fence, with a fence in it. -/
theorem parse_fence_fails (s : Serialization fields) (tagged : Bool)
    (before opening closing after : Spaces) (hfence : fenceMark <:+: s.text) :
    parseJsonObject (String.ofList ((Wrapper.fence tagged before opening closing after).wrap s.text)) ≠
      .ok fields := by
  obtain ⟨body, hbody⟩ := s.isObjectText.braces
  obtain ⟨x, hx, hsplit⟩ := beforeFence_infix hfence (closing.1 ++ fenceMark)
  have hhead : (beforeFence (s.text ++ (closing.1 ++ fenceMark))).head? = some '\x7b' := by
    rw [hbody, List.cons_append, beforeFence, if_neg (isPrefixOf_fenceMark (by decide))]
    rfl
  have hcleaned := unfenced_wrap tagged before opening closing after hhead
  generalize beforeFence (s.text ++ (closing.1 ++ fenceMark)) = inner at hsplit hhead hcleaned
  have hstart : ∀ c ∈ inner.head?, c = '\x7b' := by
    intro c hc
    rw [hhead] at hc
    exact (Option.some_inj.mp hc).symm
  -- what the fence cuts short is no document, nor is any part of it
  have hpart : ∀ {part : List Char}, part <+: inner → part ≠ [] →
      loads (String.ofList part) = none := by
    rintro part ⟨rest, rfl⟩ hne
    refine s.isObjectText.loads_prefix (x := rest ++ x) ?_ hne ?_
    · rw [hsplit, List.append_assoc]
    · exact fun hnil => hx (List.append_eq_nil_iff.mp hnil).2
  have hcut : inner.rdropWhile isSpace ≠ [] := by
    intro hnil
    have hmem : '\x7b' ∈ inner := List.mem_of_mem_head? hhead
    exact absurd (List.rdropWhile_eq_nil_iff.mp hnil _ hmem) (by decide)
  have hprefix := List.rdropWhile_prefix isSpace inner
  refine parseJsonObject_fails hcleaned (hpart hprefix hcut) fun hne => hpart ?_ hne
  have hfirst : ∀ c ∈ (inner.rdropWhile isSpace).head?, decide (c ≠ '\x7b') = false := by
    intro c hc
    obtain ⟨rest, hrest⟩ := hprefix
    refine decide_eq_false (not_not.mpr (hstart c ?_))
    rw [← hrest, List.head?_append, Option.mem_def.mp hc]
    rfl
  have hwhole : (inner.rdropWhile isSpace).dropWhile (fun c => decide (c ≠ '\x7b')) =
      inner.rdropWhile isSpace := by
    have hempty := @dropWhile_append_of_head _ [] _ hfirst
    rwa [List.nil_append] at hempty
  rw [bracedPart, hwhole]
  exact (List.rdropWhile_prefix _ _).trans hprefix

/-- **Tolerant JSON parsing is faithful**, but for a fence around an object
with three backticks in it. -/
theorem parseJsonObject_wrap_iff (s : Serialization fields) (wrapper : Wrapper) :
    parseJsonObject (String.ofList (wrapper.wrap s.text)) = .ok fields ↔
      ¬ (wrapper.isFence = true ∧ fenceMark <:+: s.text) := by
  cases wrapper with
  | spaces before after => exact iff_of_true (parse_spaces s before after) fun h => nomatch h.1
  | prose before after => exact iff_of_true (parse_prose s before after) fun h => nomatch h.1
  | fence tagged before opening closing after =>
      by_cases hfence : fenceMark <:+: s.text
      · exact iff_of_false (parse_fence_fails s tagged before opening closing after hfence)
          fun h => h ⟨rfl, hfence⟩
      · exact iff_of_true (parse_fence s tagged before opening closing after hfence)
          fun h => hfence h.2

end

/-- What `json.dumps` writes is a serialization. -/
def Serialization.ofDumps [Python] [PythonFloat] [PythonLimits] (sep : Json.Separators)
    {fields : Dict Json} (h : Json.Proper (.obj fields))
    (hwithin : Json.limit (Json.print sep (.obj fields)) = none) : Serialization fields where
  text := Json.print sep (.obj fields)
  loads := Json.loads_dumps sep h
  within := hwithin
  trimmed := by
    have hbraced := @braced_of_braces (Json.print sep (.obj fields)) ⟨_, rfl⟩
    have hstrip := hbraced.strip [] []
    rwa [List.append_nil, List.dropWhile_nil, List.nil_append, List.nil_append,
      List.rdropWhile_nil, List.append_nil] at hstrip

/-- An object that holds three backticks, in a plain fence. -/
theorem not_parseJsonObject_fence :
    letI := Json.whole
    letI := Json.wholeFloat
    letI := PythonLimits.default
    ¬ ∀ (fields : Dict Json) (s : Serialization fields) (wrapper : Wrapper),
      parseJsonObject (String.ofList (wrapper.wrap s.text)) = .ok fields := by
  let _ := Json.whole
  let _ := Json.wholeFloat
  let _ := PythonLimits.default
  intro h
  have hproper : Json.Proper (.obj [("content", .str "```")]) :=
    ⟨by decide, Json.properFields_iff.mpr (by simp [Json.Proper])⟩
  let s := Serialization.ofDumps .default hproper (by decide)
  let none : Spaces := ⟨[], nofun⟩
  have hfence : fenceMark <:+: s.text := by
    show fenceMark <:+: Json.print .default (.obj [("content", .str "```")])
    decide
  exact parse_fence_fails s false none none none none hfence
    (h _ s (.fence false none none none none))

end DbGateway.Presentation
