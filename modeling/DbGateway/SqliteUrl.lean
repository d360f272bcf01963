import DbGateway.Url

/-!
# DbGateway.SqliteUrl

Which database an SQLite URL denotes.

The query is the rest of a line, read as `urllib.parse.parse_qsl` reads it.
SQLAlchemy takes what stands between the first slash and the query for the name
of a file; where the query says `uri=true`, a name that begins with `file:` is a
URI filename of SQLite, with escapes, an authority and a fragment, which ends it
before the parameters.

What the driver makes of a name and a query is a parameter, with what is
documented of it (`SqliteDriver`).
-/

namespace DbGateway.SqliteUrl

open Url (partition isHexDigit)

/-! ## Separators -/

/-- `text.split(sep, 1)` of a text with the separator. -/
def splitOnce (sep : List Char) : List Char → List Char × List Char
  | [] => ([], [])
  | c :: cs =>
      if sep.isPrefixOf (c :: cs) then ([], (c :: cs).drop sep.length)
      else ((c :: (splitOnce sep cs).1), (splitOnce sep cs).2)

theorem forall_ne_of_notMem {sep : Char} {text : List Char} (h : sep ∉ text) :
    ∀ c ∈ text, decide (c ≠ sep) = true :=
  fun _ hc => decide_eq_true fun heq => h (heq ▸ hc)

/-- What follows the scheme of a URL. -/
def afterScheme (url : List Char) : List Char := (splitOnce "://".toList url).2

/-! ## Queries -/

/-- `urllib.parse.unquote_plus`, which only changes what has a `%` or a `+`. -/
class PythonQuery where
  unquotePlus : List Char → List Char
  unquotePlus_plain : ∀ text, '%' ∉ text → '+' ∉ text → unquotePlus text = text

export PythonQuery (unquotePlus)

/-- For texts with neither. -/
@[reducible] def PythonQuery.plain : PythonQuery where
  unquotePlus := id
  unquotePlus_plain _ _ _ := rfl

/-- The fields of a query in their order. -/
abbrev Query := List (List Char × List Char)

/-- The values of a field. -/
def Query.values (query : Query) (name : String) : List (List Char) :=
  (query.filter (·.1 = name.toList)).map Prod.snd

@[simp] theorem Query.values_append (query added : Query) (name : String) :
    Query.values (query ++ added) name = query.values name ++ added.values name := by
  rw [values, List.filter_append, List.map_append]
  rfl

section

variable [PythonQuery]

/-- A field without a value is left out. -/
def parseField (field : List Char) : Option (List Char × List Char) :=
  let (name, found, value) := partition '=' field
  if found && value ≠ [] then some (unquotePlus name, unquotePlus value) else none

/-- `parse_qsl` -/
def parseQsl (query : List Char) : Query := (query.splitOn '&').filterMap parseField

theorem parseQsl_append (query added : List Char) :
    parseQsl (query ++ '&' :: added) = parseQsl query ++ parseQsl added := by
  rw [parseQsl, List.splitOn_append_cons_self, List.filterMap_append]
  rfl

end

section

variable [Python]

/-- SQLAlchemy's `asbool`; `none` is a `ValueError`. -/
def asBool (text : List Char) : Option Bool :=
  let word := lower (strip (String.ofList text))
  if word ∈ ["true", "yes", "on", "y", "t", "1"] then some true
  else if word ∈ ["false", "no", "off", "n", "f", "0"] then some false
  else none

/-- Whether the driver reads URI filenames.  Several values are a tuple, and so
true. -/
def Query.uri (query : Query) : Option Bool :=
  match query.values "uri" with
  | [] => some false
  | [value] => asBool value
  | _ => some true

end

/-- What the driver itself takes from the query. -/
def driverParameters : List String :=
  ["uri", "timeout", "isolation_level", "detect_types", "check_same_thread", "cached_statements"]

/-- What it leaves to SQLite. -/
def Query.options (query : Query) : Query :=
  query.filter fun field => String.ofList field.1 ∉ driverParameters

/-! ## File names -/

/-- The bytes of a name. -/
def utf8 (text : List Char) : List UInt8 := text.flatMap String.utf8EncodeChar

theorem utf8_append (text text' : List Char) : utf8 (text ++ text') = utf8 text ++ utf8 text' :=
  List.flatMap_append

/-- The value of a hexadecimal digit. -/
def hexDigit (c : Char) : Nat :=
  if c.isDigit then c.toNat - 48 else if 'a' ≤ c then c.toNat - 87 else c.toNat - 55

/-- The bytes of a name in a URI; `%00` ends it. -/
def unescape : List Char → List UInt8
  | '%' :: a :: b :: rest =>
      if isHexDigit a && isHexDigit b then
        if 16 * hexDigit a + hexDigit b = 0 then []
        else UInt8.ofNat (16 * hexDigit a + hexDigit b) :: unescape rest
      else String.utf8EncodeChar '%' ++ unescape (a :: b :: rest)
  | c :: rest => String.utf8EncodeChar c ++ unescape rest
  | [] => []

/-- There is an escape in a name. -/
def hasEscape : List Char → Bool
  | '%' :: a :: b :: rest => (isHexDigit a && isHexDigit b) || hasEscape (a :: b :: rest)
  | _ :: rest => hasEscape rest
  | [] => false

theorem length_utf8_cons (c : Char) (rest : List Char) :
    (utf8 rest).length < (utf8 (c :: rest)).length := by
  have hne := List.length_pos_of_ne_nil (String.utf8EncodeChar_ne_nil (c := c))
  rw [utf8, utf8, List.flatMap_cons, List.length_append]
  omega

theorem length_unescape_le (text : List Char) : (unescape text).length ≤ (utf8 text).length := by
  fun_induction unescape text with
  | case1 => exact Nat.zero_le _
  | case2 a b rest _ _ ih =>
      have h1 := length_utf8_cons b rest
      have h2 := length_utf8_cons a (b :: rest)
      have h3 := length_utf8_cons '%' (a :: b :: rest)
      rw [List.length_cons]
      omega
  | case3 a b rest _ ih =>
      rw [utf8, List.flatMap_cons, List.length_append, List.length_append]
      exact Nat.add_le_add_left ih _
  | case4 c rest _ ih =>
      rw [utf8, List.flatMap_cons, List.length_append, List.length_append]
      exact Nat.add_le_add_left ih _
  | case5 => exact Nat.zero_le _

/-- A name without escapes stands for itself; with one it gets shorter. -/
theorem unescape_of_hasEscape {text : List Char} (h : hasEscape text = true) :
    (unescape text).length < (utf8 text).length := by
  fun_induction hasEscape text with
  | case1 a b rest ih =>
      have h1 := length_utf8_cons b rest
      have h2 := length_utf8_cons a (b :: rest)
      have h3 := length_utf8_cons '%' (a :: b :: rest)
      have hle := length_unescape_le rest
      rw [unescape]
      split
      · split
        · rw [List.length_nil]
          omega
        · rw [List.length_cons]
          omega
      · next hnot =>
          have hrest := ih (by simpa [hnot] using h)
          rw [utf8, List.flatMap_cons, List.length_append, List.length_append]
          exact Nat.add_lt_add_left hrest _
  | case2 c rest hne ih =>
      rw [unescape, utf8, List.flatMap_cons, List.length_append, List.length_append]
      · exact Nat.add_lt_add_left (ih h) _
      · exact hne
  | case3 => contradiction

theorem unescape_of_not_hasEscape {text : List Char} (h : hasEscape text = false) :
    unescape text = utf8 text := by
  fun_induction hasEscape text with
  | case1 a b rest ih =>
      obtain ⟨hhex, hrest⟩ := Bool.or_eq_false_iff.mp h
      rw [unescape, hhex, if_neg Bool.false_ne_true, ih hrest]
      rfl
  | case2 c rest hne ih =>
      rw [unescape, ih h]
      · rfl
      · exact hne
  | case3 => rfl

/-- Slashes in front of a name are in no escape. -/
theorem hasEscape_dropWhile (text : List Char) :
    hasEscape (text.dropWhile (· = '/')) = hasEscape text := by
  induction text with
  | nil => rfl
  | cons c text ih =>
      by_cases hc : c = '/'
      · subst hc
        exact ih
      · rw [List.dropWhile_cons_of_neg (by simpa using hc)]

theorem mem_dropWhile_slash {c : Char} (hc : c ≠ '/') (text : List Char) :
    c ∈ text.dropWhile (· = '/') ↔ c ∈ text := by
  refine ⟨fun h => (List.dropWhile_suffix _).subset h, fun h => ?_⟩
  rw [← List.takeWhile_append_dropWhile (p := (· = '/')) (l := text), List.mem_append] at h
  exact h.resolve_left fun hslash => hc (by simpa using List.mem_takeWhile_imp hslash)

/-- `/` -/
def slash : UInt8 := 0x2F

/-- Slashes at the front count as one. -/
structure Path where
  absolute : Bool
  name : List UInt8
deriving DecidableEq

def Path.of (bytes : List UInt8) : Path := ⟨bytes.head? = some slash, bytes.dropWhile (· = slash)⟩

/-- Only a slash has the byte of one in front. -/
theorem head?_utf8EncodeChar {c : Char} :
    (String.utf8EncodeChar c).head? = some slash ↔ c = '/' := by
  have hslash : ∀ n : Nat, UInt8.ofNat n = slash → n % 256 = 47 := fun n h => by
    have hn := congrArg UInt8.toNat h
    rwa [UInt8.toNat_ofNat'] at hn
  constructor
  · intro h
    simp only [String.utf8EncodeChar] at h
    split at h
    · have hval := hslash _ (Option.some.inj h)
      have hc : c.val.toNat = ('/' : Char).val.toNat := by
        show c.val.toNat = 47
        omega
      exact Char.ext (UInt32.toNat_inj.mp hc)
    · exfalso
      split at h
      · have hval := hslash _ (Option.some.inj h)
        omega
      · split at h
        · have hval := hslash _ (Option.some.inj h)
          omega
        · have hval := hslash _ (Option.some.inj h)
          omega
  · rintro rfl
    rfl

theorem dropWhile_utf8 (text : List Char) :
    (utf8 text).dropWhile (· = slash) = utf8 (text.dropWhile (· = '/')) := by
  induction text with
  | nil => rfl
  | cons c text ih =>
      by_cases hc : c = '/'
      · subst hc
        exact ih
      · have hhead := mt head?_utf8EncodeChar.mp hc
        obtain ⟨b, bs, hb⟩ := List.exists_cons_of_ne_nil (String.utf8EncodeChar_ne_nil (c := c))
        rw [hb, List.head?_cons, Option.some.injEq] at hhead
        rw [List.dropWhile_cons_of_neg (by simpa using hc), utf8, List.flatMap_cons, hb,
          List.cons_append, List.dropWhile_cons_of_neg (by simpa using hhead)]

theorem Path.of_utf8_eq_iff {text : List Char} {name : List UInt8} :
    Path.of (utf8 text) = ⟨true, name⟩ ↔
      text.head? = some '/' ∧ utf8 (text.dropWhile (· = '/')) = name := by
  have hhead : (utf8 text).head? = some slash ↔ text.head? = some '/' := by
    cases text with
    | nil => decide
    | cons c text =>
        rw [utf8, List.flatMap_cons,
          List.head?_append_of_ne_nil _ String.utf8EncodeChar_ne_nil, head?_utf8EncodeChar]
        simp
  rw [Path.of, Path.mk.injEq, dropWhile_utf8, decide_eq_true_eq, hhead]

/-- A name after a slash stands for itself if it has no escape and no fragment. -/
theorem unescape_name_eq_iff {name : List Char} (h : ∀ c ∈ name.head?, c ≠ '/') :
    (unescape (name.takeWhile (· ≠ '#'))).dropWhile (· = slash) = utf8 name ↔
      '#' ∉ name ∧ hasEscape name = false := by
  constructor
  · intro heq
    have hle : (utf8 name).length ≤ (unescape (name.takeWhile (· ≠ '#'))).length := by
      rw [← heq]
      exact (List.dropWhile_suffix _).length_le
    have hhash : '#' ∉ name := by
      intro hmem
      obtain ⟨front, back, rfl, hfront⟩ := List.eq_append_cons_of_mem hmem
      have hcut : (front ++ '#' :: back).takeWhile (· ≠ '#') = front := by
        rw [List.takeWhile_append_of_pos (forall_ne_of_notMem hfront),
          List.takeWhile_cons_of_neg (by simp), List.append_nil]
      have hshort := length_unescape_le front
      have hback := length_utf8_cons '#' back
      rw [hcut, utf8_append, List.length_append] at hle
      omega
    refine ⟨hhash, Bool.eq_false_iff.mpr fun hescape => ?_⟩
    rw [List.takeWhile_eq_self_iff.mpr (forall_ne_of_notMem hhash)] at hle
    exact absurd hle (Nat.not_le_of_lt (unescape_of_hasEscape hescape))
  · rintro ⟨hhash, hescape⟩
    have hname : name.dropWhile (· = '/') = name := by
      cases name with
      | nil => rfl
      | cons c name => exact List.dropWhile_cons_of_neg (by simpa using h c rfl)
    rw [List.takeWhile_eq_self_iff.mpr (forall_ne_of_notMem hhash),
      unescape_of_not_hasEscape hescape, dropWhile_utf8, hname]

/-! ## Targets -/

/-- `:memory:` -/
def memoryName : List Char := ":memory:".toList

/-- What a URL denotes. -/
inductive Target where
  | memory
  /-- A file; options that the driver leaves in an ordinary name are part of it. -/
  | file (path : Path) (options : Query)
  /-- A URI filename of another host, which SQLite rejects. -/
  | foreign
  /-- No SQLite URL, or one that SQLAlchemy rejects. -/
  | invalid
deriving DecidableEq

/-- There is a database. -/
def Target.IsDatabase (self : Target) : Prop := self ≠ .foreign ∧ self ≠ .invalid

instance (self : Target) : Decidable self.IsDatabase := inferInstanceAs (Decidable (_ ∧ _))

/-- The path of a URI filename, from after `file:` on; `parameters` says whether any follow. -/
def uriPath (parameters : Bool) : List Char → Option (List UInt8)
  | '/' :: '/' :: rest =>
      let authority := rest.takeWhile (· ≠ '/')
      -- without another slash, the parameters are in the authority
      if (authority = [] || authority = "localhost".toList) &&
          (!parameters || decide ('/' ∈ rest)) then
        some (unescape ((rest.dropWhile (· ≠ '/')).takeWhile (· ≠ '#')))
      else none
  | rest => some (unescape (rest.takeWhile (· ≠ '#')))

/-- What follows the scheme of an SQLite URL; there is no user, host or port. -/
structure Location where
  database : Option (List Char)
  query : Query

/-- What stands before the query. -/
def pathOf (rest : List Char) : List Char := rest.takeWhile (· ≠ '?')

/-- What stands from the question mark on goes over the end of a line. -/
def CutOff (rest : List Char) : Prop := '\n' ∈ rest.dropWhile (· ≠ '?')

instance (rest : List Char) : Decidable (CutOff rest) := inferInstanceAs (Decidable (_ ∈ _))

/-- What is in front of an at sign is a user:
`(?P<username>[^:/]*)(?::(?P<password>[^@]*))?@`. -/
def hasUser (rest : List Char) : Bool :=
  match rest.dropWhile (· ∉ [':', '/', '@']) with
  | '@' :: _ => true
  | ':' :: password => '@' ∈ password
  | _ => false

section

variable [PythonQuery]

/-- The query, if there is a question mark: `\?(?P<query>.*)` ends with the line. -/
def queryOf (rest : List Char) : Query :=
  parseQsl ((rest.dropWhile (· ≠ '?')).tail.takeWhile (· ≠ '\n'))

def locate (rest : List Char) : Option Location :=
  match pathOf rest with
  | [] => if hasUser rest then none else some ⟨none, queryOf rest⟩
  | '/' :: database => some ⟨some database, queryOf rest⟩
  | _ => none

end

/-- A URL is a path, or a path and a query. -/
theorem path_or_query (rest : List Char) :
    '?' ∉ rest ∨ ∃ path query, '?' ∉ path ∧ rest = path ++ '?' :: query := by
  by_cases h : '?' ∈ rest
  · obtain ⟨path, query, hrest, hpath⟩ := List.eq_append_cons_of_mem h
    exact .inr ⟨path, query, hpath, hrest⟩
  · exact .inl h

theorem takeWhile_of_notMem {sep : Char} {text : List Char} (h : sep ∉ text) :
    text.takeWhile (· ≠ sep) = text :=
  List.takeWhile_eq_self_iff.mpr (forall_ne_of_notMem h)

/-- What follows a separator does not matter. -/
theorem takeWhile_append_of_mem {sep : Char} {text : List Char} (h : sep ∈ text)
    (added : List Char) :
    (text ++ added).takeWhile (· ≠ sep) = text.takeWhile (· ≠ sep) := by
  obtain ⟨front, back, rfl, hfront⟩ := List.eq_append_cons_of_mem h
  rw [List.append_assoc, List.takeWhile_append_of_pos (forall_ne_of_notMem hfront),
    List.takeWhile_append_of_pos (forall_ne_of_notMem hfront), List.cons_append,
    List.takeWhile_cons_of_neg (by simp), List.takeWhile_cons_of_neg (by simp)]

section

variable {path : List Char} (h : '?' ∉ path)
include h

theorem pathOf_path : pathOf path = path := takeWhile_of_notMem h

theorem pathOf_query (query : List Char) : pathOf (path ++ '?' :: query) = path := by
  rw [pathOf, List.takeWhile_append_of_pos (forall_ne_of_notMem h),
    List.takeWhile_cons_of_neg (by simp), List.append_nil]

theorem queryOf_path [PythonQuery] : queryOf path = [] := by
  rw [queryOf, List.dropWhile_eq_nil_iff.mpr (forall_ne_of_notMem h)]
  rfl

theorem queryOf_query [PythonQuery] (query : List Char) :
    queryOf (path ++ '?' :: query) = parseQsl (query.takeWhile (· ≠ '\n')) := by
  rw [queryOf, List.dropWhile_append_of_pos (forall_ne_of_notMem h),
    List.dropWhile_cons_of_neg (by simp), List.tail_cons]

theorem not_cutOff_path : ¬ CutOff path := by
  rw [CutOff, List.dropWhile_eq_nil_iff.mpr (forall_ne_of_notMem h)]
  exact List.not_mem_nil

theorem cutOff_query (query : List Char) : CutOff (path ++ '?' :: query) ↔ '\n' ∈ query := by
  rw [CutOff, List.dropWhile_append_of_pos (forall_ne_of_notMem h),
    List.dropWhile_cons_of_neg (by simp), List.mem_cons, or_iff_right (by decide)]

end

/-- The values of `mode`. -/
def Query.modes (query : Query) : List (List Char) := query.values "mode"

/-- There is a mode, and no other than this one. -/
def Query.Only (query : Query) (mode : String) : Prop :=
  query.modes ≠ [] ∧ ∀ m ∈ query.modes, m = mode.toList

instance (query : Query) (mode : String) : Decidable (query.Only mode) :=
  inferInstanceAs (Decidable (_ ∧ _))

/-- The driver leaves the mode to SQLite. -/
theorem Query.options_ne_nil {query : Query} (h : query.modes ≠ []) : query.options ≠ [] := by
  obtain ⟨mode, hmode⟩ := List.exists_mem_of_ne_nil _ h
  obtain ⟨⟨name, value⟩, hfield, -⟩ := List.mem_map.mp hmode
  obtain ⟨hmem, hname⟩ := List.mem_filter.mp hfield
  obtain rfl : name = "mode".toList := of_decide_eq_true hname
  have hleft : String.ofList "mode".toList ∉ driverParameters := by decide
  exact List.ne_nil_of_mem (List.mem_filter.mpr ⟨hmem, decide_eq_true hleft⟩)

/-- What stands in the options is what SQLite reads: nothing ends one or escapes. -/
def Query.Spelled (query : Query) : Prop :=
  ∀ field ∈ query.options, ∀ c ∈ field.1 ++ field.2, c ∉ ['#', '&', '=', '%']

instance (query : Query) : Decidable query.Spelled :=
  @List.decidableBAll _ _ (fun _ => List.decidableBAll _ _) _

/-- The modes that SQLite knows. -/
def accessModes : List (List Char) :=
  ["ro".toList, "rw".toList, "rwc".toList, "memory".toList]

/-- What SQLite makes of the URI filename `file:` and this, in the mode that it reads from
the parameters. -/
def uriTarget (parameters : Bool) (mode : Option (List Char)) (rest : List Char) : Target :=
  match uriPath parameters rest with
  | none => .foreign
  | some path =>
      if path = utf8 memoryName ∨ mode = some "memory".toList then .memory
      else .file (Path.of path) []

/-- A path that is there with parameters is there without. -/
theorem uriPath_of_parameters {rest : List Char} {path : List UInt8}
    (h : uriPath true rest = some path) (parameters : Bool) : uriPath parameters rest = some path := by
  unfold uriPath at h ⊢
  split at h
  · next rest =>
      dsimp only at h ⊢
      split at h
      · next hauthority =>
          rw [Bool.and_eq_true, Bool.not_true, Bool.false_or] at hauthority
          rw [if_pos (by rw [hauthority.1, hauthority.2, Bool.or_true, Bool.and_true])]
          exact h
      · contradiction
  · exact h

theorem length_uriPath_le {parameters : Bool} {rest : List Char} {path : List UInt8}
    (h : uriPath parameters rest = some path) : path.length ≤ (utf8 rest).length := by
  have hpart : ∀ text : List Char, text <:+: rest → (utf8 text).length ≤ (utf8 rest).length := by
    rintro _ ⟨front, back, rfl⟩
    rw [utf8_append, utf8_append, List.length_append, List.length_append]
    omega
  unfold uriPath at h
  split at h
  · next rest =>
      dsimp only at h
      split at h
      · rw [← Option.some.inj h]
        refine (length_unescape_le _).trans (hpart _ ?_)
        have hcut : (rest.dropWhile (· ≠ '/')).takeWhile (· ≠ '#') <:+: rest.dropWhile (· ≠ '/') :=
          (List.takeWhile_prefix _).isInfix
        have hpath : rest.dropWhile (· ≠ '/') <:+: rest := (List.dropWhile_suffix _).isInfix
        exact (hcut.trans hpath).trans (List.suffix_append ['/', '/'] rest).isInfix
      · contradiction
  · rw [← Option.some.inj h]
    exact (length_unescape_le _).trans (hpart _ (List.takeWhile_prefix _).isInfix)

section

variable {parameters : Bool} {mode : Option (List Char)} {rest : List Char}

/-- A URI filename is not the name that it would be without `uri=true`. -/
theorem uriTarget_ne_file :
    uriTarget parameters mode rest ≠ .file (Path.of (utf8 ("file:".toList ++ rest))) [] := by
  intro h
  rw [uriTarget] at h
  split at h
  · contradiction
  · next path hpath =>
      split at h
      · contradiction
      · have hname := congrArg Path.name (Target.file.inj h).1
        have hfile : ("file:".toList ++ rest).dropWhile (· = '/') = "file:".toList ++ rest := rfl
        simp only [Path.of, dropWhile_utf8, hfile] at hname
        have hle : (utf8 ("file:".toList ++ rest)).length ≤ path.length := by
          rw [← hname]
          exact (List.dropWhile_suffix _).length_le
        have hlength : (utf8 "file:".toList).length = 5 := rfl
        have hpath := length_uriPath_le hpath
        rw [utf8_append, List.length_append] at hle
        omega

/-- The options are parameters. -/
theorem options_of_uriTarget {path : Path} {options : Query}
    (h : uriTarget parameters mode rest = .file path options) : options = [] := by
  rw [uriTarget] at h
  split at h
  · contradiction
  · split at h
    · contradiction
    · exact (Target.file.inj h).2.symm

theorem uriTarget_ne_invalid : uriTarget parameters mode rest ≠ .invalid := by
  rw [uriTarget]
  split
  · exact Target.noConfusion
  · split <;> exact Target.noConfusion

theorem uriTarget_of_none (h : uriPath parameters rest = none) :
    uriTarget parameters mode rest = .foreign := by
  rw [uriTarget, h]

/-- What SQLite makes of a path it can reach. -/
theorem uriTarget_of_path {path : List UInt8} (h : uriPath parameters rest = some path) :
    uriTarget parameters mode rest =
      if path = utf8 memoryName ∨ mode = some "memory".toList then .memory
      else .file (Path.of path) [] := by
  rw [uriTarget, h]

theorem uriTarget_slash (h : ∀ c ∈ rest.head?, c ≠ '/') :
    uriTarget parameters mode ('/' :: rest) =
      if mode = some "memory".toList then .memory
      else .file ⟨true, (unescape (rest.takeWhile (· ≠ '#'))).dropWhile (· = slash)⟩ [] := by
  have hunescape : unescape (('/' :: rest).takeWhile (· ≠ '#')) =
      slash :: unescape (rest.takeWhile (· ≠ '#')) := by
    rw [List.takeWhile_cons_of_pos (by decide), unescape]
    · rfl
    · intro a b rest' heq
      contradiction
  have hpath : uriPath parameters ('/' :: rest) =
      some (slash :: unescape (rest.takeWhile (· ≠ '#'))) := by
    rw [uriPath, hunescape]
    intro rest' heq
    rw [(List.cons.inj heq).2] at h
    exact h '/' rfl rfl
  have hname : slash :: unescape (rest.takeWhile (· ≠ '#')) ≠ utf8 memoryName := fun hname =>
    absurd (List.cons.inj hname).1 (by decide)
  simp only [uriTarget_of_path hpath, hname, false_or]
  rfl

end

/-! ## The driver -/

section

variable [Python]

/-- SQLAlchemy's dialect and SQLite, as far as they are documented: the mode that SQLite
reads behind a URI filename, and the database that a name and a query denote. -/
class SqliteDriver where
  mode : List Char → Query → Option (List Char)
  /-- A fragment ends the URI before its parameters. -/
  mode_fragment : ∀ {rest : List Char} {query : Query}, '#' ∈ rest → mode rest query = none
  /-- Several values are a tuple, which is no mode. -/
  mode_spelled : ∀ {rest : List Char} {query : Query}, '#' ∉ rest → query.Spelled →
    ∀ access ∈ accessModes, mode rest query = some access ↔ query.modes = [access]
  target : Location → Target
  /-- `uri` has to be a truth value. -/
  target_invalid : ∀ {location : Location}, location.query.uri = none → target location = .invalid
  /-- A URI filename needs a name. -/
  target_unnamed : ∀ {query : Query}, query.uri = some true → target ⟨none, query⟩ = .invalid
  target_memory : ∀ {location : Location}, location.query.uri = some false →
    location.database.getD [] = [] ∨ location.database = some memoryName →
      target location = .memory
  target_name : ∀ {database : List Char} {query : Query}, query.uri = some false →
    database ≠ [] → database ≠ memoryName →
      target ⟨some database, query⟩ = .file (Path.of (utf8 database)) []
  target_uri : ∀ {rest : List Char} {query : Query}, query.uri = some true →
    target ⟨some ("file:".toList ++ rest), query⟩ =
      uriTarget (!query.options.isEmpty) (mode rest query) rest
  /-- What is no URI filename keeps the options in its name. -/
  target_options : ∀ {database : List Char} {query : Query}, query.uri = some true →
    ¬ "file:".toList.isPrefixOf database = true →
      target ⟨some database, query⟩ =
        if database = memoryName ∧ query.options = [] then .memory
        else .file (Path.of (utf8 database)) query.options

/-- The mode where what stands in the options is what SQLite reads. -/
def Query.mode (query : Query) (rest : List Char) : Option (List Char) :=
  match query.modes with
  | [mode] => if '#' ∈ rest then none else some mode
  | _ => none

/-- What is documented, as a whole. -/
def Location.target (self : Location) : Target :=
  match self.query.uri, self.database with
  | none, _ => .invalid
  | some false, database =>
      if database.getD [] = [] ∨ database = some memoryName then .memory
      else .file (Path.of (utf8 (database.getD []))) []
  | some true, none => .invalid
  | some true, some database =>
      if "file:".toList.isPrefixOf database then
        uriTarget (!self.query.options.isEmpty) (self.query.mode (database.drop 5))
          (database.drop 5)
      else if database = memoryName ∧ self.query.options = [] then .memory
      else .file (Path.of (utf8 database)) self.query.options

/-- The driver that does what is documented. -/
@[reducible] def SqliteDriver.documented : SqliteDriver where
  mode rest query := query.mode rest
  mode_fragment {_ query} hhash := by
    rw [Query.mode]
    split
    · exact if_pos hhash
    · rfl
  mode_spelled {_ query} hhash _ access _ := by
    rw [Query.mode]
    split
    · next hmodes => rw [if_neg hhash, hmodes, Option.some_inj, List.singleton_inj]
    · next hmodes => exact iff_of_false (by simp) (hmodes access)
  target := Location.target
  target_invalid h := by simp only [Location.target, h]
  target_unnamed h := by simp only [Location.target, h]
  target_memory h hmemory := by simp only [Location.target, h, if_pos hmemory]
  target_name h hne hname := by
    rw [Location.target, h]
    exact if_neg fun hmemory => hmemory.elim hne fun heq => hname (Option.some.inj heq)
  target_uri h := by
    simp only [Location.target, h]
    rfl
  target_options h hfile := by
    simp only [Location.target, h]
    exact if_neg hfile

variable [SqliteDriver]

open SqliteDriver (mode_fragment mode_spelled target_invalid target_unnamed target_memory
  target_name target_uri target_options)

/-- A mode that SQLite reads comes from an option of the URL. -/
theorem options_of_mode {rest : List Char} {query : Query} {access : List Char}
    (haccess : access ∈ accessModes) (h : SqliteDriver.mode rest query = some access) :
    query.options ≠ [] := by
  intro hoptions
  have hspelled : query.Spelled := by
    rw [Query.Spelled, hoptions]
    exact fun _ hfield => absurd hfield List.not_mem_nil
  by_cases hhash : '#' ∈ rest
  · rw [mode_fragment hhash] at h
    contradiction
  · have hmodes := (mode_spelled hhash hspelled access haccess).mp h
    exact Query.options_ne_nil (by simp [hmodes]) hoptions

/-- Without `uri=true`, `file:` is part of the name. -/
theorem target_file_name (name : List Char) {query : Query} (h : query.uri = some false) :
    SqliteDriver.target ⟨some ("file:".toList ++ name), query⟩ =
      .file (Path.of (utf8 ("file:".toList ++ name))) [] := by
  refine target_name h (List.cons_ne_nil _ _) fun heq => ?_
  exact absurd (List.cons.inj heq).1 (by decide)

/-- An ordinary name denotes an absolute path if it spells that path and no option
becomes part of it. -/
theorem target_eq_file_iff {database : List Char} {query : Query} {name : List UInt8}
    (hfile : ¬ "file:".toList.isPrefixOf database = true) :
    SqliteDriver.target ⟨some database, query⟩ = .file ⟨true, name⟩ [] ↔
      Path.of (utf8 database) = ⟨true, name⟩ ∧
        (query.uri = some false ∨ query.uri = some true ∧ query.options = []) := by
  have habsolute : Path.of (utf8 database) = ⟨true, name⟩ →
      database ≠ [] ∧ database ≠ memoryName := by
    intro hpath
    have hhead := (Path.of_utf8_eq_iff.mp hpath).1
    constructor
    · rintro rfl
      contradiction
    · rintro rfl
      exact absurd hhead (by decide)
  cases huri : query.uri with
  | none =>
      have htarget : SqliteDriver.target ⟨some database, query⟩ = .invalid := target_invalid huri
      simp [htarget]
  | some uri =>
      cases uri with
      | false =>
          by_cases hmemory : database = [] ∨ database = memoryName
          · have htarget : SqliteDriver.target ⟨some database, query⟩ = .memory :=
              target_memory huri (hmemory.imp id (congrArg some))
            rw [htarget]
            refine iff_of_false Target.noConfusion fun h => ?_
            obtain ⟨hne, hname⟩ := habsolute h.1
            exact hmemory.elim hne hname
          · rw [not_or] at hmemory
            rw [target_name huri hmemory.1 hmemory.2]
            simp
      | true =>
          rw [target_options huri hfile]
          split
          · next hmemory =>
              exact iff_of_false Target.noConfusion fun h => (habsolute h.1).2 hmemory.1
          · simp

variable [PythonQuery]

/-- What a URL denotes, from after its scheme on. -/
def target (rest : List Char) : Target := (locate rest).elim .invalid SqliteDriver.target

/-- Without a slash there is no file. -/
theorem target_ne_file {rest : List Char} (h : (pathOf rest).head? ≠ some '/') (path : Path)
    (options : Query) : target rest ≠ .file path options := by
  rw [target, locate]
  split
  · split
    · exact Target.noConfusion
    · rw [Option.elim_some]
      cases huri : (queryOf rest).uri with
      | none =>
          rw [target_invalid huri]
          exact Target.noConfusion
      | some uri =>
          cases uri with
          | false =>
              rw [target_memory huri (.inl rfl)]
              exact Target.noConfusion
          | true =>
              rw [target_unnamed huri]
              exact Target.noConfusion
  · next database hpath =>
      rw [hpath] at h
      exact absurd rfl h
  · exact Target.noConfusion

/-- With `uri=true` a name without a slash in front denotes nothing. -/
theorem target_eq_invalid {rest : List Char} (h : (pathOf rest).head? ≠ some '/')
    (huri : (queryOf rest).uri = some true) : target rest = .invalid := by
  rw [target, locate]
  split
  · split
    · rfl
    · exact target_unnamed huri
  · next database hpath =>
      rw [hpath] at h
      exact absurd rfl h
  · rfl

theorem target_of_path {rest database : List Char} (h : pathOf rest = '/' :: database) :
    target rest = SqliteDriver.target ⟨some database, queryOf rest⟩ := by
  rw [target, locate, h]
  rfl

end

end DbGateway.SqliteUrl
