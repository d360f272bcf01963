import DbGateway.Numerals
import DbGateway.Json.Roundtrip
import DbGateway.Presentation.Sample

/-!
# DbGateway.Presentation.Numbers

`services/result_presentation_service.py`: the guard against numbers that are
not in the result.

The guard compares digits, not numbers.  It keeps the digits of ASCII only, so a
number in other digits is not checked (`guardSound_iff`), and it knows no
sign, so a negative cell is not found again (`integersFit_summary_iff`).
-/

namespace DbGateway.Presentation

open Numerals

section

variable [Python] [PythonTables]

/-! ## The guard -/

/-- `\d` -/
def isDecimal (c : Char) : Bool := (PythonTables.decimal c).isSome

/-- `[\d,]` and `\.` -/
def decimals : Alphabet Char where
  digit := isDecimal
  comma := ','
  point := '.'
  digit_comma := by
    rw [isDecimal, PythonTables.decimal_ascii ',' (by decide)]
    rfl
  digit_point := by
    rw [isDecimal, PythonTables.decimal_ascii '.' (by decide)]
    rfl
  point_ne_comma := by decide

/-- `re.sub(r"[^0-9]", "", token)` -/
def asciiDigits (token : List Char) : List Char := token.filter Char.isDigit

/-- `re.fullmatch(r"\d[\d,]*", text)` -/
def isDenseInteger : List Char → Bool
  | [] => false
  | c :: cs => isDecimal c && cs.all decimals.numeral

/-- `float.is_integer`, and `int` of such a float. -/
def PyFloat.whole : PyFloat → Option Int
  | finite q => if q.den = 1 then some q.num else none
  | negZero => some 0
  | inf | negInf | nan => none

/-- `_numeric_forms` -/
def numericForms : Cell → List String
  | .int n => [toString n]
  | .float x => (x.whole.map toString).toList
  | .str s =>
      let stripped := (strip s).toList
      if isDenseInteger stripped then [String.ofList (asciiDigits stripped)] else []
  | _ => []

/-- The numbers that may be named. -/
def allowedForms (rows : List Row) : List String :=
  toString rows.length :: rows.flatMap fun row => row.flatMap fun kv => numericForms kv.2

/-- The tokens that are checked, as they are compared. -/
def integerTokens (content : String) : List String :=
  ((plainTokens decimals Char.isDigit content.toList).filter (· ≠ [])).map String.ofList

/-- `_integers_fit` -/
def integersFit (content : String) (rows : List Row) : Bool :=
  if integerTokens content = [] then true
  else (integerTokens content).all fun token => token ∈ allowedForms rows

/-! ## Soundness -/

/-- The tokens without a fraction. -/
def wholeTokens (content : String) : List (List Char) :=
  ((findTokens decimals content.toList).filter fun t => t.fraction.isEmpty).map Token.whole

/-- The number a token stands for, in the digits of any script; commas say
nothing. -/
def denotes (token : List Char) : Nat :=
  token.foldl (fun n c =>
    match PythonTables.decimal c with
    | some d => 10 * n + d
    | none => n) 0

/-- The value of a cell that holds an integer, as a number or as its digits. -/
def Cell.integer : Cell → Option Int
  | .int n => some n
  | .float x => x.whole
  | .str s => if isDenseInteger (strip s).toList then some (denotes (strip s).toList) else .none
  | _ => .none

/-- The number of rows, or the value of a cell. -/
def IsFact (rows : List Row) (n : Int) : Prop :=
  n = rows.length ∨ ∃ row ∈ rows, ∃ kv ∈ row, kv.2.integer = some n

/-- What an accepted text says is so. -/
def GuardSound (content : String) (rows : List Row) : Prop :=
  integersFit content rows = true → ∀ token ∈ wholeTokens content, IsFact rows (denotes token)

/-- A digit that is dropped. -/
def HasForeignDigit (token : List Char) : Prop := ∃ c ∈ token, isDecimal c = true ∧ c.isDigit = false

/-- A token of which a digit is dropped, or that is taken for a cell of which a
digit is dropped. -/
def Misread (rows : List Row) (token : List Char) : Prop :=
  HasForeignDigit token ∨
    ∃ row ∈ rows, ∃ kv ∈ row, ∃ s, kv.2 = .str s ∧ isDenseInteger (strip s).toList = true ∧
      HasForeignDigit (strip s).toList ∧ asciiDigits (strip s).toList = asciiDigits token

/-- A token that is checked and not found. -/
def Rejected (rows : List Row) (token : List Char) : Prop :=
  asciiDigits token ≠ [] ∧ String.ofList (asciiDigits token) ∉ allowedForms rows

theorem mem_integerTokens {content form : String} : form ∈ integerTokens content ↔
    ∃ token ∈ wholeTokens content, asciiDigits token ≠ [] ∧ String.ofList (asciiDigits token) = form := by
  simp only [integerTokens, wholeTokens, plainTokens, asciiDigits, List.mem_map, List.mem_filter,
    decide_eq_true_eq]
  constructor
  · rintro ⟨_, ⟨⟨token, htoken, rfl⟩, hne⟩, rfl⟩
    exact ⟨token.whole, ⟨token, htoken, rfl⟩, hne, rfl⟩
  · rintro ⟨_, ⟨token, htoken, rfl⟩, hne, rfl⟩
    exact ⟨_, ⟨⟨token, htoken, rfl⟩, hne⟩, rfl⟩

theorem integersFit_iff_forms {content : String} {rows : List Row} :
    integersFit content rows = true ↔
      ∀ form ∈ integerTokens content, form ∈ allowedForms rows := by
  unfold integersFit
  split
  case isTrue hnil => simp [hnil]
  case isFalse => simp only [List.all_eq_true, decide_eq_true_eq]

theorem integersFit_iff {content : String} {rows : List Row} :
    integersFit content rows = true ↔ ∀ token ∈ wholeTokens content, ¬ Rejected rows token := by
  rw [integersFit_iff_forms]
  constructor
  · intro h token htoken hrejected
    exact hrejected.2 (h _ (mem_integerTokens.mpr ⟨token, htoken, hrejected.1, rfl⟩))
  · intro h form hform
    obtain ⟨token, htoken, hne, rfl⟩ := mem_integerTokens.mp hform
    by_contra hnot
    exact h token htoken ⟨hne, hnot⟩

theorem isDecimal_of_isDigit {c : Char} (h : c.isDigit = true) :
    PythonTables.decimal c = some (c.toNat - 48) := by
  have hascii : c.toNat < 128 := by
    rw [Char.isDigit_iff_toNat] at h
    have hlast : '9'.toNat = 57 := rfl
    omega
  rw [PythonTables.decimal_ascii c hascii, if_pos h]

/-- Without foreign digits, a token is read as it stands. -/
theorem denotes_eq {token : List Char} (h : ¬ HasForeignDigit token) :
    denotes token = Nat.ofDigitChars 10 (asciiDigits token) 0 := by
  have hfold : ∀ n, token.foldl (fun n c =>
      match PythonTables.decimal c with
      | some d => 10 * n + d
      | none => n) n = Nat.ofDigitChars 10 (asciiDigits token) n := by
    induction token with
    | nil => exact fun n => rfl
    | cons c token ih =>
        intro n
        have htail : ¬ HasForeignDigit token :=
          fun ⟨d, hd, hforeign⟩ => h ⟨d, List.mem_cons_of_mem _ hd, hforeign⟩
        rw [List.foldl_cons, ih htail, asciiDigits, asciiDigits, List.filter_cons]
        by_cases hdigit : c.isDigit = true
        · rw [isDecimal_of_isDigit hdigit, if_pos hdigit]
          rfl
        · have hnone : PythonTables.decimal c = none := by
            by_contra hsome
            exact h ⟨c, List.mem_cons_self, Option.isSome_iff_ne_none.mpr hsome,
              Bool.eq_false_iff.mpr hdigit⟩
          rw [hnone, if_neg hdigit]
  exact hfold 0

omit [Python] [PythonTables] in
theorem toList_toString_int (n : Int) : (toString n).toList = Json.printInt n := by
  cases n with
  | ofNat n => exact Nat.toList_repr
  | negSucc n =>
      show ("-" ++ (n + 1).repr).toList = _
      rw [String.toList_append, Nat.toList_repr]
      rfl

omit [Python] [PythonTables] in
/-- A number that is written in digits only. -/
theorem eq_of_toString {n : Int} {digits : List Char} (hdigits : ∀ c ∈ digits, c.isDigit = true)
    (h : toString n = String.ofList digits) : n = Nat.ofDigitChars 10 digits 0 := by
  have hlist := congrArg String.toList h
  rw [toList_toString_int, String.toList_ofList] at hlist
  have hvalue := Json.intOf_printInt n
  rw [hlist] at hvalue
  cases digits with
  | nil => exact hvalue.symm
  | cons c cs =>
      rwa [Json.intOf, if_neg (Json.ne_minus_of_isDigit (hdigits c List.mem_cons_self)),
        eq_comm] at hvalue

omit [Python] [PythonTables] in
theorem isDigit_asciiDigits (token : List Char) : ∀ c ∈ asciiDigits token, c.isDigit = true :=
  fun _ hc => (List.mem_filter.mp hc).2

/-- A cell with the digits of a token has its value, unless a digit is dropped. -/
theorem integer_of_numericForms {cell : Cell} {token : List Char}
    (hforeign : ∀ s, cell = .str s → isDenseInteger (strip s).toList = true →
      asciiDigits (strip s).toList = asciiDigits token → ¬ HasForeignDigit (strip s).toList)
    (h : String.ofList (asciiDigits token) ∈ numericForms cell) :
    cell.integer = some (Nat.ofDigitChars 10 (asciiDigits token) 0 : Int) := by
  cases cell with
  | int n =>
      rw [numericForms, List.mem_singleton] at h
      rw [Cell.integer, eq_of_toString (isDigit_asciiDigits token) h.symm]
  | float x =>
      rw [numericForms, Option.mem_toList, Option.map_eq_some_iff] at h
      obtain ⟨n, hn, htext⟩ := h
      rw [Cell.integer, hn, eq_of_toString (isDigit_asciiDigits token) htext]
  | str s =>
      simp only [numericForms] at h
      split at h
      case isTrue hdense =>
        have hdigits := String.ofList_injective (List.mem_singleton.mp h)
        rw [Cell.integer, if_pos hdense, denotes_eq (hforeign s rfl hdense hdigits.symm), hdigits]
      case isFalse => exact absurd h List.not_mem_nil
  | _ => exact absurd h List.not_mem_nil

/-- A token that is found and not misread stands for a fact. -/
theorem isFact_of_not_rejected {content : String} {rows : List Row} {token : List Char}
    (htoken : token ∈ wholeTokens content) (hmisread : ¬ Misread rows token)
    (hfound : ¬ Rejected rows token) : IsFact rows (denotes token) := by
  have hforeign : ¬ HasForeignDigit token := fun h => hmisread (.inl h)
  have hne : asciiDigits token ≠ [] := by
    obtain ⟨t, ht, rfl⟩ := List.mem_map.mp htoken
    obtain ⟨c, cs, hwhole, hc⟩ := exists_of_mem_findTokens (List.mem_filter.mp ht).1
    have hmem : c ∈ t.whole := hwhole ▸ List.mem_cons_self
    have hdigit : c.isDigit = true := by
      by_contra hnot
      exact hforeign ⟨c, hmem, hc, Bool.eq_false_iff.mpr hnot⟩
    exact List.ne_nil_of_mem (List.mem_filter.mpr ⟨hmem, hdigit⟩)
  have hallowed : String.ofList (asciiDigits token) ∈ allowedForms rows := by
    by_contra hnot
    exact hfound ⟨hne, hnot⟩
  rw [denotes_eq hforeign]
  rcases List.mem_cons.mp hallowed with hcount | hcell
  · refine .inl (eq_of_toString (n := rows.length) (isDigit_asciiDigits token) hcount.symm).symm
  · obtain ⟨row, hrow, hcell⟩ := List.mem_flatMap.mp hcell
    obtain ⟨kv, hkv, hform⟩ := List.mem_flatMap.mp hcell
    refine .inr ⟨row, hrow, kv, hkv, integer_of_numericForms (fun s hs hdense hsame hdropped => ?_) hform⟩
    exact hmisread (.inr ⟨row, hrow, kv, hkv, s, hs, hdense, hdropped, hsame⟩)

/-- **Numeric guard soundness**, for a text and rows: a token is found where it
should not be exactly if no token is rejected, and one that is misread stands
for nothing in the result. -/
theorem guardSound_iff (content : String) (rows : List Row) :
    GuardSound content rows ↔
      (∃ token ∈ wholeTokens content, Rejected rows token) ∨
        ∀ token ∈ wholeTokens content, Misread rows token → IsFact rows (denotes token) := by
  rw [GuardSound, integersFit_iff]
  constructor
  · intro hsound
    by_cases hrejected : ∃ token ∈ wholeTokens content, Rejected rows token
    · exact .inl hrejected
    · refine .inr fun token htoken _ => hsound (fun t ht hr => hrejected ⟨t, ht, hr⟩) token htoken
  · rintro (⟨token, htoken, hrejected⟩ | hmisread) haccepted token' htoken'
    · exact absurd hrejected (haccepted token htoken)
    · by_cases hmis : Misread rows token'
      · exact hmisread token' htoken' hmis
      · exact isFact_of_not_rejected htoken' hmis (haccepted token' htoken')

/-! ## Completeness -/

/-- The digits of a number in groups of three from the right. -/
def thousands (n : Nat) : List Char × List (List Char) :=
  if n < 1000 then (Nat.toDigits 10 n, [])
  else
    let front := thousands (n / 1000)
    (front.1, front.2 ++
      [[Nat.digitChar (n / 100 % 10), Nat.digitChar (n / 10 % 10), Nat.digitChar (n % 10)]])

/-- The groups of a rendering, with or without commas. -/
def renderingGroups (n : Nat) (commas : Bool) : List Char × List (List Char) :=
  if commas then thousands n else (Nat.toDigits 10 n, [])

omit [Python] [PythonTables] in
theorem thousands_flatten (n : Nat) :
    (thousands n).1 ++ (thousands n).2.flatten = Nat.toDigits 10 n := by
  induction n using thousands.induct with
  | case1 n hsmall => rw [thousands, if_pos hsmall, List.flatten_nil, List.append_nil]
  | case2 n hlarge ih =>
      have hhundreds : n / 10 / 10 = n / 100 := by omega
      have hthousands : n / 100 / 10 = n / 1000 := by omega
      rw [thousands, if_neg hlarge]
      dsimp only
      rw [List.flatten_append, List.flatten_singleton, ← List.append_assoc, ih,
        Nat.toDigits_of_base_le (by decide) (by omega : 10 ≤ n),
        Nat.toDigits_of_base_le (by decide) (by omega : 10 ≤ n / 10),
        Nat.toDigits_of_base_le (by decide) (by omega : 10 ≤ n / 10 / 10),
        hhundreds, hthousands, List.append_assoc, List.append_assoc]
      rfl

omit [Python] [PythonTables] in
theorem isDigit_toDigits (n : Nat) :
    Nat.toDigits 10 n ≠ [] ∧ ∀ c ∈ Nat.toDigits 10 n, c.isDigit = true :=
  ⟨Nat.toDigits_ne_nil, fun _ hc => Nat.isDigit_of_mem_toDigits (by decide) (by decide) hc⟩

omit [Python] [PythonTables] in
theorem thousands_digits (n : Nat) :
    ∀ g ∈ (thousands n).1 :: (thousands n).2, g ≠ [] ∧ ∀ c ∈ g, c.isDigit = true := by
  induction n using thousands.induct with
  | case1 n hsmall =>
      rw [thousands, if_pos hsmall]
      intro g hg
      rw [List.mem_singleton.mp hg]
      exact isDigit_toDigits n
  | case2 n hlarge ih =>
      rw [thousands, if_neg hlarge]
      intro g hg
      rw [← List.cons_append, List.mem_append, List.mem_singleton] at hg
      rcases hg with hg | rfl
      · exact ih g hg
      · refine ⟨List.cons_ne_nil _ _, fun c hc => ?_⟩
        simp only [List.mem_cons, List.not_mem_nil, or_false] at hc
        rcases hc with rfl | rfl | rfl <;>
          rw [Nat.isDigit_digitChar, decide_eq_true (Nat.mod_lt _ (by decide))]

omit [Python] [PythonTables] in
theorem renderingGroups_digits (n : Nat) (commas : Bool) :
    ∀ g ∈ (renderingGroups n commas).1 :: (renderingGroups n commas).2,
      g ≠ [] ∧ ∀ c ∈ g, c.isDigit = true := by
  cases commas with
  | true => exact thousands_digits n
  | false => exact fun g hg => List.mem_singleton.mp hg ▸ isDigit_toDigits n

omit [Python] [PythonTables] in
theorem renderingGroups_flatten (n : Nat) (commas : Bool) :
    ((renderingGroups n commas).1 :: (renderingGroups n commas).2).flatten = Nat.toDigits 10 n := by
  cases commas with
  | true => exact thousands_flatten n
  | false => exact List.append_nil _

/-- The value of a cell that holds an integer as a number. -/
def Cell.integral : Cell → Option Int
  | .int n => some n
  | .float x => x.whole
  | _ => .none

/-- The number of rows, or an integer in them. -/
def Mentionable (rows : List Row) (n : Int) : Prop :=
  n = rows.length ∨ ∃ row ∈ rows, ∃ kv ∈ row, kv.2.integral = some n

/-- A number of the result in a text, after text without digits or commas. -/
structure Mention (rows : List Row) where
  sep : List Char
  n : Int
  commas : Bool
  sep_plain : ∀ c ∈ sep, decimals.numeral c = false
  mentionable : Mentionable rows n

/-- The sign of a number. -/
def sign (n : Int) : List Char := if n < 0 then ['-'] else []

theorem isDecimal_ascii {c : Char} (h : c.isDigit = true) : decimals.digit c = true :=
  Option.isSome_iff_exists.mpr ⟨_, isDecimal_of_isDigit h⟩

theorem numeral_minus : decimals.numeral '-' = false := by
  have hnone : PythonTables.decimal '-' = none := PythonTables.decimal_ascii '-' (by decide)
  show ((PythonTables.decimal '-').isSome || decide ('-' = ',')) = false
  rw [hnone]
  rfl

/-- The digits of a mention; its sign stands before them. -/
def Mention.piece {rows : List Row} (self : Mention rows) : Piece decimals where
  sep := self.sep ++ sign self.n
  group := (renderingGroups self.n.natAbs self.commas).1
  groups := (renderingGroups self.n.natAbs self.commas).2
  sep_plain c hc := by
    rcases List.mem_append.mp hc with hsep | hsign
    · exact self.sep_plain c hsep
    · unfold sign at hsign
      split at hsign
      · exact List.mem_singleton.mp hsign ▸ numeral_minus
      · exact absurd hsign List.not_mem_nil
  group_digits :=
    have hgroup := renderingGroups_digits self.n.natAbs self.commas _ List.mem_cons_self
    ⟨hgroup.1, fun c hc => isDecimal_ascii (hgroup.2 c hc)⟩
  groups_digits g hg :=
    have hgroup := renderingGroups_digits self.n.natAbs self.commas g (List.mem_cons_of_mem _ hg)
    ⟨hgroup.1, fun c hc => isDecimal_ascii (hgroup.2 c hc)⟩

/-- A text whose only digits are mentions, with something between them. -/
structure Summary (rows : List Row) where
  head : List Char
  mentions : List (Mention rows)
  tail : List Char
  head_plain : ∀ c ∈ head, decimals.digit c = false
  tail_plain : ∀ c ∈ tail, decimals.digit c = false
  separated : ∀ m ∈ mentions.tail, m.sep ≠ []

/-- The text of a rendering: `str(n)` or `f"{n:,}"`. -/
def rendering (n : Int) (commas : Bool) : List Char :=
  sign n ++ runText decimals (renderingGroups n.natAbs commas).1 (renderingGroups n.natAbs commas).2

namespace Summary

variable {rows : List Row} (self : Summary rows)

def text : String :=
  String.ofList (self.head ++
    (self.mentions.flatMap (fun m => m.sep ++ rendering m.n m.commas) ++ self.tail))

/-- What is checked of the mentions. -/
def checked : List (Reading (Mention rows)) := readings Mention.piece none self.mentions

end Summary

/-- The check of a mention: a number without a sign is found, a negative one is
looked for without its sign, and the rest of a number after a point without its
first group. -/
def FoundAs {rows : List Row} : Reading (Mention rows) → Prop
  | .whole m => 0 ≤ m.n ∨ String.ofList (Nat.toDigits 10 m.n.natAbs) ∈ allowedForms rows
  | .rest m => String.ofList m.piece.groups.flatten ∈ allowedForms rows

theorem plainTokens_text_summary {rows : List Row} (summary : Summary rows) :
    plainTokens decimals Char.isDigit summary.text.toList =
      summary.checked.map fun r => (r.read Mention.piece).flatten.filter Char.isDigit := by
  have hsep : ∀ m ∈ summary.mentions.tail, m.piece.sep ≠ [] :=
    fun m hm h => summary.separated m hm (List.append_eq_nil_iff.mp h).1
  have hcomma : Char.isDigit decimals.comma = false := rfl
  rw [Summary.checked, ← plainTokens_text Mention.piece hcomma summary.head_plain summary.tail_plain
    summary.mentions hsep, Summary.text, String.toList_ofList]
  simp only [joinPieces, rendering, Mention.piece, List.append_assoc]

/-- The digits a check compares. -/
def checkedDigits {rows : List Row} : Reading (Mention rows) → List Char
  | .whole m => Nat.toDigits 10 m.n.natAbs
  | .rest m => m.piece.groups.flatten

theorem read_checkedDigits {rows : List Row} (r : Reading (Mention rows)) :
    (r.read Mention.piece).flatten.filter Char.isDigit = checkedDigits r := by
  cases r with
  | whole m =>
      rw [checkedDigits, ← renderingGroups_flatten m.n.natAbs m.commas]
      refine List.filter_eq_self.mpr fun c hc => ?_
      obtain ⟨g, hg, hmem⟩ := List.mem_flatten.mp hc
      exact (renderingGroups_digits _ _ g hg).2 c hmem
  | rest m =>
      refine List.filter_eq_self.mpr fun c hc => ?_
      obtain ⟨g, hg, hmem⟩ := List.mem_flatten.mp hc
      exact (renderingGroups_digits _ _ g (List.mem_cons_of_mem _ hg)).2 c hmem

/-- A number of the result that has no sign is allowed. -/
theorem mem_allowedForms {rows : List Row} {n : Int} (h : Mentionable rows n) :
    toString n ∈ allowedForms rows := by
  rcases h with rfl | ⟨row, hrow, kv, hkv, hn⟩
  · exact List.mem_cons_self
  · refine List.mem_cons_of_mem _ (List.mem_flatMap.mpr ⟨row, hrow, List.mem_flatMap.mpr ⟨kv, hkv, ?_⟩⟩)
    cases hcell : kv.2 with
    | int m =>
        rw [hcell] at hn
        rw [numericForms, Option.some_inj.mp hn]
        exact List.mem_singleton_self _
    | float x =>
        rw [hcell, Cell.integral] at hn
        rw [numericForms, hn]
        exact List.mem_singleton_self _
    | _ =>
        rw [hcell] at hn
        contradiction

theorem foundAs_iff {rows : List Row} (r : Reading (Mention rows)) :
    FoundAs r ↔ String.ofList (checkedDigits r) ∈ allowedForms rows := by
  cases r with
  | rest m => exact Iff.rfl
  | whole m =>
      refine or_iff_right_of_imp fun hpos => ?_
      have hmem := mem_allowedForms m.mentionable
      have htext : toString m.n = String.ofList (Nat.toDigits 10 m.n.natAbs) := by
        rw [← String.toList_inj, toList_toString_int, String.toList_ofList]
        obtain ⟨k, hk⟩ := Int.eq_ofNat_of_zero_le hpos
        rw [hk]
        rfl
      rwa [htext] at hmem

theorem checkedDigits_ne_nil {rows : List Row} {summary : Summary rows}
    {r : Reading (Mention rows)} (hr : r ∈ summary.checked) : checkedDigits r ≠ [] := by
  cases r with
  | whole m => exact Nat.toDigits_ne_nil
  | rest m =>
      have hgroups : m.piece.groups ≠ [] :=
        read_ne_nil_of_mem Mention.piece (fun r h => absurd h (Option.not_mem_none r)) hr
      obtain ⟨g, gs, hcons⟩ := List.exists_cons_of_ne_nil hgroups
      have hg := (m.piece.groups_digits g (hcons ▸ List.mem_cons_self)).1
      rw [checkedDigits, hcons, List.flatten_cons]
      exact List.append_ne_nil_of_left_ne_nil hg _

/-- **Numeric guard completeness**, for a text of mentions: it is accepted
exactly if each is found as it is looked for. -/
theorem integersFit_summary_iff {rows : List Row} (summary : Summary rows) :
    integersFit summary.text rows = true ↔ ∀ r ∈ summary.checked, FoundAs r := by
  rw [integersFit_iff_forms]
  simp only [integerTokens, plainTokens_text_summary, read_checkedDigits, foundAs_iff,
    List.mem_map, List.mem_filter, decide_eq_true_eq]
  constructor
  · intro h r hr
    exact h _ ⟨checkedDigits r, ⟨⟨r, hr, rfl⟩, checkedDigits_ne_nil hr⟩, rfl⟩
  · rintro h form ⟨digits, ⟨⟨r, hr, rfl⟩, -⟩, rfl⟩
    exact h r hr

end

/-! ## Numbers that are not found -/

/-- One of the digits from U+0660 on. -/
def isArabicDigit (c : Char) : Bool := 0x660 ≤ c.toNat && c.toNat ≤ 0x669

theorem not_isArabicDigit {c : Char} (h : c.toNat < 128) : isArabicDigit c = false := by
  unfold isArabicDigit
  rw [Bool.and_eq_false_iff, decide_eq_false_iff_not]
  exact .inl (by omega)

theorem not_isArabicDigit_of_isSpace {c : Char} (h : isSpace c = true) : isArabicDigit c = false := by
  rw [← Bool.not_eq_true]
  simp [isSpace, isArabicDigit] at h ⊢
  omega

/-- The ASCII tables with the Arabic digits. -/
@[reducible] def arabicPython : Python :=
  { Python.folding with
    isAlnum := fun c => @Python.isAlnum Python.folding c || isArabicDigit c }

@[reducible] def arabicTables : @PythonTables arabicPython :=
  letI := arabicPython
  { decimal := fun c =>
      if isArabicDigit c then some (c.toNat - 0x660)
      else if c.isDigit then some (c.toNat - 48) else none
    decimal_ascii := fun c h => by rw [not_isArabicDigit h, if_neg Bool.false_ne_true]
    isAlnum_ascii := fun c h => by
      show (@Python.isAlnum Python.folding c || isArabicDigit c) = _
      rw [not_isArabicDigit h, Bool.or_false]
      exact @PythonTables.isAlnum_ascii Python.folding PythonTables.folding c h
    isAlnum_folded := fun c h => by
      show (@Python.isAlnum Python.folding c || isArabicDigit c) = true
      rw [@PythonTables.isAlnum_folded Python.folding PythonTables.folding c h, Bool.true_or]
    isAlnum_of_decimal := fun c h => by
      show (@Python.isAlnum Python.folding c || isArabicDigit c) = true
      by_cases harabic : isArabicDigit c = true
      · rw [harabic, Bool.or_true]
      · rw [if_neg harabic] at h
        rw [@PythonTables.isAlnum_of_decimal Python.folding PythonTables.folding c h, Bool.true_or]
    isAlnum_of_isSpace := fun c h => by
      have harabic := not_isArabicDigit_of_isSpace h
      show (@Python.isAlnum Python.folding c || isArabicDigit c) = false
      rw [@PythonTables.isAlnum_of_isSpace Python.folding PythonTables.folding c h, harabic,
        Bool.or_false] }

/-- Forty-two orders, in Arabic digits. -/
theorem not_guardSound_arabic :
    letI := arabicPython
    letI := arabicTables
    ¬ ∀ (content : String) (rows : List Row), GuardSound content rows := by
  let _ := arabicPython
  let _ := arabicTables
  intro h
  let content := "\u0664\u0662"
  let rows : List Row := [[("orders", .int 7)]]
  have hlist : content.toList = ['\u0664', '\u0662'] := by decide
  have hfirst : decimals.digit '\u0664' = true := by decide
  have hsecond : ∀ c ∈ ['\u0662'], decimals.numeral c = true :=
    List.forall_mem_singleton.mpr (by decide)
  have hend : ∀ c ∈ ([] : List Char).head?, decimals.numeral c = false := nofun
  have hrun := findTokens_run hfirst hsecond hend
  rw [fractionOf, findTokens, List.append_nil, ← hlist] at hrun
  have hwhole : wholeTokens content = [['\u0664', '\u0662']] := by
    rw [wholeTokens, hrun, hlist]
    rfl
  have haccepted : integersFit content rows = true := by
    rw [integersFit_iff, hwhole]
    intro token htoken hrejected
    rw [List.mem_singleton.mp htoken] at hrejected
    exact hrejected.1 (by decide)
  have hvalue : denotes ['\u0664', '\u0662'] = 42 := by decide
  have hfact := h content rows haccepted _ (hwhole ▸ List.mem_singleton_self _)
  rw [hvalue] at hfact
  rcases hfact with hcount | ⟨row, hrow, kv, hkv, hcell⟩
  · exact absurd hcount (by decide)
  · rw [List.mem_singleton.mp hrow, List.mem_singleton] at hkv
    rw [hkv] at hcell
    exact absurd hcell (by decide)

/-- A balance below zero. -/
theorem not_integersFit_negative :
    letI := Python.folding
    letI := PythonTables.folding
    ¬ ∀ (rows : List Row) (summary : Summary rows), integersFit summary.text rows = true := by
  let _ := Python.folding
  let _ := PythonTables.folding
  intro h
  let rows : List Row := [[("balance", .int (-5))]]
  let mention : Mention rows :=
    ⟨[], -5, false, nofun, .inr ⟨_, List.mem_cons_self, _, List.mem_cons_self, rfl⟩⟩
  let summary : Summary rows := ⟨[], [mention], [], nofun, nofun, nofun⟩
  have hfound : "5" ∈ allowedForms rows := by
    refine integersFit_iff_forms.mp (h rows summary) "5" ?_
    rw [integerTokens, plainTokens_text_summary]
    decide
  exact absurd hfound (by decide)

end DbGateway.Presentation
