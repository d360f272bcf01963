import DbGateway.Json.Text

/-!
# DbGateway.Json.Roundtrip

What `json.dumps` writes, `json.loads` reads back.

Each token is read from the front of a longer text: digits up to what cannot
continue them, a string up to its closing quote.  The walk over the document
follows its constructors; its fuel is the length of the text that is left.
-/

namespace DbGateway.Json

/-! ## Digits -/

/-- Digits, then something else. -/
theorem takeWhile_digits {ds rest : List Char} (hds : ∀ c ∈ ds, c.isDigit = true)
    (hrest : ∀ c ∈ rest.head?, c.isDigit = false) :
    (ds ++ rest).takeWhile Char.isDigit = ds ∧ (ds ++ rest).dropWhile Char.isDigit = rest := by
  have hstop : rest.takeWhile Char.isDigit = [] ∧ rest.dropWhile Char.isDigit = rest := by
    cases rest with
    | nil => exact ⟨rfl, rfl⟩
    | cons c rest =>
        have hc := hrest c rfl
        rw [List.takeWhile_cons, List.dropWhile_cons, hc]
        exact ⟨rfl, rfl⟩
  rw [List.takeWhile_append_of_pos hds, List.dropWhile_append_of_pos hds, hstop.1, hstop.2,
    List.append_nil]
  exact ⟨rfl, rfl⟩

/-- What cannot continue a number continues it by neither a fraction nor an
exponent. -/
theorem scan_stops {rest : List Char} (hrest : Stops rest) :
    scanFraction rest = ([], rest) ∧ scanExponent rest = ([], rest) := by
  cases rest with
  | nil => exact ⟨rfl, rfl⟩
  | cons c rest =>
      obtain ⟨-, hdot, he, hE⟩ := hrest c rfl
      simp [scanFraction, scanExponent, hdot, he, hE]

theorem digitChar_ne_zero : ∀ d < 10, 0 < d → Nat.digitChar d ≠ '0' := by decide

/-- A positive number does not start with a zero. -/
theorem toDigits_head (n : Nat) (hn : 0 < n) :
    ∃ c cs, Nat.toDigits 10 n = c :: cs ∧ c ≠ '0' := by
  induction n using Nat.strong_induction_on with
  | _ n ih =>
      by_cases hlt : n < 10
      · exact ⟨n.digitChar, [], Nat.toDigits_of_lt_base hlt, digitChar_ne_zero n hlt hn⟩
      · obtain ⟨c, cs, hdigits, hc⟩ := ih (n / 10) (by omega) (by omega)
        rw [Nat.toDigits_of_base_le (by omega) (by omega), hdigits]
        exact ⟨c, _, rfl, hc⟩

theorem scanMagnitude_toDigits (n : Nat) {rest : List Char}
    (hrest : ∀ c ∈ rest.head?, c.isDigit = false) :
    scanMagnitude (Nat.toDigits 10 n ++ rest) = some (Nat.toDigits 10 n, rest) := by
  by_cases hn : n = 0
  · subst hn
    rw [Nat.toDigits_zero]
    rfl
  · obtain ⟨c, cs, hdigits, hc⟩ := toDigits_head n (by omega)
    have hall : ∀ d ∈ c :: cs, d.isDigit = true := by
      intro d hd
      rw [← hdigits] at hd
      exact Nat.isDigit_of_mem_toDigits (by omega) (by omega) hd
    have htail := takeWhile_digits (fun d hd => hall d (List.mem_cons_of_mem _ hd)) hrest
    rw [hdigits, List.cons_append, scanMagnitude, if_neg hc, if_pos (hall c List.mem_cons_self),
      htail.1, htail.2]

/-- The digits of a number begin with a digit. -/
theorem toDigits_cons (n : Nat) : ∃ c cs, Nat.toDigits 10 n = c :: cs ∧ c.isDigit = true := by
  cases hdigits : Nat.toDigits 10 n with
  | nil => exact absurd hdigits Nat.toDigits_ne_nil
  | cons c cs =>
      have hc : c ∈ Nat.toDigits 10 n := hdigits ▸ List.mem_cons_self
      exact ⟨c, cs, rfl, Nat.isDigit_of_mem_toDigits (by omega) (by omega) hc⟩

theorem ne_minus_of_isDigit {c : Char} (h : c.isDigit = true) : c ≠ '-' := by
  intro hc
  rw [hc] at h
  contradiction

/-- An integer is read back. -/
theorem scanInteger_printInt (n : Int) {rest : List Char}
    (hrest : ∀ c ∈ rest.head?, c.isDigit = false) :
    scanInteger (printInt n ++ rest) = some (printInt n, rest) := by
  cases n with
  | ofNat n =>
      obtain ⟨c, cs, hdigits, hc⟩ := toDigits_cons n
      have hmagnitude := scanMagnitude_toDigits n hrest
      rw [hdigits, List.cons_append] at hmagnitude
      rw [printInt, hdigits, List.cons_append, scanInteger, if_neg (ne_minus_of_isDigit hc),
        hmagnitude]
  | negSucc n =>
      rw [printInt, List.cons_append, scanInteger, if_pos rfl, scanMagnitude_toDigits _ hrest]
      rfl

theorem intOf_printInt (n : Int) : intOf (printInt n) = n := by
  cases n with
  | ofNat n =>
      obtain ⟨c, cs, hdigits, hc⟩ := toDigits_cons n
      rw [printInt, hdigits, intOf, if_neg (ne_minus_of_isDigit hc), ← hdigits,
        Nat.ofDigitChars_ten_toDigits]
      rfl
  | negSucc n =>
      rw [printInt, intOf, if_pos rfl, Nat.ofDigitChars_ten_toDigits]
      rfl

/-! ## Strings -/

theorem hexVal_digitChar : ∀ d < 16, hexVal (Nat.digitChar d) = some d := by decide

theorem hex4_hexDigits {n : Nat} (h : n < 0x10000) (rest : List Char) :
    hex4 (hexDigits n ++ rest) = some (n, rest) := by
  simp only [hexDigits, List.cons_append, List.nil_append, hex4,
    hexVal_digitChar (n / 4096 % 16) (by omega), hexVal_digitChar (n / 256 % 16) (by omega),
    hexVal_digitChar (n / 16 % 16) (by omega), hexVal_digitChar (n % 16) (by omega),
    Option.bind_eq_bind, Option.bind_some, Option.pure_def]
  have hn : ((n / 4096 % 16 * 16 + n / 256 % 16) * 16 + n / 16 % 16) * 16 + n % 16 = n := by omega
  rw [hn]

/-- A character is no surrogate. -/
theorem toNat_not_surrogate (c : Char) :
    c.toNat < 0xd800 ∨ 0xdfff < c.toNat ∧ c.toNat < 0x110000 := by
  have hvalid := c.valid
  have hnat : c.toNat = c.val.toNat := rfl
  rcases hvalid with h | h
  · left
    exact h
  · right
    exact h

/-- What follows a backslash stands for one character. -/
theorem scanString_backslash {cs rest : List Char} {c : Char} (fuel : Nat)
    (h : unescape cs = some (c, rest)) :
    scanString (fuel + 1) ('\\' :: cs) =
      (scanString fuel rest).map fun found => (c :: found.1, found.2) := by
  rw [scanString, if_neg (by decide), if_pos rfl, h]
  cases hrest : scanString fuel rest <;> simp [hrest]

/-- One of the four-digit escapes. -/
theorem unescape_hex {n : Nat} (hn : n < 0xd800 ∨ 0xdfff < n ∧ n < 0x10000) (rest : List Char) :
    unescape ('u' :: hexDigits n ++ rest) = some (Char.ofNat n, rest) := by
  have hhigh : ¬ (0xd800 ≤ n ∧ n ≤ 0xdbff) := by omega
  have hlow : ¬ (0xdc00 ≤ n ∧ n ≤ 0xdfff) := by omega
  simp [unescape, hex4_hexDigits (show n < 0x10000 by omega) rest, hhigh, hlow]

/-- A surrogate pair. -/
theorem unescape_pair {n : Nat} (hn : n < 0x100000) (rest : List Char) :
    unescape ('u' :: hexDigits (0xd800 + n / 1024) ++
      '\\' :: 'u' :: hexDigits (0xdc00 + n % 1024) ++ rest) =
        some (Char.ofNat (0x10000 + n), rest) := by
  have hhigh : 0xd800 ≤ 0xd800 + n / 1024 ∧ 0xd800 + n / 1024 ≤ 0xdbff := by omega
  have hlow : 0xdc00 ≤ 0xdc00 + n % 1024 ∧ 0xdc00 + n % 1024 ≤ 0xdfff := by omega
  have hsum : 0x10000 + (0xd800 + n / 1024 - 0xd800) * 1024 + (0xdc00 + n % 1024 - 0xdc00) =
      0x10000 + n := by omega
  rw [List.append_assoc, List.cons_append, List.cons_append, List.cons_append, unescape]
  simp only [Char.reduceEq, decide_false, Bool.or_self, Bool.false_eq_true, if_false, if_true,
    hex4_hexDigits (show 0xd800 + n / 1024 < 0x10000 by omega), Option.bind_eq_bind,
    Option.bind_some, if_pos hhigh, lowSurrogate,
    hex4_hexDigits (show 0xdc00 + n % 1024 < 0x10000 by omega), if_pos hlow, hsum,
    Option.pure_def]

/-- A character stands for itself, or is written as an escape for it. -/
theorem escapeChar_cases (c : Char) :
    (escapeChar c = [c] ∧ c ≠ '"' ∧ c ≠ '\\' ∧ 0x20 ≤ c.toNat) ∨
      ∃ escape, escapeChar c = '\\' :: escape ∧
        ∀ rest, unescape (escape ++ rest) = some (c, rest) := by
  by_cases hquote : c = '"'
  · subst hquote
    exact .inr ⟨['"'], rfl, fun _ => rfl⟩
  by_cases hbackslash : c = '\\'
  · subst hbackslash
    exact .inr ⟨['\\'], rfl, fun _ => rfl⟩
  by_cases hnewline : c = '\n'
  · subst hnewline
    exact .inr ⟨['n'], rfl, fun _ => rfl⟩
  by_cases hreturn : c = '\x0d'
  · subst hreturn
    exact .inr ⟨['r'], rfl, fun _ => rfl⟩
  by_cases htab : c = '\t'
  · subst htab
    exact .inr ⟨['t'], rfl, fun _ => rfl⟩
  by_cases hfeed : c = '\x0c'
  · subst hfeed
    exact .inr ⟨['f'], rfl, fun _ => rfl⟩
  by_cases hback : c = '\x08'
  · subst hback
    exact .inr ⟨['b'], rfl, fun _ => rfl⟩
  rw [escapeChar, if_neg hquote, if_neg hbackslash, if_neg hnewline, if_neg hreturn, if_neg htab,
    if_neg hfeed, if_neg hback]
  have hvalid := toNat_not_surrogate c
  by_cases hprintable : 0x20 ≤ c.toNat ∧ c.toNat ≤ 0x7e
  · rw [if_pos hprintable]
    exact .inl ⟨rfl, hquote, hbackslash, hprintable.1⟩
  rw [if_neg hprintable]
  right
  by_cases hbmp : c.toNat < 0x10000
  · rw [if_pos hbmp]
    refine ⟨_, rfl, fun rest => ?_⟩
    have hhex := unescape_hex (n := c.toNat) (by omega) rest
    rw [Char.ofNat_toNat] at hhex
    exact hhex
  · rw [if_neg hbmp]
    refine ⟨_, rfl, fun rest => ?_⟩
    have hpair := unescape_pair (n := c.toNat - 0x10000) (by omega) rest
    have hsum : 0x10000 + (c.toNat - 0x10000) = c.toNat := by omega
    rw [hsum, Char.ofNat_toNat] at hpair
    exact hpair

theorem length_escapeChar_pos (c : Char) : 0 < (escapeChar c).length := by
  obtain ⟨h, -⟩ | ⟨escape, h, -⟩ := escapeChar_cases c <;>
  · rw [h]
    exact Nat.succ_pos _

/-- One character is read back. -/
theorem scanString_escapeChar (fuel : Nat) (c : Char) (rest : List Char) :
    scanString (fuel + 1) (escapeChar c ++ rest) =
      (scanString fuel rest).map fun found => (c :: found.1, found.2) := by
  obtain ⟨h, hquote, hbackslash, hcontrol⟩ | ⟨escape, h, hunescape⟩ := escapeChar_cases c
  · rw [h, List.singleton_append, scanString, if_neg hquote, if_neg hbackslash,
      if_neg (by omega)]
    cases hrest : scanString fuel rest <;> simp
  · rw [h, List.cons_append]
    exact scanString_backslash fuel (hunescape rest)

/-- **A string literal is read back** up to its closing quote. -/
theorem scanString_escaped (s : List Char) (rest : List Char) (fuel : Nat)
    (hfuel : (s.flatMap escapeChar).length + 1 ≤ fuel) :
    scanString fuel (s.flatMap escapeChar ++ '"' :: rest) = some (s, rest) := by
  induction s generalizing fuel with
  | nil =>
      obtain ⟨fuel, rfl⟩ : ∃ f, fuel = f + 1 := ⟨fuel - 1, by omega⟩
      rfl
  | cons c s ih =>
      obtain ⟨fuel, rfl⟩ : ∃ f, fuel = f + 1 := ⟨fuel - 1, by omega⟩
      have hpos := length_escapeChar_pos c
      rw [List.flatMap_cons, List.length_append] at hfuel
      rw [List.flatMap_cons, List.append_assoc, scanString_escapeChar, ih fuel (by omega)]
      rfl

/-- Characters that stand for themselves in a string literal. -/
def isPlain (c : Char) : Bool := c ≠ '"' && c ≠ '\\' && 0x20 ≤ c.toNat

/-- Text that needs no escape is read as it stands. -/
theorem scanString_plain {s : List Char} (hs : ∀ c ∈ s, isPlain c = true) (rest : List Char)
    {fuel : Nat} (hfuel : s.length + 1 ≤ fuel) :
    scanString fuel (s ++ '"' :: rest) = some (s, rest) := by
  induction s generalizing fuel with
  | nil =>
      obtain ⟨fuel, rfl⟩ : ∃ f, fuel = f + 1 := ⟨fuel - 1, by omega⟩
      rfl
  | cons c s ih =>
      obtain ⟨fuel, rfl⟩ : ∃ f, fuel = f + 1 := ⟨fuel - 1, by omega⟩
      have hc := hs c List.mem_cons_self
      simp only [isPlain, ne_eq, decide_not, Bool.and_eq_true, Bool.not_eq_true',
        decide_eq_false_iff_not, decide_eq_true_eq] at hc
      obtain ⟨⟨hquote, hbackslash⟩, hcontrol⟩ := hc
      have hrest := ih (fun d hd => hs d (List.mem_cons_of_mem _ hd))
        (show s.length + 1 ≤ fuel by rw [List.length_cons] at hfuel; omega)
      rw [List.cons_append, scanString, if_neg hquote, if_neg hbackslash, if_neg (by omega), hrest]
      rfl

/-! ## Tokens -/

theorem stops_nil : Stops [] := by
  intro c hc
  contradiction

/-- What may follow a value in a document. -/
theorem stops_cons {c : Char} (rest : List Char) (h : c = ',' ∨ c = ']' ∨ c = '\x7d') :
    Stops (c :: rest) := by
  intro d hd
  have hcd : c = d := Option.some_inj.mp hd
  subst hcd
  obtain h | h | h := h <;> subst h <;> decide

/-- Nothing to skip. -/
theorem skip_cons {c : Char} (rest : List Char) (h : isBlank c = false) :
    skip (c :: rest) = c :: rest := by
  rw [skip, List.dropWhile_cons, h]
  rfl

theorem skip_gap (sep : Separators) (rest : List Char) : skip (sep.gap ++ rest) = skip rest := by
  cases sep <;> rfl

/-- What a value can begin with. -/
def Begins (c : Char) : Prop := isBlank c = false ∧ c ≠ ']' ∧ c ≠ '\x7d'

/-- A number literal begins with its sign or a digit. -/
theorem scanInteger_head {cs : List Char} {found : List Char × List Char}
    (h : scanInteger cs = some found) :
    ∃ c rest, cs = c :: rest ∧ (c = '-' ∨ c.isDigit = true) := by
  cases cs with
  | nil => contradiction
  | cons c rest =>
      by_cases hminus : c = '-'
      · exact ⟨c, rest, rfl, .inl hminus⟩
      by_cases hzero : c = '0'
      · exact ⟨c, rest, rfl, .inr (by rw [hzero]; rfl)⟩
      by_cases hdigit : c.isDigit = true
      · exact ⟨c, rest, rfl, .inr hdigit⟩
      · rw [scanInteger, if_neg hminus, scanMagnitude, if_neg hzero, if_neg hdigit] at h
        contradiction

/-- Nothing but a number begins with a sign or a digit. -/
theorem sign_or_digit {c : Char} (h : c = '-' ∨ c.isDigit = true) :
    Begins c ∧ c ≠ '"' ∧ c ≠ '[' ∧ c ≠ '\x7b' ∧ c ≠ 'n' ∧ c ≠ 't' ∧ c ≠ 'f' := by
  obtain h | h := h
  · subst h
    unfold Begins
    decide
  · have hne : ∀ d : Char, d.isDigit = false → c ≠ d := by
      intro d hd hcd
      rw [hcd, hd] at h
      contradiction
    refine ⟨⟨?_, hne _ rfl, hne _ rfl⟩, hne _ rfl, hne _ rfl, hne _ rfl, hne _ rfl, hne _ rfl,
      hne _ rfl⟩
    simp [isBlank, hne ' ' rfl, hne '\t' rfl, hne '\n' rfl, hne '\x0d' rfl]

/-! ## Documents -/

section

variable [Python] [PythonFloat]

mutual
/-- A document Python can hold: its floats are floats, its objects have each
key once. -/
def Proper : Json → Prop
  | .float q => PythonFloat.isFloat q
  | .arr items => ProperItems items
  | .obj fields => (fields.map Prod.fst).Nodup ∧ ProperFields fields
  | _ => True

def ProperItems : List Json → Prop
  | [] => True
  | x :: xs => Proper x ∧ ProperItems xs

def ProperFields : List (String × Json) → Prop
  | [] => True
  | (_, v) :: xs => Proper v ∧ ProperFields xs
end

theorem properFields_iff {xs : List (String × Json)} :
    ProperFields xs ↔ ∀ kv ∈ xs, Proper kv.2 := by
  induction xs with
  | nil => simp [ProperFields]
  | cons x xs ih => simp [ProperFields, ih]

/-- A number is read as one. -/
theorem value_number {c : Char} (h : c = '-' ∨ c.isDigit = true) (fuel : Nat) (cs : List Char) :
    value (fuel + 1) (c :: cs) = number (c :: cs) := by
  obtain ⟨-, hquote, hbracket, hbrace, hn, ht, hf⟩ := sign_or_digit h
  rw [value, if_neg hquote, if_neg hbracket, if_neg hbrace, if_neg hn, if_neg ht, if_neg hf]

theorem value_printInt (n : Int) (fuel : Nat) {rest : List Char} (hrest : Stops rest) :
    value (fuel + 1) (printInt n ++ rest) = some (.int n, rest) := by
  have hscan := scanInteger_printInt n fun c hc => (hrest c hc).1
  obtain ⟨c, cs, hcs, hc⟩ := scanInteger_head hscan
  have hstops := scan_stops hrest
  rw [hcs, value_number hc, ← hcs, number, scanNumber, hscan]
  simp only [Option.map_some, hstops.1, hstops.2, List.append_nil, if_true, intOf_printInt]

theorem value_float {q : Rat} (hq : PythonFloat.isFloat q) (fuel : Nat) {rest : List Char}
    (hrest : Stops rest) :
    value (fuel + 1) ((Python.floatRepr q).toList ++ rest) = some (.float q, rest) := by
  obtain ⟨integer, extra, hextra, htext, hscan⟩ := PythonFloat.scan_repr q hq
  have hnumber := hscan rest hrest
  obtain ⟨found, hfound, -⟩ := Option.map_eq_some_iff.mp hnumber
  obtain ⟨c, cs, hcs, hc⟩ := scanInteger_head hfound
  rw [hcs, value_number hc, ← hcs, number, hnumber, Option.map_some, if_neg hextra, htext,
    String.ofList_toList, PythonFloat.float_repr q hq]

/-- The text of a document begins with none of the closing characters. -/
theorem print_begins (sep : Separators) {v : Json} (hv : Proper v) :
    ∃ c cs, print sep v = c :: cs ∧ Begins c := by
  have hliteral : ∀ {literal : List Char}, (∃ found, scanInteger literal = some found) →
      ∃ c cs, literal = c :: cs ∧ Begins c := by
    intro literal hscan
    obtain ⟨found, hscan⟩ := hscan
    obtain ⟨c, cs, hcs, hc⟩ := scanInteger_head hscan
    exact ⟨c, cs, hcs, (sign_or_digit hc).1⟩
  cases v with
  | null => exact ⟨'n', _, rfl, by unfold Begins; decide⟩
  | bool b =>
      cases b
      · exact ⟨'f', _, rfl, by unfold Begins; decide⟩
      · exact ⟨'t', _, rfl, by unfold Begins; decide⟩
  | int n =>
      have hscan := scanInteger_printInt n fun c hc => (stops_nil c hc).1
      rw [List.append_nil] at hscan
      exact hliteral ⟨_, hscan⟩
  | float q =>
      obtain ⟨integer, extra, -, -, hscan⟩ := PythonFloat.scan_repr q hv
      have hnumber := hscan [] stops_nil
      rw [List.append_nil] at hnumber
      obtain ⟨found, hfound, -⟩ := Option.map_eq_some_iff.mp hnumber
      exact hliteral ⟨_, hfound⟩
  | str s => exact ⟨'"', _, rfl, by unfold Begins; decide⟩
  | arr items => exact ⟨'[', _, rfl, by unfold Begins; decide⟩
  | obj fields => exact ⟨'\x7b', _, rfl, by unfold Begins; decide⟩

/-- A value is where the gap ends. -/
theorem skip_print (sep : Separators) {v : Json} (hv : Proper v) (rest : List Char) :
    skip (print sep v ++ rest) = print sep v ++ rest := by
  obtain ⟨c, cs, hcs, hc⟩ := print_begins sep hv
  rw [hcs, List.cons_append, skip_cons _ hc.1]

/-- A field that another follows. -/
theorem fields_cons {fuel : Nat} {key cs cs₁ cs₂ cs₃ cs₄ : List Char} {v : Json}
    (hkey : scanString fuel cs = some (key, cs₁)) (hcolon : skip cs₁ = ':' :: cs₂)
    (hvalue : value fuel (skip cs₂) = some (v, cs₃)) (hcomma : skip cs₃ = ',' :: cs₄) :
    fields (fuel + 1) ('"' :: cs) =
      (fields fuel (skip cs₄)).map fun found => ((String.ofList key, v) :: found.1, found.2) := by
  rw [fields, if_pos rfl, hkey]
  simp only [Option.bind_eq_bind, Option.bind_some, hcolon, hvalue, hcomma]
  cases hrest : fields fuel (skip cs₄) <;> simp

/-- The last field. -/
theorem fields_last {fuel : Nat} {key cs cs₁ cs₂ cs₃ cs₄ : List Char} {v : Json}
    (hkey : scanString fuel cs = some (key, cs₁)) (hcolon : skip cs₁ = ':' :: cs₂)
    (hvalue : value fuel (skip cs₂) = some (v, cs₃)) (hclose : skip cs₃ = '\x7d' :: cs₄) :
    fields (fuel + 1) ('"' :: cs) = some ([(String.ofList key, v)], cs₄) := by
  rw [fields, if_pos rfl, hkey]
  simp only [Option.bind_eq_bind, Option.bind_some, hcolon, hvalue, hclose, Option.pure_def]

theorem length_print_pos (sep : Separators) {v : Json} (hv : Proper v) :
    0 < (print sep v).length := by
  obtain ⟨c, cs, hcs, -⟩ := print_begins sep hv
  rw [hcs]
  exact Nat.succ_pos _

mutual
/-- **A document is read back** from the front of a longer text. -/
theorem value_print (sep : Separators) (v : Json) (hv : Proper v) (fuel : Nat)
    (hfuel : (print sep v).length ≤ fuel) (rest : List Char) (hrest : Stops rest) :
    value fuel (print sep v ++ rest) = some (v, rest) := by
  have hpos := length_print_pos sep hv
  obtain ⟨fuel, rfl⟩ : ∃ f, fuel = f + 1 := ⟨fuel - 1, by omega⟩
  match v with
  | .null => rfl
  | .bool true => rfl
  | .bool false => rfl
  | .int n => exact value_printInt n fuel hrest
  | .float q => exact value_float hv fuel hrest
  | .str s =>
      rw [print, printString, List.length_append, List.length_cons, List.length_singleton] at hfuel
      rw [print, printString, List.append_assoc, List.cons_append, List.singleton_append, value,
        if_pos rfl, scanString_escaped s.toList rest fuel (by omega), Option.map_some,
        String.ofList_toList]
  | .arr [] => rfl
  | .arr (x :: xs) =>
      rw [print, List.length_append, List.length_cons, List.length_singleton] at hfuel
      have hitems := items_print sep (x :: xs) (List.cons_ne_nil _ _) hv fuel (by omega) rest
      obtain ⟨c, cs, hcs, hblank, hclose, -⟩ := print_begins sep hv.1
      obtain ⟨cs', hcs'⟩ : ∃ cs', printItems sep (x :: xs) ++ ']' :: rest = c :: cs' := by
        rw [printItems, hcs]
        exact ⟨_, rfl⟩
      rw [print, List.append_assoc, List.cons_append, List.singleton_append, value,
        if_neg (by decide), if_pos rfl, hcs', skip_cons _ hblank, ← hcs', hitems, hcs',
        List.head?_cons, if_neg fun h => hclose (Option.some_inj.mp h)]
      rfl
  | .obj [] => rfl
  | .obj ((k, v) :: xs) =>
      rw [print, List.length_append, List.length_cons, List.length_singleton] at hfuel
      have hfields := fields_print sep ((k, v) :: xs) (List.cons_ne_nil _ _) hv.2 fuel (by omega)
        rest
      obtain ⟨cs', hcs'⟩ : ∃ cs', printFields sep ((k, v) :: xs) ++ '\x7d' :: rest = '"' :: cs' :=
        ⟨_, rfl⟩
      rw [print, List.append_assoc, List.cons_append, List.singleton_append, value,
        if_neg (by decide), if_neg (by decide), if_pos rfl, hcs', skip_cons _ rfl, ← hcs', hfields,
        hcs', List.head?_cons, if_neg (by decide), Option.map_some, Dict.ofPairs_of_nodup hv.1]

theorem items_print (sep : Separators) (xs : List Json) (hne : xs ≠ []) (hxs : ProperItems xs)
    (fuel : Nat) (hfuel : (printItems sep xs).length + 1 ≤ fuel) (rest : List Char) :
    items fuel (printItems sep xs ++ ']' :: rest) = some (xs, rest) := by
  obtain ⟨fuel, rfl⟩ : ∃ f, fuel = f + 1 := ⟨fuel - 1, by omega⟩
  match xs with
  | [] => contradiction
  | [x] =>
      rw [printItems] at hfuel
      have hvalue := value_print sep x hxs.1 fuel (by simpa using hfuel) (']' :: rest)
        (stops_cons rest (.inr (.inl rfl)))
      have htext : printItems sep [x] ++ ']' :: rest = print sep x ++ ']' :: rest := by
        simp [printItems]
      rw [htext, items, hvalue]
      rfl
  | x :: y :: ys =>
      have hpos := length_print_pos sep hxs.1
      rw [printItems, List.length_append] at hfuel
      simp only [List.isEmpty_cons, Bool.false_eq_true, if_false, List.length_append,
        List.length_cons] at hfuel
      have hvalue := value_print sep x hxs.1 fuel (by omega)
        (',' :: (sep.gap ++ (printItems sep (y :: ys) ++ ']' :: rest)))
        (stops_cons _ (.inl rfl))
      have hitems := items_print sep (y :: ys) (List.cons_ne_nil _ _) hxs.2 fuel (by omega) rest
      obtain ⟨c, cs, hcs, hbegins⟩ := print_begins sep hxs.2.1
      have hskip : skip (printItems sep (y :: ys) ++ ']' :: rest) =
          printItems sep (y :: ys) ++ ']' :: rest := by
        rw [printItems, hcs, List.cons_append, List.cons_append, skip_cons _ hbegins.1]
      have htext : printItems sep (x :: y :: ys) ++ ']' :: rest =
          print sep x ++ ',' :: (sep.gap ++ (printItems sep (y :: ys) ++ ']' :: rest)) := by
        rw [printItems]
        simp
      rw [htext, items, hvalue]
      simp only [Option.bind_eq_bind, Option.bind_some, skip_cons _ (show isBlank ',' = false by rfl)]
      rw [skip_gap, hskip, hitems]
      rfl

theorem fields_print (sep : Separators) (xs : List (String × Json)) (hne : xs ≠ [])
    (hxs : ProperFields xs) (fuel : Nat) (hfuel : (printFields sep xs).length + 1 ≤ fuel)
    (rest : List Char) :
    fields fuel (printFields sep xs ++ '\x7d' :: rest) = some (xs, rest) := by
  obtain ⟨fuel, rfl⟩ : ∃ f, fuel = f + 1 := ⟨fuel - 1, by omega⟩
  match xs with
  | [] => contradiction
  | [(k, v)] =>
      have hlength : (printFields sep [(k, v)]).length =
          (k.toList.flatMap escapeChar).length + sep.gap.length + (print sep v).length + 3 := by
        simp [printFields, printString]
        omega
      have hkey := scanString_escaped k.toList
        (':' :: (sep.gap ++ (print sep v ++ '\x7d' :: rest))) fuel (by omega)
      have hvalue := value_print sep v hxs.1 fuel (by omega) ('\x7d' :: rest)
        (stops_cons rest (.inr (.inr rfl)))
      have htext : printFields sep [(k, v)] ++ '\x7d' :: rest =
          '"' :: (k.toList.flatMap escapeChar ++
            '"' :: ':' :: (sep.gap ++ (print sep v ++ '\x7d' :: rest))) := by
        simp [printFields, printString]
      rw [← skip_print sep hxs.1, ← skip_gap sep] at hvalue
      rw [htext, fields_last hkey (skip_cons _ rfl) hvalue (skip_cons _ rfl),
        String.ofList_toList]
  | (k, v) :: (k', v') :: xs =>
      have hlength : (printFields sep ((k, v) :: (k', v') :: xs)).length =
          (k.toList.flatMap escapeChar).length + sep.gap.length + (print sep v).length +
            sep.gap.length + (printFields sep ((k', v') :: xs)).length + 4 := by
        rw [printFields]
        simp [printString]
        omega
      have hkey := scanString_escaped k.toList (':' :: (sep.gap ++ (print sep v ++
        ',' :: (sep.gap ++ (printFields sep ((k', v') :: xs) ++ '\x7d' :: rest))))) fuel (by omega)
      have hvalue := value_print sep v hxs.1 fuel (by omega)
        (',' :: (sep.gap ++ (printFields sep ((k', v') :: xs) ++ '\x7d' :: rest)))
        (stops_cons _ (.inl rfl))
      have hfields := fields_print sep ((k', v') :: xs) (List.cons_ne_nil _ _) hxs.2 fuel
        (by omega) rest
      obtain ⟨cs, hcs⟩ : ∃ cs, printFields sep ((k', v') :: xs) ++ '\x7d' :: rest = '"' :: cs :=
        ⟨_, rfl⟩
      have htext : printFields sep ((k, v) :: (k', v') :: xs) ++ '\x7d' :: rest =
          '"' :: (k.toList.flatMap escapeChar ++ '"' :: ':' :: (sep.gap ++ (print sep v ++
            ',' :: (sep.gap ++ (printFields sep ((k', v') :: xs) ++ '\x7d' :: rest))))) := by
        rw [printFields]
        simp [printString]
      rw [← skip_print sep hxs.1, ← skip_gap sep] at hvalue
      rw [htext, fields_cons hkey (skip_cons _ rfl) hvalue (skip_cons _ rfl), skip_gap, hcs,
        skip_cons _ rfl, ← hcs, hfields, Option.map_some, String.ofList_toList]
end

/-- **`json.loads` undoes `json.dumps`.** -/
theorem loads_dumps (sep : Separators) {v : Json} (hv : Proper v) :
    loads (dumps sep v) = some v := by
  have hskip := skip_print sep hv []
  have hvalue := value_print sep v hv ((print sep v).length + 1) (by omega) [] stops_nil
  rw [List.append_nil] at hskip hvalue
  rw [loads, dumps, String.length_ofList, String.toList_ofList, hskip, hvalue]
  rfl

/-- The text of a document determines it. -/
theorem dumps_inj (sep : Separators) {v w : Json} (hv : Proper v) (hw : Proper w)
    (h : dumps sep v = dumps sep w) : v = w := by
  have hvw := (loads_dumps sep hv).symm.trans ((congrArg loads h).trans (loads_dumps sep hw))
  exact Option.some_inj.mp hvw

end

/-! ## Whole floats -/

/-- Python whose floats are whole numbers. -/
@[reducible] def whole : Python where
  __ := Python.ascii
  floatRepr q := String.ofList (printInt q.num ++ ['.', '0'])

/-- A whole float is its integer part followed by its fraction. -/
theorem scanNumber_whole (n : Int) {rest : List Char} (hrest : Stops rest) :
    scanNumber (printInt n ++ ['.', '0'] ++ rest) = some (printInt n, ['.', '0'], rest) := by
  have hdot : ∀ c ∈ ('.' :: '0' :: rest).head?, c.isDigit = false := by
    intro c hc
    have hcd : '.' = c := Option.some_inj.mp hc
    rw [← hcd]
    rfl
  have hzero : ∀ c ∈ ['0'], c.isDigit = true := by
    intro c hc
    rw [List.mem_singleton.mp hc]
    rfl
  obtain ⟨htake, hdrop⟩ := takeWhile_digits hzero fun c hc => (hrest c hc).1
  rw [List.singleton_append] at htake hdrop
  have hfraction : scanFraction ('.' :: '0' :: rest) = (['.', '0'], rest) := by
    rw [scanFraction, htake, hdrop]
    rfl
  rw [List.append_assoc, scanNumber, List.cons_append, List.singleton_append,
    scanInteger_printInt n hdot, Option.map_some, hfraction]
  simp only [(scan_stops hrest).2, List.append_nil]

@[reducible] def wholeFloat : @PythonFloat whole :=
  let _ := whole
  { isFloat := fun q => q.den = 1
    float := fun s => (intOf s.toList.dropLast.dropLast : Rat)
    addInt := fun q n => some ⟨((q.1.num + n : Int) : Rat), rfl⟩
    float_repr := by
      intro q hq
      have htext : (Python.floatRepr q).toList = printInt q.num ++ ['.', '0'] :=
        String.toList_ofList
      have hdrop : (printInt q.num ++ ['.', '0']).dropLast.dropLast = printInt q.num := by
        simp
      rw [htext, hdrop, intOf_printInt]
      exact Rat.ext rfl hq.symm
    scan_repr := by
      intro q hq
      have htext : (Python.floatRepr q).toList = printInt q.num ++ ['.', '0'] :=
        String.toList_ofList
      refine ⟨printInt q.num, ['.', '0'], List.cons_ne_nil _ _, htext.symm, ?_⟩
      intro rest hrest
      rw [htext]
      exact scanNumber_whole q.num hrest }

end DbGateway.Json
