import DbGateway.Json.Roundtrip

/-!
# DbGateway.Json.Prefix

Reading from the front of a longer text.

A document other than a number ends where it ends: it is read from a longer text
as it is read alone (`value_append`), so no shorter text is read as well
(`loads_prefix`).  A number ends where something follows that cannot continue it.
-/

namespace DbGateway.Json

/-! ## Blanks -/

theorem skip_suffix (cs : List Char) : skip cs <:+ cs := List.dropWhile_suffix _

theorem suffix_of_skip {cs r : List Char} {c : Char} (h : skip cs = c :: r) : r <:+ cs :=
  (List.suffix_cons c r).trans (h ▸ skip_suffix cs)

theorem skip_append {cs r : List Char} {c : Char} (h : skip cs = c :: r) (x : List Char) :
    skip (cs ++ x) = c :: (r ++ x) := by
  induction cs with
  | nil => contradiction
  | cons d cs ih =>
      rw [skip, List.dropWhile_cons] at h
      rw [List.cons_append, skip, List.dropWhile_cons]
      split at h
      case isTrue hblank =>
        rw [if_pos hblank]
        exact ih h
      case isFalse hblank =>
        rw [if_neg hblank, ← List.cons_append, h, List.cons_append]

theorem skip_append_of_ne {cs : List Char} (h : skip cs ≠ []) (x : List Char) :
    skip (cs ++ x) = skip cs ++ x := by
  obtain ⟨c, r, hcons⟩ := List.exists_cons_of_ne_nil h
  rw [hcons, skip_append hcons x]
  rfl

/-- A comma or a closing bracket, after blanks, ends a number. -/
theorem stops_of_skip {cs r : List Char} {c : Char} (h : skip cs = c :: r)
    (hc : c = ',' ∨ c = ']' ∨ c = '\x7d') : cs ≠ [] ∧ Stops cs := by
  cases cs with
  | nil => contradiction
  | cons d cs =>
      refine ⟨List.cons_ne_nil _ _, fun d' hd' => ?_⟩
      have hd : d = d' := Option.some_inj.mp hd'
      subst hd
      rw [skip, List.dropWhile_cons] at h
      split at h
      case isTrue hblank =>
        simp only [isBlank, Bool.or_eq_true, decide_eq_true_eq] at hblank
        rcases hblank with ((rfl | rfl) | rfl) | rfl <;> decide
      case isFalse =>
        rw [(List.cons.inj h).1]
        rcases hc with rfl | rfl | rfl <;> decide

/-! ## Numbers -/

/-- No digit is next. -/
def EndsDigits (rest : List Char) : Prop := ∀ c ∈ rest.head?, c.isDigit = false

/-- The digits of a magnitude, and that they are read before anything else. -/
theorem scanMagnitude_split {cs digits rest : List Char}
    (h : scanMagnitude cs = some (digits, rest)) :
    cs = digits ++ rest ∧ digits ≠ [] ∧ (∀ c ∈ digits, c.isDigit = true) ∧
      ∀ rest', EndsDigits rest' → scanMagnitude (digits ++ rest') = some (digits, rest') := by
  cases cs with
  | nil => contradiction
  | cons c cs =>
      rw [scanMagnitude] at h
      split at h
      case isTrue hzero =>
        obtain ⟨rfl, rfl⟩ := Prod.mk.inj (Option.some_inj.mp h)
        subst hzero
        refine ⟨rfl, List.cons_ne_nil _ _, fun d hd => List.mem_singleton.mp hd ▸ rfl, fun rest' _ => ?_⟩
        rw [List.singleton_append, scanMagnitude, if_pos rfl]
      case isFalse hzero =>
        split at h
        case isFalse => contradiction
        case isTrue hdigit =>
          obtain ⟨rfl, rfl⟩ := Prod.mk.inj (Option.some_inj.mp h)
          have hall : ∀ d ∈ cs.takeWhile Char.isDigit, d.isDigit = true :=
            fun _ hd => List.mem_takeWhile_imp hd
          refine ⟨?_, List.cons_ne_nil _ _, fun d hd => ?_, fun rest' hrest => ?_⟩
          · rw [List.cons_append, List.takeWhile_append_dropWhile]
          · exact (List.mem_cons.mp hd).elim (fun hc => hc ▸ hdigit) (hall d)
          · have hdigits := takeWhile_digits hall hrest
            rw [List.cons_append, scanMagnitude, if_neg hzero, if_pos hdigit, hdigits.1, hdigits.2]

/-- A character of a number literal. -/
def isNumberChar (c : Char) : Bool :=
  c.isDigit || c = '-' || c = '+' || c = '.' || c = 'e' || c = 'E'

theorem isNumberChar_of_isDigit {c : Char} (h : c.isDigit = true) : isNumberChar c = true := by
  rw [isNumberChar, h]
  rfl

theorem scanInteger_split {cs integer rest : List Char}
    (h : scanInteger cs = some (integer, rest)) :
    cs = integer ++ rest ∧ (∀ c ∈ integer, isNumberChar c = true) ∧
      ∀ rest', EndsDigits rest' → scanInteger (integer ++ rest') = some (integer, rest') := by
  cases cs with
  | nil => contradiction
  | cons c cs =>
      rw [scanInteger] at h
      split at h
      case isTrue hminus =>
        obtain ⟨⟨digits, rest₁⟩, hdigits, hfound⟩ := Option.map_eq_some_iff.mp h
        obtain ⟨rfl, rfl⟩ := Prod.mk.inj hfound
        obtain ⟨rfl, -, hall, hread⟩ := scanMagnitude_split hdigits
        subst hminus
        refine ⟨rfl, fun d hd => ?_, fun rest' hrest => ?_⟩
        · exact (List.mem_cons.mp hd).elim (fun hc => hc ▸ rfl)
            fun hmem => isNumberChar_of_isDigit (hall d hmem)
        · rw [List.cons_append, scanInteger, if_pos rfl, hread rest' hrest]
          rfl
      case isFalse hminus =>
        obtain ⟨hsplit, hne, hall, hread⟩ := scanMagnitude_split h
        refine ⟨hsplit, fun d hd => isNumberChar_of_isDigit (hall d hd), fun rest' hrest => ?_⟩
        obtain ⟨d, digits, rfl⟩ := List.exists_cons_of_ne_nil hne
        have hd : d ≠ '-' := ne_minus_of_isDigit (hall d List.mem_cons_self)
        rw [List.cons_append, scanInteger, if_neg hd, ← List.cons_append, hread rest' hrest]

theorem scanFraction_split (cs : List Char) :
    cs = (scanFraction cs).1 ++ (scanFraction cs).2 ∧
      (∀ c ∈ (scanFraction cs).1, isNumberChar c = true) ∧
      ∀ rest', EndsDigits rest' → rest'.head? ≠ some '.' →
        EndsDigits ((scanFraction cs).1 ++ rest') ∧
          scanFraction ((scanFraction cs).1 ++ rest') = ((scanFraction cs).1, rest') := by
  have hnone : ∀ rest' : List Char, rest'.head? ≠ some '.' → scanFraction rest' = ([], rest') := by
    intro rest' hpoint
    cases rest' with
    | nil => rfl
    | cons c rest' =>
        have hc : c ≠ '.' := fun hc => hpoint (congrArg some hc)
        rw [scanFraction, decide_eq_false hc, Bool.false_and, if_neg Bool.false_ne_true]
  have hnil : ∀ c ∈ ([] : List Char), isNumberChar c = true := fun c hc => absurd hc List.not_mem_nil
  cases cs with
  | nil => exact ⟨rfl, hnil, fun rest' hrest hpoint => ⟨hrest, hnone rest' hpoint⟩⟩
  | cons c cs =>
      rw [scanFraction]
      split
      case isFalse => exact ⟨rfl, hnil, fun rest' hrest hpoint => ⟨hrest, hnone rest' hpoint⟩⟩
      case isTrue hfraction =>
        have hall : ∀ d ∈ cs.takeWhile Char.isDigit, d.isDigit = true :=
          fun _ hd => List.mem_takeWhile_imp hd
        rw [Bool.and_eq_true, decide_eq_true_eq] at hfraction
        obtain ⟨rfl, hdigits⟩ := hfraction
        refine ⟨?_, fun d hd => ?_, fun rest' hrest _ => ⟨?_, ?_⟩⟩
        · rw [List.cons_append, List.takeWhile_append_dropWhile]
        · exact (List.mem_cons.mp hd).elim (fun hc => hc ▸ rfl)
            fun hmem => isNumberChar_of_isDigit (hall d hmem)
        · intro d hd
          exact Option.some_inj.mp hd ▸ rfl
        · have hread := takeWhile_digits hall hrest
          rw [List.cons_append, scanFraction, hread.1, hread.2, decide_eq_true rfl, hdigits]
          rfl

theorem scanSign_split (cs : List Char) :
    cs = (scanSign cs).1 ++ (scanSign cs).2 ∧ (∀ c ∈ (scanSign cs).1, isNumberChar c = true) ∧
      ∀ rest', (∀ c ∈ rest'.head?, c.isDigit = true) →
        scanSign ((scanSign cs).1 ++ rest') = ((scanSign cs).1, rest') := by
  have hnone : ∀ rest' : List Char, (∀ c ∈ rest'.head?, c.isDigit = true) →
      scanSign rest' = ([], rest') := by
    intro rest' hdigit
    cases rest' with
    | nil => rfl
    | cons c rest' =>
        have hc := hdigit c rfl
        have hplus : c ≠ '+' := by
          rintro rfl
          contradiction
        rw [scanSign, decide_eq_false hplus, decide_eq_false (ne_minus_of_isDigit hc)]
        rfl
  have hnil : ∀ c ∈ ([] : List Char), isNumberChar c = true := fun c hc => absurd hc List.not_mem_nil
  cases cs with
  | nil => exact ⟨rfl, hnil, hnone⟩
  | cons c cs =>
      rw [scanSign]
      split
      case isFalse => exact ⟨rfl, hnil, hnone⟩
      case isTrue hsign =>
        refine ⟨rfl, fun d hd => ?_, fun rest' _ => ?_⟩
        · rw [List.mem_singleton.mp hd]
          rw [Bool.or_eq_true, decide_eq_true_eq, decide_eq_true_eq] at hsign
          rcases hsign with rfl | rfl <;> rfl
        · rw [List.singleton_append, scanSign, if_pos hsign]

theorem scanExponent_cons (c : Char) (cs : List Char) :
    scanExponent (c :: cs) =
      if (c = 'e' || c = 'E') && (scanSign cs).2.takeWhile Char.isDigit ≠ [] then
        (c :: (scanSign cs).1 ++ (scanSign cs).2.takeWhile Char.isDigit,
          (scanSign cs).2.dropWhile Char.isDigit)
      else ([], c :: cs) := rfl

theorem scanExponent_split (cs : List Char) :
    cs = (scanExponent cs).1 ++ (scanExponent cs).2 ∧
      (∀ c ∈ (scanExponent cs).1, isNumberChar c = true) ∧
      ∀ rest', Stops rest' →
        EndsDigits ((scanExponent cs).1 ++ rest') ∧
          ((scanExponent cs).1 ++ rest').head? ≠ some '.' ∧
          scanExponent ((scanExponent cs).1 ++ rest') = ((scanExponent cs).1, rest') := by
  have hnone : ∀ rest' : List Char, Stops rest' →
      EndsDigits rest' ∧ rest'.head? ≠ some '.' ∧ scanExponent rest' = ([], rest') :=
    fun rest' hrest => ⟨fun c hc => (hrest c hc).1, fun hpoint => (hrest '.' hpoint).2.1 rfl,
      (scan_stops hrest).2⟩
  have hnil : ∀ c ∈ ([] : List Char), isNumberChar c = true := fun c hc => absurd hc List.not_mem_nil
  cases cs with
  | nil => exact ⟨rfl, hnil, hnone⟩
  | cons c cs =>
      obtain ⟨hsplit, hsign, hread⟩ := scanSign_split cs
      rw [scanExponent_cons]
      split
      case isFalse => exact ⟨rfl, hnil, hnone⟩
      case isTrue hexponent =>
        have hall : ∀ d ∈ (scanSign cs).2.takeWhile Char.isDigit, d.isDigit = true :=
          fun _ hd => List.mem_takeWhile_imp hd
        rw [Bool.and_eq_true, Bool.or_eq_true, decide_eq_true_eq, decide_eq_true_eq,
          decide_eq_true_eq] at hexponent
        obtain ⟨he, hdigits⟩ := hexponent
        have hc : c.isDigit = false ∧ c ≠ '.' ∧ isNumberChar c = true := by
          rcases he with rfl | rfl <;> decide
        refine ⟨?_, fun d hd => ?_, fun rest' hrest => ⟨?_, ?_, ?_⟩⟩
        · rw [List.append_assoc, List.takeWhile_append_dropWhile, List.cons_append, ← hsplit]
        · rcases List.mem_append.mp hd with hd | hd
          · exact (List.mem_cons.mp hd).elim (fun h => h ▸ hc.2.2) (hsign d)
          · exact isNumberChar_of_isDigit (hall d hd)
        · exact fun d hd => Option.some_inj.mp hd ▸ hc.1
        · exact fun h => hc.2.1 (Option.some_inj.mp h)
        · have hstop := (hnone rest' hrest).1
          have htake := takeWhile_digits hall hstop
          have hhead : ∀ d ∈ ((scanSign cs).2.takeWhile Char.isDigit ++ rest').head?,
              d.isDigit = true := by
            obtain ⟨d, ds, hcons⟩ := List.exists_cons_of_ne_nil hdigits
            intro d' hd'
            rw [hcons] at hd'
            exact Option.some_inj.mp hd' ▸ hall d (hcons ▸ List.mem_cons_self)
          rw [List.cons_append, List.cons_append, List.append_assoc, scanExponent_cons,
            hread _ hhead, htake.1, htake.2, if_pos]
          · rfl
          · rw [Bool.and_eq_true, Bool.or_eq_true, decide_eq_true_eq, decide_eq_true_eq,
              decide_eq_true_eq]
            exact ⟨he, hdigits⟩

/-- What a number literal holds, and that it is read before anything that cannot
continue it. -/
theorem scanNumber_split {cs integer extra rest : List Char}
    (h : scanNumber cs = some (integer, extra, rest)) :
    cs = integer ++ (extra ++ rest) ∧ (∀ c ∈ integer ++ extra, isNumberChar c = true) ∧
      ∀ rest', Stops rest' →
        scanNumber (integer ++ (extra ++ rest')) = some (integer, extra, rest') := by
  obtain ⟨⟨integer', rest₁⟩, hinteger, hfound⟩ := Option.map_eq_some_iff.mp h
  simp only [Prod.mk.injEq] at hfound
  obtain ⟨rfl, rfl, rfl⟩ := hfound
  obtain ⟨hsplit₁, hchars₁, hread₁⟩ := scanInteger_split hinteger
  obtain ⟨hsplit₂, hchars₂, hread₂⟩ := scanFraction_split rest₁
  obtain ⟨hsplit₃, hchars₃, hread₃⟩ := scanExponent_split (scanFraction rest₁).2
  refine ⟨?_, fun c hc => ?_, fun rest' hrest => ?_⟩
  · rw [List.append_assoc, ← hsplit₃, ← hsplit₂, ← hsplit₁]
  · rcases List.mem_append.mp hc with hc | hc
    · exact hchars₁ c hc
    · exact (List.mem_append.mp hc).elim (hchars₂ c) (hchars₃ c)
  · obtain ⟨hends, hpoint, hexponent⟩ := hread₃ rest' hrest
    obtain ⟨hends', hfraction⟩ := hread₂ _ hends hpoint
    rw [List.append_assoc, scanNumber, hread₁ _ hends', Option.map_some]
    dsimp only
    rw [hfraction, hexponent]

/-! ## Strings -/

theorem hex4_append {cs rest : List Char} {n : Nat} (h : hex4 cs = some (n, rest)) (x : List Char) :
    hex4 (cs ++ x) = some (n, rest ++ x) ∧ rest <:+ cs := by
  match cs with
  | a :: b :: c :: d :: cs =>
      simp only [hex4, Option.bind_eq_bind, Option.pure_def, Option.bind_eq_some_iff] at h
      obtain ⟨a', ha, b', hb, c', hc, d', hd, hfound⟩ := h
      obtain ⟨rfl, rfl⟩ := Prod.mk.inj (Option.some_inj.mp hfound)
      refine ⟨?_, ⟨[a, b, c, d], rfl⟩⟩
      simp only [List.cons_append, hex4, ha, hb, hc, hd, Option.bind_eq_bind, Option.bind_some,
        Option.pure_def]
  | [] | [_] | [_, _] | [_, _, _] => contradiction

theorem lowSurrogate_append {cs rest : List Char} {high : Nat} {c : Char}
    (h : lowSurrogate high cs = some (c, rest)) (x : List Char) :
    lowSurrogate high (cs ++ x) = some (c, rest ++ x) ∧ rest <:+ cs := by
  unfold lowSurrogate at h
  split at h
  case h_1 cs =>
    obtain ⟨⟨low, rest₁⟩, hlow, hfound⟩ := Option.bind_eq_some_iff.mp h
    obtain ⟨happend, hsuffix⟩ := hex4_append hlow x
    dsimp only at hfound
    split at hfound
    case isFalse => contradiction
    case isTrue hrange =>
      obtain ⟨rfl, rfl⟩ := Prod.mk.inj (Option.some_inj.mp hfound)
      refine ⟨?_, hsuffix.trans ⟨['\\', 'u'], rfl⟩⟩
      rw [List.cons_append, List.cons_append, lowSurrogate, happend]
      simp only [Option.bind_eq_bind, Option.bind_some, if_pos hrange, Option.pure_def]
  case h_2 => contradiction

/-- What an escape stands for is told by its first character, but for one. -/
theorem unescape_cases (c : Char) :
    c = 'u' ∨ (∃ d, ∀ cs, unescape (c :: cs) = some (d, cs)) ∨ ∀ cs, unescape (c :: cs) = none := by
  by_cases hu : c = 'u'
  · exact .inl hu
  · refine .inr ?_
    simp only [unescape, if_neg hu]
    split_ifs
    case neg => exact .inr fun _ => rfl
    all_goals exact .inl ⟨_, fun _ => rfl⟩

theorem unescape_u (cs : List Char) :
    unescape ('u' :: cs) = (hex4 cs).bind fun (n, cs) =>
      if 0xd800 ≤ n ∧ n ≤ 0xdbff then lowSurrogate n cs
      else if 0xdc00 ≤ n ∧ n ≤ 0xdfff then none
      else some (Char.ofNat n, cs) := rfl

theorem unescape_append {cs rest : List Char} {c : Char} (h : unescape cs = some (c, rest))
    (x : List Char) : unescape (cs ++ x) = some (c, rest ++ x) ∧ rest <:+ cs := by
  cases cs with
  | nil => contradiction
  | cons d cs =>
      rcases unescape_cases d with rfl | ⟨e, hplain⟩ | hnone
      · rw [unescape_u] at h
        obtain ⟨⟨n, rest₁⟩, hhex, hfound⟩ := Option.bind_eq_some_iff.mp h
        obtain ⟨happend, hsuffix⟩ := hex4_append hhex x
        have htail := hsuffix.trans (List.suffix_cons 'u' cs)
        rw [List.cons_append, unescape_u, happend, Option.bind_some]
        dsimp only at hfound ⊢
        split at hfound
        case isTrue hhigh =>
          obtain ⟨hlow, hsuffix'⟩ := lowSurrogate_append hfound x
          rw [if_pos hhigh]
          exact ⟨hlow, hsuffix'.trans htail⟩
        case isFalse hhigh =>
          rw [if_neg hhigh]
          split at hfound
          case isTrue => contradiction
          case isFalse hlow =>
            obtain ⟨rfl, rfl⟩ := Prod.mk.inj (Option.some_inj.mp hfound)
            rw [if_neg hlow]
            exact ⟨rfl, htail⟩
      · rw [hplain] at h
        obtain ⟨rfl, rfl⟩ := Prod.mk.inj (Option.some_inj.mp h)
        rw [List.cons_append, hplain]
        exact ⟨rfl, List.suffix_cons d cs⟩
      · rw [hnone] at h
        contradiction

/-- A string literal ends at its quote, with as much fuel as it took or more. -/
theorem scanString_append {fuel fuel' : Nat} (hfuel : fuel ≤ fuel') {cs s rest : List Char}
    (h : scanString fuel cs = some (s, rest)) (x : List Char) :
    scanString fuel' (cs ++ x) = some (s, rest ++ x) ∧ rest <:+ cs := by
  induction fuel generalizing fuel' cs s with
  | zero => contradiction
  | succ fuel ih =>
      obtain ⟨fuel', rfl⟩ : ∃ f, fuel' = f + 1 := ⟨fuel' - 1, by omega⟩
      have hle : fuel ≤ fuel' := by omega
      cases cs with
      | nil => contradiction
      | cons c cs =>
          rw [scanString] at h
          rw [List.cons_append, scanString]
          split at h
          case isTrue hquote =>
            obtain ⟨rfl, rfl⟩ := Prod.mk.inj (Option.some_inj.mp h)
            rw [if_pos hquote]
            exact ⟨rfl, List.suffix_cons c cs⟩
          case isFalse hquote =>
            rw [if_neg hquote]
            split at h
            case isTrue hbackslash =>
              obtain ⟨⟨d, rest₁⟩, hescape, hfound⟩ := Option.bind_eq_some_iff.mp h
              obtain ⟨⟨ds, rest₂⟩, hstring, hpair⟩ := Option.bind_eq_some_iff.mp hfound
              obtain ⟨rfl, rfl⟩ := Prod.mk.inj (Option.some_inj.mp hpair)
              obtain ⟨happend, hsuffix⟩ := unescape_append hescape x
              obtain ⟨happend', hsuffix'⟩ := ih hle hstring
              rw [if_pos hbackslash, happend]
              simp only [Option.bind_eq_bind, Option.bind_some, happend', Option.pure_def]
              exact ⟨trivial, (hsuffix'.trans hsuffix).trans (List.suffix_cons c cs)⟩
            case isFalse hbackslash =>
              rw [if_neg hbackslash]
              split at h
              case isTrue => contradiction
              case isFalse hcontrol =>
                obtain ⟨⟨ds, rest₂⟩, hstring, hpair⟩ := Option.bind_eq_some_iff.mp h
                obtain ⟨rfl, rfl⟩ := Prod.mk.inj (Option.some_inj.mp hpair)
                obtain ⟨happend', hsuffix'⟩ := ih hle hstring
                rw [if_neg hcontrol, happend']
                exact ⟨rfl, hsuffix'.trans (List.suffix_cons c cs)⟩

/-! ## Documents -/

section

variable [Python] [PythonFloat]

/-- How a value is read, with the fuel for its parts. -/
inductive ValueRead (fuel : Nat) : List Char → Json → List Char → Prop where
  | str {cs s rest : List Char} : scanString fuel cs = some (s, rest) →
      ValueRead fuel ('"' :: cs) (.str (String.ofList s)) rest
  | emptyArr {cs rest : List Char} : skip cs = ']' :: rest →
      ValueRead fuel ('[' :: cs) (.arr []) rest
  | arr {cs rest : List Char} {vs : List Json} : (skip cs).head? ≠ some ']' →
      items fuel (skip cs) = some (vs, rest) → ValueRead fuel ('[' :: cs) (.arr vs) rest
  | emptyObj {cs rest : List Char} : skip cs = '\x7d' :: rest →
      ValueRead fuel ('\x7b' :: cs) (.obj []) rest
  | obj {cs rest : List Char} {kvs : List (String × Json)} : (skip cs).head? ≠ some '\x7d' →
      fields fuel (skip cs) = some (kvs, rest) →
      ValueRead fuel ('\x7b' :: cs) (.obj (Dict.ofPairs kvs)) rest
  | null {rest : List Char} : ValueRead fuel ('n' :: 'u' :: 'l' :: 'l' :: rest) .null rest
  | true_ {rest : List Char} : ValueRead fuel ('t' :: 'r' :: 'u' :: 'e' :: rest) (.bool true) rest
  | false_ {rest : List Char} :
      ValueRead fuel ('f' :: 'a' :: 'l' :: 's' :: 'e' :: rest) (.bool false) rest
  | number {cs rest : List Char} {v : Json} : number cs = some (v, rest) → ValueRead fuel cs v rest

/-- How items are read. -/
inductive ItemsRead (fuel : Nat) : List Char → List Json → List Char → Prop where
  | more {cs cs₁ cs₂ rest : List Char} {v : Json} {vs : List Json} :
      value fuel cs = some (v, cs₁) → skip cs₁ = ',' :: cs₂ →
      items fuel (skip cs₂) = some (vs, rest) → ItemsRead fuel cs (v :: vs) rest
  | last {cs cs₁ rest : List Char} {v : Json} :
      value fuel cs = some (v, cs₁) → skip cs₁ = ']' :: rest → ItemsRead fuel cs [v] rest

/-- How fields are read. -/
inductive FieldsRead (fuel : Nat) : List Char → List (String × Json) → List Char → Prop where
  | more {cs cs₁ cs₂ cs₃ cs₄ key rest : List Char} {v : Json} {kvs : List (String × Json)} :
      scanString fuel cs = some (key, cs₁) → skip cs₁ = ':' :: cs₂ →
      value fuel (skip cs₂) = some (v, cs₃) → skip cs₃ = ',' :: cs₄ →
      fields fuel (skip cs₄) = some (kvs, rest) →
      FieldsRead fuel ('"' :: cs) ((String.ofList key, v) :: kvs) rest
  | last {cs cs₁ cs₂ cs₃ key rest : List Char} {v : Json} :
      scanString fuel cs = some (key, cs₁) → skip cs₁ = ':' :: cs₂ →
      value fuel (skip cs₂) = some (v, cs₃) → skip cs₃ = '\x7d' :: rest →
      FieldsRead fuel ('"' :: cs) [(String.ofList key, v)] rest

omit [Python] [PythonFloat] in
theorem expect_eq_some_iff {word cs rest : List Char} :
    expect word cs = some rest ↔ cs = word ++ rest := by
  unfold expect
  split
  case isTrue hprefix =>
    obtain ⟨tail, rfl⟩ := List.isPrefixOf_iff_prefix.mp hprefix
    rw [List.drop_left, Option.some_inj, List.append_cancel_left_eq]
  case isFalse hprefix =>
    refine iff_of_false nofun ?_
    rintro rfl
    exact hprefix (List.isPrefixOf_iff_prefix.mpr (List.prefix_append _ _))

omit [Python] [PythonFloat] in
theorem exists_cons_of_head {cs : List Char} {c : Char} (h : cs.head? = some c) :
    cs = c :: cs.tail := by
  cases cs with
  | nil => contradiction
  | cons d cs => rw [← Option.some_inj.mp h, List.tail_cons]

theorem valueRead_of_value {fuel : Nat} {cs rest : List Char} {v : Json}
    (h : value (fuel + 1) cs = some (v, rest)) : ValueRead fuel cs v rest := by
  cases cs with
  | nil => contradiction
  | cons c cs =>
      rw [value] at h
      split at h
      case isTrue hc =>
        obtain ⟨⟨s, rest₁⟩, hstring, hfound⟩ := Option.map_eq_some_iff.mp h
        obtain ⟨rfl, rfl⟩ := Prod.mk.inj hfound
        exact hc ▸ .str hstring
      case isFalse =>
        split at h
        case isTrue hc =>
          split at h
          case isTrue hclose =>
            obtain ⟨rfl, rfl⟩ := Prod.mk.inj (Option.some_inj.mp h)
            exact hc ▸ .emptyArr (exists_cons_of_head hclose)
          case isFalse hopen =>
            obtain ⟨⟨vs, rest₁⟩, hitems, hfound⟩ := Option.map_eq_some_iff.mp h
            obtain ⟨rfl, rfl⟩ := Prod.mk.inj hfound
            exact hc ▸ .arr hopen hitems
        case isFalse =>
          split at h
          case isTrue hc =>
            split at h
            case isTrue hclose =>
              obtain ⟨rfl, rfl⟩ := Prod.mk.inj (Option.some_inj.mp h)
              exact hc ▸ .emptyObj (exists_cons_of_head hclose)
            case isFalse hopen =>
              obtain ⟨⟨kvs, rest₁⟩, hfields, hfound⟩ := Option.map_eq_some_iff.mp h
              obtain ⟨rfl, rfl⟩ := Prod.mk.inj hfound
              exact hc ▸ .obj hopen hfields
          case isFalse =>
            split at h
            case isTrue hc =>
              obtain ⟨rest₁, hword, hfound⟩ := Option.map_eq_some_iff.mp h
              obtain ⟨rfl, rfl⟩ := Prod.mk.inj hfound
              rw [hc, expect_eq_some_iff.mp hword]
              exact .null
            case isFalse =>
              split at h
              case isTrue hc =>
                obtain ⟨rest₁, hword, hfound⟩ := Option.map_eq_some_iff.mp h
                obtain ⟨rfl, rfl⟩ := Prod.mk.inj hfound
                rw [hc, expect_eq_some_iff.mp hword]
                exact .true_
              case isFalse =>
                split at h
                case isTrue hc =>
                  obtain ⟨rest₁, hword, hfound⟩ := Option.map_eq_some_iff.mp h
                  obtain ⟨rfl, rfl⟩ := Prod.mk.inj hfound
                  rw [hc, expect_eq_some_iff.mp hword]
                  exact .false_
                case isFalse => exact .number h

theorem number_head {cs rest : List Char} {v : Json} (h : number cs = some (v, rest)) :
    ∃ c cs', cs = c :: cs' ∧ (c = '-' ∨ c.isDigit = true) := by
  obtain ⟨found, hscan, -⟩ := Option.map_eq_some_iff.mp h
  obtain ⟨integer, hinteger, -⟩ := Option.map_eq_some_iff.mp hscan
  exact scanInteger_head hinteger

theorem value_of_valueRead {fuel : Nat} {cs rest : List Char} {v : Json}
    (h : ValueRead fuel cs v rest) : value (fuel + 1) cs = some (v, rest) := by
  cases h with
  | str hstring =>
      rw [value, if_pos rfl, hstring]
      rfl
  | emptyArr hclose =>
      rw [value, if_neg (by decide), if_pos rfl, hclose, List.head?_cons, if_pos rfl]
      rfl
  | arr hopen hitems =>
      rw [value, if_neg (by decide), if_pos rfl, if_neg hopen, hitems]
      rfl
  | emptyObj hclose =>
      rw [value, if_neg (by decide), if_neg (by decide), if_pos rfl, hclose, List.head?_cons,
        if_pos rfl]
      rfl
  | obj hopen hfields =>
      rw [value, if_neg (by decide), if_neg (by decide), if_pos rfl, if_neg hopen, hfields]
      rfl
  | null => rfl
  | true_ => rfl
  | false_ => rfl
  | number hnumber =>
      obtain ⟨c, cs, rfl, hc⟩ := number_head hnumber
      rw [value_number hc, hnumber]

/-- One layer of a value. -/
theorem value_succ_iff {fuel : Nat} {cs rest : List Char} {v : Json} :
    value (fuel + 1) cs = some (v, rest) ↔ ValueRead fuel cs v rest :=
  ⟨valueRead_of_value, value_of_valueRead⟩

theorem items_succ_iff {fuel : Nat} {cs rest : List Char} {vs : List Json} :
    items (fuel + 1) cs = some (vs, rest) ↔ ItemsRead fuel cs vs rest := by
  constructor
  · intro h
    rw [items] at h
    obtain ⟨⟨v, cs₁⟩, hvalue, hfound⟩ := Option.bind_eq_some_iff.mp h
    dsimp only at hfound
    split at hfound
    case h_1 cs₂ hcomma =>
      obtain ⟨⟨vs', rest₁⟩, hitems, hpair⟩ := Option.bind_eq_some_iff.mp hfound
      obtain ⟨rfl, rfl⟩ := Prod.mk.inj (Option.some_inj.mp hpair)
      exact .more hvalue hcomma hitems
    case h_2 cs₂ hclose =>
      obtain ⟨rfl, rfl⟩ := Prod.mk.inj (Option.some_inj.mp hfound)
      exact .last hvalue hclose
    case h_3 => contradiction
  · intro h
    cases h with
    | more hvalue hcomma hitems =>
        simp only [items, hvalue, hcomma, hitems, Option.bind_eq_bind, Option.bind_some,
          Option.pure_def]
    | last hvalue hclose =>
        simp only [items, hvalue, hclose, Option.bind_eq_bind, Option.bind_some, Option.pure_def]

theorem fields_succ_iff {fuel : Nat} {cs rest : List Char} {kvs : List (String × Json)} :
    fields (fuel + 1) cs = some (kvs, rest) ↔ FieldsRead fuel cs kvs rest := by
  constructor
  · intro h
    cases cs with
    | nil => contradiction
    | cons c cs =>
        rw [fields] at h
        split at h
        case isFalse => contradiction
        case isTrue hc =>
          obtain ⟨⟨key, cs₁⟩, hkey, hfound⟩ := Option.bind_eq_some_iff.mp h
          dsimp only at hfound
          split at hfound
          case h_2 => contradiction
          case h_1 cs₂ hcolon =>
            obtain ⟨⟨v, cs₃⟩, hvalue, hfound'⟩ := Option.bind_eq_some_iff.mp hfound
            dsimp only at hfound'
            split at hfound'
            case h_1 cs₄ hcomma =>
              obtain ⟨⟨kvs', rest₁⟩, hfields, hpair⟩ := Option.bind_eq_some_iff.mp hfound'
              obtain ⟨rfl, rfl⟩ := Prod.mk.inj (Option.some_inj.mp hpair)
              exact hc ▸ .more hkey hcolon hvalue hcomma hfields
            case h_2 cs₄ hclose =>
              obtain ⟨rfl, rfl⟩ := Prod.mk.inj (Option.some_inj.mp hfound')
              exact hc ▸ .last hkey hcolon hvalue hclose
            case h_3 => contradiction
  · intro h
    cases h with
    | more hkey hcolon hvalue hcomma hfields =>
        rw [fields_cons hkey hcolon hvalue hcomma, hfields, Option.map_some]
    | last hkey hcolon hvalue hclose => exact fields_last hkey hcolon hvalue hclose

theorem value_nil (fuel : Nat) : value fuel [] = none := by
  cases fuel <;> rfl

theorem items_nil (fuel : Nat) : items fuel [] = none := by
  cases fuel with
  | zero => rfl
  | succ fuel => rw [items, value_nil]; rfl

theorem fields_nil (fuel : Nat) : fields fuel [] = none := by
  cases fuel <;> rfl

omit [Python] [PythonFloat] in
/-- What is read from a text is not read from an empty one. -/
theorem ne_nil_of_read {α : Type} {read : List Char → Option α} (hnil : read [] = none)
    {cs : List Char} {a : α} (h : read cs = some a) : cs ≠ [] := by
  rintro rfl
  rw [hnil] at h
  contradiction

/-! ## Longer texts -/

/-- A document that does not end where it is told to. -/
def isNumber : Json → Bool
  | .int _ | .float _ => true
  | _ => false

/-- What follows does not change a document that was read. -/
def Settled (x : List Char) (v : Json) (rest : List Char) : Prop :=
  isNumber v = true → x = [] ∨ rest ≠ [] ∧ Stops rest

theorem isNumber_of_number {cs rest : List Char} {v : Json} (h : number cs = some (v, rest)) :
    isNumber v = true := by
  obtain ⟨found, -, hfound⟩ := Option.map_eq_some_iff.mp h
  split at hfound <;> exact (Prod.mk.inj hfound).1 ▸ rfl

theorem number_append {cs rest : List Char} {v : Json} (h : number cs = some (v, rest))
    {x : List Char} (hx : Settled x v rest) :
    number (cs ++ x) = some (v, rest ++ x) := by
  obtain ⟨⟨integer, extra, rest₁⟩, hscan, hfound⟩ := Option.map_eq_some_iff.mp h
  obtain ⟨hsplit, -, hread⟩ := scanNumber_split hscan
  have hrest : rest₁ = rest := by
    dsimp only at hfound
    split at hfound <;> exact (Prod.mk.inj hfound).2
  subst hrest
  rcases hx (isNumber_of_number h) with rfl | ⟨hne, hstops⟩
  · rw [List.append_nil, List.append_nil, h]
  · have hstops' : Stops (rest₁ ++ x) := by
      obtain ⟨c, r, rfl⟩ := List.exists_cons_of_ne_nil hne
      exact fun d hd => hstops d hd
    have happend := hread (rest₁ ++ x) hstops'
    rw [number, hsplit, List.append_assoc, List.append_assoc, happend, Option.map_some]
    dsimp only at hfound ⊢
    split at hfound
    all_goals
      obtain ⟨rfl, -⟩ := Prod.mk.inj hfound
      simp_all

/-- What is read from a text is read from the front of a longer one. -/
structure Extends (x : List Char) (fuel fuel' : Nat) : Prop where
  value : ∀ {cs rest v}, value fuel cs = some (v, rest) → Settled x v rest →
    Json.value fuel' (cs ++ x) = some (v, rest ++ x)
  items : ∀ {cs rest vs}, items fuel cs = some (vs, rest) →
    Json.items fuel' (cs ++ x) = some (vs, rest ++ x)
  fields : ∀ {cs rest kvs}, fields fuel cs = some (kvs, rest) →
    Json.fields fuel' (cs ++ x) = some (kvs, rest ++ x)

namespace Extends

variable {x : List Char} {fuel fuel' : Nat}

/-- A value before a comma or a closing bracket. -/
theorem value_of_skip (h : Extends x fuel fuel') {cs cs₁ cs₂ : List Char} {v : Json} {c : Char}
    (hvalue : Json.value fuel cs = some (v, cs₁)) (hskip : skip cs₁ = c :: cs₂)
    (hc : c = ',' ∨ c = ']' ∨ c = '\x7d') :
    Json.value fuel' (cs ++ x) = some (v, cs₁ ++ x) :=
  h.value hvalue fun _ => .inr (stops_of_skip hskip hc)

theorem items_skip (h : Extends x fuel fuel') {cs rest : List Char} {vs : List Json}
    (hitems : Json.items fuel (skip cs) = some (vs, rest)) :
    skip (cs ++ x) = skip cs ++ x ∧ Json.items fuel' (skip (cs ++ x)) = some (vs, rest ++ x) := by
  have hne := ne_nil_of_read (items_nil fuel) hitems
  rw [skip_append_of_ne hne x]
  exact ⟨rfl, h.items hitems⟩

theorem fields_skip (h : Extends x fuel fuel') {cs rest : List Char} {kvs : List (String × Json)}
    (hfields : Json.fields fuel (skip cs) = some (kvs, rest)) :
    skip (cs ++ x) = skip cs ++ x ∧
      Json.fields fuel' (skip (cs ++ x)) = some (kvs, rest ++ x) := by
  have hne := ne_nil_of_read (fields_nil fuel) hfields
  rw [skip_append_of_ne hne x]
  exact ⟨rfl, h.fields hfields⟩

theorem value_succ (h : Extends x fuel fuel') (hle : fuel ≤ fuel') {cs rest : List Char} {v : Json}
    (hread : ValueRead fuel cs v rest) (hx : Settled x v rest) :
    ValueRead fuel' (cs ++ x) v (rest ++ x) := by
  have hhead : ∀ {cs : List Char} {c : Char}, skip cs ≠ [] → (skip cs).head? ≠ some c →
      (skip (cs ++ x)).head? ≠ some c := by
    intro cs c hne hc
    rwa [skip_append_of_ne hne x, List.head?_append_of_ne_nil _ hne]
  cases hread with
  | str hstring => exact .str (scanString_append hle hstring x).1
  | emptyArr hclose => exact .emptyArr (skip_append hclose x)
  | @arr cs _ vs hopen hitems =>
      have hne := ne_nil_of_read (items_nil fuel) hitems
      exact .arr (hhead hne hopen) (h.items_skip hitems).2
  | emptyObj hclose => exact .emptyObj (skip_append hclose x)
  | @obj cs _ kvs hopen hfields =>
      have hne := ne_nil_of_read (fields_nil fuel) hfields
      exact .obj (hhead hne hopen) (h.fields_skip hfields).2
  | null => exact .null
  | true_ => exact .true_
  | false_ => exact .false_
  | number hnumber => exact .number (number_append hnumber hx)

theorem items_succ (h : Extends x fuel fuel') {cs rest : List Char} {vs : List Json}
    (hread : ItemsRead fuel cs vs rest) : ItemsRead fuel' (cs ++ x) vs (rest ++ x) := by
  cases hread with
  | more hvalue hcomma hitems =>
      exact .more (h.value_of_skip hvalue hcomma (.inl rfl)) (skip_append hcomma x)
        (h.items_skip hitems).2
  | last hvalue hclose =>
      exact .last (h.value_of_skip hvalue hclose (.inr (.inl rfl))) (skip_append hclose x)

theorem fields_succ (h : Extends x fuel fuel') (hle : fuel ≤ fuel') {cs rest : List Char}
    {kvs : List (String × Json)} (hread : FieldsRead fuel cs kvs rest) :
    FieldsRead fuel' (cs ++ x) kvs (rest ++ x) := by
  have hmember : ∀ {cs cs₁ cs₂ : List Char} {v : Json} {c : Char},
      Json.value fuel (skip cs) = some (v, cs₁) → skip cs₁ = c :: cs₂ →
      (c = ',' ∨ c = ']' ∨ c = '\x7d') →
      Json.value fuel' (skip (cs ++ x)) = some (v, cs₁ ++ x) := by
    intro cs cs₁ cs₂ v c hvalue hskip hc
    have hne := ne_nil_of_read (value_nil fuel) hvalue
    rw [skip_append_of_ne hne x]
    exact h.value_of_skip hvalue hskip hc
  cases hread with
  | more hkey hcolon hvalue hcomma hfields =>
      exact .more (scanString_append hle hkey x).1 (skip_append hcolon x)
        (hmember hvalue hcomma (.inl rfl)) (skip_append hcomma x) (h.fields_skip hfields).2
  | last hkey hcolon hvalue hclose =>
      exact .last (scanString_append hle hkey x).1 (skip_append hcolon x)
        (hmember hvalue hclose (.inr (.inr rfl))) (skip_append hclose x)

end Extends

/-- **A longer text is read alike**, with as much fuel or more. -/
theorem extends_of_le (x : List Char) {fuel fuel' : Nat} (hle : fuel ≤ fuel') :
    Extends x fuel fuel' := by
  induction fuel generalizing fuel' with
  | zero => exact ⟨nofun, nofun, nofun⟩
  | succ fuel ih =>
      obtain ⟨fuel', rfl⟩ : ∃ f, fuel' = f + 1 := ⟨fuel' - 1, by omega⟩
      have hle' : fuel ≤ fuel' := by omega
      have hextends := ih hle'
      refine ⟨fun hvalue hx => ?_, fun hitems => ?_, fun hfields => ?_⟩
      · exact value_succ_iff.mpr (hextends.value_succ hle' (value_succ_iff.mp hvalue) hx)
      · exact items_succ_iff.mpr (hextends.items_succ (items_succ_iff.mp hitems))
      · exact fields_succ_iff.mpr (hextends.fields_succ hle' (fields_succ_iff.mp hfields))

/-! ## What was read -/

theorem number_suffix {cs rest : List Char} {v : Json} (h : number cs = some (v, rest)) :
    ∃ literal, cs = literal ++ rest ∧ ∀ c ∈ literal, isNumberChar c = true := by
  obtain ⟨⟨integer, extra, rest₁⟩, hscan, hfound⟩ := Option.map_eq_some_iff.mp h
  obtain ⟨hsplit, hchars, -⟩ := scanNumber_split hscan
  have hrest : rest₁ = rest := by
    dsimp only at hfound
    split at hfound <;> exact (Prod.mk.inj hfound).2
  exact ⟨integer ++ extra, by rw [hsplit, hrest, List.append_assoc], hchars⟩

/-- What is left of a text is its end; items and fields end in a bracket. -/
structure Consumes (fuel : Nat) : Prop where
  value : ∀ {cs rest v}, value fuel cs = some (v, rest) → rest <:+ cs
  items : ∀ {cs rest vs}, items fuel cs = some (vs, rest) → ']' :: rest <:+ cs
  fields : ∀ {cs rest kvs}, fields fuel cs = some (kvs, rest) → '\x7d' :: rest <:+ cs

namespace Consumes

variable {fuel : Nat}

/-- What an object ends in. -/
theorem obj_succ (h : Consumes fuel) {cs rest : List Char} {kvs : List (String × Json)}
    (hread : ValueRead fuel cs (.obj kvs) rest) : '\x7d' :: rest <:+ cs.tail := by
  cases hread with
  | emptyObj hclose => exact hclose ▸ skip_suffix _
  | obj hopen hfields => exact (h.fields hfields).trans (skip_suffix _)
  | number hnumber => exact absurd (isNumber_of_number hnumber) Bool.false_ne_true

theorem value_succ (h : Consumes fuel) {cs rest : List Char} {v : Json}
    (hread : ValueRead fuel cs v rest) : rest <:+ cs := by
  cases hread with
  | str hstring =>
      exact (scanString_append (Nat.le_refl _) hstring []).2.trans (List.suffix_cons _ _)
  | emptyArr hclose =>
      exact (List.suffix_cons _ _).trans ((hclose ▸ skip_suffix _).trans (List.suffix_cons _ _))
  | arr hopen hitems =>
      exact (List.suffix_cons _ _).trans
        ((h.items hitems).trans ((skip_suffix _).trans (List.suffix_cons _ _)))
  | emptyObj hclose =>
      exact (List.suffix_cons _ _).trans ((hclose ▸ skip_suffix _).trans (List.suffix_cons _ _))
  | obj hopen hfields =>
      exact (List.suffix_cons _ _).trans
        ((h.fields hfields).trans ((skip_suffix _).trans (List.suffix_cons _ _)))
  | null => exact ⟨['n', 'u', 'l', 'l'], rfl⟩
  | true_ => exact ⟨['t', 'r', 'u', 'e'], rfl⟩
  | false_ => exact ⟨['f', 'a', 'l', 's', 'e'], rfl⟩
  | number hnumber =>
      obtain ⟨literal, rfl, -⟩ := number_suffix hnumber
      exact List.suffix_append _ _

theorem items_succ (h : Consumes fuel) {cs rest : List Char} {vs : List Json}
    (hread : ItemsRead fuel cs vs rest) : ']' :: rest <:+ cs := by
  cases hread with
  | more hvalue hcomma hitems =>
      have hcomma' := hcomma ▸ skip_suffix _
      exact (h.items hitems).trans ((skip_suffix _).trans
        ((List.suffix_cons _ _).trans (hcomma'.trans (h.value hvalue))))
  | last hvalue hclose => exact (hclose ▸ skip_suffix _).trans (h.value hvalue)

theorem fields_succ (h : Consumes fuel) {cs rest : List Char} {kvs : List (String × Json)}
    (hread : FieldsRead fuel cs kvs rest) : '\x7d' :: rest <:+ cs := by
  have hmember : ∀ {cs cs₁ cs₂ cs₃ key : List Char} {v : Json},
      scanString fuel cs = some (key, cs₁) → skip cs₁ = ':' :: cs₂ →
      Json.value fuel (skip cs₂) = some (v, cs₃) → cs₃ <:+ '"' :: cs := by
    intro cs cs₁ cs₂ cs₃ key v hkey hcolon hvalue
    have hafter : cs₃ <:+ cs₁ :=
      (h.value hvalue).trans ((skip_suffix _).trans (suffix_of_skip hcolon))
    exact hafter.trans ((scanString_append (Nat.le_refl _) hkey []).2.trans (List.suffix_cons _ _))
  cases hread with
  | more hkey hcolon hvalue hcomma hfields =>
      exact (h.fields hfields).trans ((skip_suffix _).trans
        ((suffix_of_skip hcomma).trans (hmember hkey hcolon hvalue)))
  | last hkey hcolon hvalue hclose =>
      exact (hclose ▸ skip_suffix _).trans (hmember hkey hcolon hvalue)

end Consumes

theorem consumes (fuel : Nat) : Consumes fuel := by
  induction fuel with
  | zero => exact ⟨nofun, nofun, nofun⟩
  | succ fuel ih =>
      refine ⟨fun hvalue => ?_, fun hitems => ?_, fun hfields => ?_⟩
      · exact ih.value_succ (value_succ_iff.mp hvalue)
      · exact ih.items_succ (items_succ_iff.mp hitems)
      · exact ih.fields_succ (fields_succ_iff.mp hfields)

/-! ## Whole texts -/

theorem loads_eq_some_iff {text : List Char} {v : Json} :
    loads (String.ofList text) = some v ↔
      ∃ rest, value (text.length + 1) (skip text) = some (v, rest) ∧ skip rest = [] := by
  rw [loads, String.toList_ofList, String.length_ofList]
  cases value (text.length + 1) (skip text) with
  | none => simp
  | some found =>
      obtain ⟨v', rest⟩ := found
      dsimp only
      by_cases hrest : skip rest = []
      · rw [if_pos hrest]
        simp [hrest]
      · rw [if_neg hrest]
        simp [hrest]

/-- The text of an object, with nothing around it. -/
def IsObjectText (text : List Char) (kvs : Dict Json) : Prop :=
  value (text.length + 1) text = some (.obj kvs, [])

namespace IsObjectText

variable {text : List Char} {kvs : Dict Json}

/-- An object begins and ends with its braces. -/
theorem braces (h : IsObjectText text kvs) :
    ∃ body, text = '\x7b' :: (body ++ ['\x7d']) := by
  have hread := value_succ_iff.mp h
  obtain ⟨body, hbody⟩ := (consumes text.length).obj_succ hread
  refine ⟨body, ?_⟩
  rw [hbody]
  cases hread with
  | emptyObj => rfl
  | obj => rfl
  | number hnumber => exact absurd (isNumber_of_number hnumber) Bool.false_ne_true

/-- What begins with a brace is no number. -/
theorem not_number {fuel : Nat} {cs rest : List Char} {v : Json}
    (hvalue : value fuel ('\x7b' :: cs) = some (v, rest)) : isNumber v = false := by
  cases fuel with
  | zero => contradiction
  | succ fuel =>
      cases value_succ_iff.mp hvalue with
      | emptyObj => rfl
      | obj => rfl
      | number hnumber =>
          obtain ⟨c, cs', hcons, hc⟩ := number_head hnumber
          rw [← (List.cons.inj hcons).1] at hc
          exact absurd hc (by decide)

/-- An object is read from the front of a longer text. -/
theorem append (h : IsObjectText text kvs) (x : List Char) {fuel : Nat}
    (hfuel : text.length + 1 ≤ fuel) : value fuel (text ++ x) = some (.obj kvs, x) :=
  (extends_of_le x hfuel).value h fun hnumber => absurd hnumber Bool.false_ne_true

/-- No text that an object's text goes on from is read. -/
theorem loads_prefix (h : IsObjectText text kvs) {front x : List Char} (hsplit : text = front ++ x)
    (hfront : front ≠ []) (hx : x ≠ []) : Json.loads (String.ofList front) = none := by
  by_contra hsome
  obtain ⟨v, hv⟩ := Option.ne_none_iff_exists'.mp hsome
  obtain ⟨rest, hvalue, -⟩ := loads_eq_some_iff.mp hv
  obtain ⟨body, hbody⟩ := h.braces
  obtain ⟨c, front', rfl⟩ := List.exists_cons_of_ne_nil hfront
  have hc : c = '\x7b' := (List.cons.inj (hsplit.symm.trans hbody)).1
  subst hc
  rw [skip_cons _ rfl] at hvalue
  have hlength : ('\x7b' :: front').length + 1 ≤ text.length + 1 := by
    rw [hsplit, List.length_append]
    omega
  have hlonger := (extends_of_le x hlength).value hvalue
    fun hnumber => absurd hnumber (Bool.eq_false_iff.mp (not_number hvalue))
  rw [← hsplit, h] at hlonger
  have hrest := (Prod.mk.inj (Option.some_inj.mp hlonger)).2
  exact hx (List.append_eq_nil_iff.mp hrest.symm).2

/-- What is read with something after an object is the object. -/
theorem eq_of_loads_append (h : IsObjectText text kvs) {x : List Char} {v : Json}
    (hv : Json.loads (String.ofList (text ++ x)) = some v) : v = .obj kvs := by
  obtain ⟨rest, hvalue, -⟩ := loads_eq_some_iff.mp hv
  have hskip : skip (text ++ x) = text ++ x := by
    obtain ⟨body, rfl⟩ := h.braces
    exact skip_cons _ rfl
  have hfuel : text.length + 1 ≤ (text ++ x).length + 1 := by
    rw [List.length_append]
    omega
  rw [hskip, h.append x hfuel] at hvalue
  exact (Prod.mk.inj (Option.some_inj.mp hvalue)).1.symm

end IsObjectText

/-- A text that begins otherwise and has a brace further on is not read. -/
theorem loads_brace {c : Char} {cs : List Char} (hblank : isBlank c = false)
    (hc : c ≠ '"' ∧ c ≠ '[' ∧ c ≠ '\x7b') (hbrace : '\x7b' ∈ cs) :
    loads (String.ofList (c :: cs)) = none := by
  by_contra hsome
  obtain ⟨v, hv⟩ := Option.ne_none_iff_exists'.mp hsome
  obtain ⟨rest, hvalue, hrest⟩ := loads_eq_some_iff.mp hv
  have hmem : '\x7b' ∈ rest := by
    rw [skip_cons cs hblank] at hvalue
    cases value_succ_iff.mp hvalue with
    | str => exact absurd rfl hc.1
    | emptyArr => exact absurd rfl hc.2.1
    | arr => exact absurd rfl hc.2.1
    | emptyObj => exact absurd rfl hc.2.2
    | obj => exact absurd rfl hc.2.2
    | null => simpa using hbrace
    | true_ => simpa using hbrace
    | false_ => simpa using hbrace
    | number hnumber =>
        obtain ⟨literal, hsplit, hchars⟩ := number_suffix hnumber
        have hwhole : '\x7b' ∈ literal ++ rest := hsplit ▸ List.mem_cons_of_mem c hbrace
        exact (List.mem_append.mp hwhole).resolve_left fun h => absurd (hchars _ h) (by decide)
  have hblanks := List.dropWhile_eq_nil_iff.mp hrest _ hmem
  exact absurd hblanks (by decide)

/-- A text that an object is read from is that of the object, but for blanks. -/
theorem isObjectText_of_loads {text : List Char} {kvs : Dict Json}
    (h : loads (String.ofList text) = some (.obj kvs))
    (hfirst : ∀ c ∈ text.head?, isBlank c = false)
    (hlast : ∀ c ∈ text.getLast?, isBlank c = false) : IsObjectText text kvs := by
  obtain ⟨rest, hvalue, hrest⟩ := loads_eq_some_iff.mp h
  have hskip : skip text = text := by
    cases text with
    | nil => rfl
    | cons c text => exact skip_cons text (hfirst c rfl)
  rw [hskip] at hvalue
  have hnil : rest = [] := by
    by_contra hne
    obtain ⟨front, hfront⟩ := (consumes _).value hvalue
    have hend := List.getLast?_eq_some_getLast hne
    have hmem : rest.getLast hne ∈ text.getLast? := by
      rw [← hfront, List.getLast?_append_of_ne_nil _ hne, hend]
      rfl
    have hblank := List.dropWhile_eq_nil_iff.mp hrest _ (List.getLast_mem hne)
    rw [hlast _ hmem] at hblank
    contradiction
  rwa [hnil] at hvalue

end

end DbGateway.Json
