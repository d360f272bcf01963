import DbGateway.Json.Prefix

/-!
# DbGateway.Json.Limits

Where the interpreter stops `json.loads`: at a bracket that is nested too deep,
with a `RecursionError`, and at an integer with too many digits, with a
`ValueError`.

The scanner reads from left to right, so the first of them decides.
-/

namespace DbGateway.Json

/-- The limits of the interpreter. -/
class PythonLimits where
  /-- How many brackets can be open. -/
  depth : Nat
  /-- `sys.get_int_max_str_digits()`, which is off at 0. -/
  digits : Nat

/-- CPython's. -/
@[reducible] def PythonLimits.default : PythonLimits := ⟨1000, 4300⟩

inductive Limit where
  | depth
  | digits
deriving DecidableEq

section

variable [PythonLimits]

/-- A literal of an integer, not of a float. -/
def numberLimit (cs : List Char) : Option Limit :=
  match scanNumber cs with
  | some (integer, [], _) =>
      if PythonLimits.digits ≠ 0 ∧ PythonLimits.digits < (integer.filter Char.isDigit).length then
        some .digits
      else none
  | _ => none

variable [Python] [PythonFloat]

mutual
/-- The limit that `scan_once` runs into, if any, where `depth` more brackets can be open. -/
def valueLimit : Nat → Nat → List Char → Option Limit
  | 0, _, _ => none
  | _ + 1, _, [] => none
  | fuel + 1, depth, c :: cs =>
      if c = '"' then none
      else if c = '[' then
        if depth = 0 then some .depth
        else if (skip cs).head? = some ']' then none
        else itemsLimit fuel (depth - 1) (skip cs)
      else if c = '\x7b' then
        if depth = 0 then some .depth
        else if (skip cs).head? = some '\x7d' then none
        else fieldsLimit fuel (depth - 1) (skip cs)
      else numberLimit (c :: cs)

def itemsLimit : Nat → Nat → List Char → Option Limit
  | 0, _, _ => none
  | fuel + 1, depth, cs =>
      (valueLimit fuel depth cs).or
        (match value fuel cs with
        | some (_, cs) =>
            match skip cs with
            | ',' :: cs => itemsLimit fuel depth (skip cs)
            | _ => none
        | none => none)

def fieldsLimit : Nat → Nat → List Char → Option Limit
  | 0, _, _ => none
  | _ + 1, _, [] => none
  | fuel + 1, depth, c :: cs =>
      if c = '"' then
        match scanString fuel cs with
        | some (_, cs) =>
            match skip cs with
            | ':' :: cs =>
                (valueLimit fuel depth (skip cs)).or
                  (match value fuel (skip cs) with
                  | some (_, cs) =>
                      match skip cs with
                      | ',' :: cs => fieldsLimit fuel depth (skip cs)
                      | _ => none
                  | none => none)
            | _ => none
        | none => none
      else none
end

/-- The limit that `json.loads` runs into; an open bracket takes two calls. -/
def limit (text : List Char) : Option Limit :=
  valueLimit (2 * text.length + 2) PythonLimits.depth (skip text)

theorem limit_nil : limit [] = none := rfl

/-- What `json.loads` raises. -/
inductive LoadError where
  /-- `ValueError` -/
  | value
  /-- `RecursionError` -/
  | recursion
deriving DecidableEq

/-- `json.loads` within the limits. -/
def loadsWithin (text : List Char) : Except LoadError Json :=
  match limit text with
  | some .depth => .error .recursion
  | some .digits => .error .value
  | none =>
      match loads (String.ofList text) with
      | some v => .ok v
      | none => .error .value

theorem loadsWithin_eq_ok_iff {text : List Char} {v : Json} :
    loadsWithin text = .ok v ↔ limit text = none ∧ loads (String.ofList text) = some v := by
  unfold loadsWithin
  split
  case h_1 hlimit => simp [hlimit]
  case h_2 hlimit => simp [hlimit]
  case h_3 hlimit =>
    cases hloads : loads (String.ofList text) with
    | none => simp
    | some found => simp [hlimit]

theorem loadsWithin_eq_recursion_iff {text : List Char} :
    loadsWithin text = .error .recursion ↔ limit text = some .depth := by
  unfold loadsWithin
  split
  case h_1 hlimit => simp [hlimit]
  case h_2 hlimit => simp [hlimit]
  case h_3 hlimit =>
    cases loads (String.ofList text) with
    | none => simp [hlimit]
    | some found => simp [hlimit]

theorem loadsWithin_of_not_read {text : List Char} (hlimit : limit text ≠ some .depth)
    (hloads : loads (String.ofList text) = none) : loadsWithin text = .error .value := by
  unfold loadsWithin
  split
  case h_1 hdepth => exact absurd hdepth hlimit
  case h_2 => rfl
  case h_3 => rw [hloads]

/-! ## Longer texts -/

omit [Python] [PythonFloat] in
theorem numberLimit_of_head {c : Char} {cs : List Char} (hminus : c ≠ '-')
    (hdigit : c.isDigit = false) : numberLimit (c :: cs) = none := by
  have hzero : c ≠ '0' := by
    rintro rfl
    contradiction
  rw [numberLimit, scanNumber, scanInteger, if_neg hminus, scanMagnitude, if_neg hzero, hdigit]
  rfl

theorem numberLimit_append {cs rest : List Char} {v : Json} (h : number cs = some (v, rest))
    {x : List Char} (hx : Settled x v rest) : numberLimit (cs ++ x) = numberLimit cs := by
  obtain ⟨⟨integer, extra, rest₁⟩, hscan, hfound⟩ := Option.map_eq_some_iff.mp h
  obtain ⟨hsplit, -, hread⟩ := scanNumber_split hscan
  have hrest : rest₁ = rest := by
    dsimp only at hfound
    split at hfound <;> exact (Prod.mk.inj hfound).2
  subst hrest
  rcases hx (isNumber_of_number h) with rfl | ⟨hne, hstops⟩
  · rw [List.append_nil]
  · have hstops' : Stops (rest₁ ++ x) := by
      obtain ⟨c, r, rfl⟩ := List.exists_cons_of_ne_nil hne
      exact fun d hd => hstops d hd
    have happend := hread (rest₁ ++ x) hstops'
    rw [numberLimit, numberLimit, hscan, hsplit, List.append_assoc, List.append_assoc, happend]
    cases extra <;> rfl

/-- A value that was read runs into the same limit in a longer text. -/
structure ExtendsLimit (x : List Char) (fuel fuel' : Nat) : Prop where
  value : ∀ {cs rest v}, value fuel cs = some (v, rest) → Settled x v rest →
    ∀ depth, valueLimit fuel' depth (cs ++ x) = valueLimit fuel depth cs
  items : ∀ {cs rest vs}, items fuel cs = some (vs, rest) →
    ∀ depth, itemsLimit fuel' depth (cs ++ x) = itemsLimit fuel depth cs
  fields : ∀ {cs rest kvs}, fields fuel cs = some (kvs, rest) →
    ∀ depth, fieldsLimit fuel' depth (cs ++ x) = fieldsLimit fuel depth cs

theorem valueLimit_arr {fuel depth : Nat} {cs : List Char} (h : (skip cs).head? ≠ some ']') :
    valueLimit (fuel + 1) depth ('[' :: cs) =
      if depth = 0 then some .depth else itemsLimit fuel (depth - 1) (skip cs) := by
  rw [valueLimit, if_neg (by decide), if_pos rfl, if_neg h]

theorem valueLimit_obj {fuel depth : Nat} {cs : List Char} (h : (skip cs).head? ≠ some '\x7d') :
    valueLimit (fuel + 1) depth ('\x7b' :: cs) =
      if depth = 0 then some .depth else fieldsLimit fuel (depth - 1) (skip cs) := by
  rw [valueLimit, if_neg (by decide), if_neg (by decide), if_pos rfl, if_neg h]

theorem valueLimit_number {fuel depth : Nat} {cs rest : List Char} {v : Json}
    (h : number cs = some (v, rest)) : valueLimit (fuel + 1) depth cs = numberLimit cs := by
  obtain ⟨c, cs, rfl, hc⟩ := number_head h
  have hne : c ≠ '"' ∧ c ≠ '[' ∧ c ≠ '\x7b' := by
    refine ⟨?_, ?_, ?_⟩
    all_goals
      rintro rfl
      exact absurd hc (by decide)
  rw [valueLimit, if_neg hne.1, if_neg hne.2.1, if_neg hne.2.2]

theorem itemsLimit_of_value {fuel depth : Nat} {cs cs₁ : List Char} {v : Json}
    (h : value fuel cs = some (v, cs₁)) :
    itemsLimit (fuel + 1) depth cs = (valueLimit fuel depth cs).or
      (match skip cs₁ with
      | ',' :: cs₂ => itemsLimit fuel depth (skip cs₂)
      | _ => none) := by
  rw [itemsLimit, h]

theorem fieldsLimit_of_value {fuel depth : Nat} {cs cs₁ cs₂ cs₃ key : List Char} {v : Json}
    (hkey : scanString fuel cs = some (key, cs₁)) (hcolon : skip cs₁ = ':' :: cs₂)
    (h : value fuel (skip cs₂) = some (v, cs₃)) :
    fieldsLimit (fuel + 1) depth ('"' :: cs) = (valueLimit fuel depth (skip cs₂)).or
      (match skip cs₃ with
      | ',' :: cs₄ => fieldsLimit fuel depth (skip cs₄)
      | _ => none) := by
  simp only [fieldsLimit, if_true, hkey, hcolon, h]

/-- A keyword is no container and no number. -/
theorem valueLimit_word {c : Char} (hc : c ∈ ['n', 't', 'f']) (fuel depth : Nat) (cs : List Char) :
    valueLimit (fuel + 1) depth (c :: cs) = none := by
  have hne : c ≠ '"' ∧ c ≠ '[' ∧ c ≠ '\x7b' ∧ c ≠ '-' ∧ c.isDigit = false := by
    simp only [List.mem_cons, List.not_mem_nil, or_false] at hc
    rcases hc with rfl | rfl | rfl <;> decide
  obtain ⟨hquote, hopen, hbrace, hminus, hdigit⟩ := hne
  rw [valueLimit, if_neg hquote, if_neg hopen, if_neg hbrace, numberLimit_of_head hminus hdigit]

omit [PythonLimits] [Python] [PythonFloat] in
/-- A value before a comma or a closing bracket is settled. -/
theorem settled_of_skip {x cs cs₁ : List Char} {c : Char} (hskip : skip cs = c :: cs₁)
    (hc : c = ',' ∨ c = ']' ∨ c = '\x7d') (v : Json) : Settled x v cs :=
  fun _ => .inr (stops_of_skip hskip hc)

namespace ExtendsLimit

variable {x : List Char} {fuel fuel' : Nat}

theorem value_succ (h : ExtendsLimit x fuel fuel') {cs rest : List Char} {v : Json}
    (hread : ValueRead fuel cs v rest) (hx : Settled x v rest) (depth : Nat) :
    valueLimit (fuel' + 1) depth (cs ++ x) = valueLimit (fuel + 1) depth cs := by
  have hhead : ∀ {cs : List Char} {c : Char}, skip cs ≠ [] → (skip cs).head? ≠ some c →
      (skip (cs ++ x)).head? ≠ some c := by
    intro cs c hne hc
    rwa [skip_append_of_ne hne x, List.head?_append_of_ne_nil _ hne]
  cases hread with
  | str => rfl
  | emptyArr hclose =>
      rw [List.cons_append, valueLimit, valueLimit, skip_append hclose x, hclose]
      rfl
  | arr hopen hitems =>
      have hne := ne_nil_of_read (items_nil fuel) hitems
      rw [List.cons_append, valueLimit_arr hopen, valueLimit_arr (hhead hne hopen),
        skip_append_of_ne hne x, h.items hitems]
  | emptyObj hclose =>
      rw [List.cons_append, valueLimit, valueLimit, skip_append hclose x, hclose]
      rfl
  | obj hopen hfields =>
      have hne := ne_nil_of_read (fields_nil fuel) hfields
      rw [List.cons_append, valueLimit_obj hopen, valueLimit_obj (hhead hne hopen),
        skip_append_of_ne hne x, h.fields hfields]
  | null => exact (valueLimit_word (by decide) _ _ _).trans (valueLimit_word (by decide) _ _ _).symm
  | true_ => exact (valueLimit_word (by decide) _ _ _).trans (valueLimit_word (by decide) _ _ _).symm
  | false_ => exact (valueLimit_word (by decide) _ _ _).trans (valueLimit_word (by decide) _ _ _).symm
  | number hnumber =>
      rw [valueLimit_number hnumber, valueLimit_number (number_append hnumber hx),
        numberLimit_append hnumber hx]

theorem items_succ (h : ExtendsLimit x fuel fuel') (hle : fuel ≤ fuel') {cs rest : List Char}
    {vs : List Json} (hread : ItemsRead fuel cs vs rest) (depth : Nat) :
    itemsLimit (fuel' + 1) depth (cs ++ x) = itemsLimit (fuel + 1) depth cs := by
  have hextends := extends_of_le x hle
  cases hread with
  | more hvalue hcomma hitems =>
      have hsettled := @settled_of_skip x _ _ _ hcomma (.inl rfl)
      have hne := ne_nil_of_read (items_nil fuel) hitems
      rw [itemsLimit_of_value hvalue, itemsLimit_of_value (hextends.value hvalue (hsettled _)),
        h.value hvalue (hsettled _), skip_append hcomma x, hcomma]
      simp only [skip_append_of_ne hne x, h.items hitems]
  | last hvalue hclose =>
      have hsettled := @settled_of_skip x _ _ _ hclose (.inr (.inl rfl))
      rw [itemsLimit_of_value hvalue, itemsLimit_of_value (hextends.value hvalue (hsettled _)),
        h.value hvalue (hsettled _), skip_append hclose x, hclose]
      rfl

theorem fields_succ (h : ExtendsLimit x fuel fuel') (hle : fuel ≤ fuel') {cs rest : List Char}
    {kvs : List (String × Json)} (hread : FieldsRead fuel cs kvs rest) (depth : Nat) :
    fieldsLimit (fuel' + 1) depth (cs ++ x) = fieldsLimit (fuel + 1) depth cs := by
  have hextends := extends_of_le x hle
  cases hread with
  | more hkey hcolon hvalue hcomma hfields =>
      have hsettled := @settled_of_skip x _ _ _ hcomma (.inl rfl)
      have hne := ne_nil_of_read (value_nil fuel) hvalue
      have hne' := ne_nil_of_read (fields_nil fuel) hfields
      have hvalue' := hextends.value hvalue (hsettled _)
      rw [← skip_append_of_ne hne x] at hvalue'
      rw [List.cons_append, fieldsLimit_of_value hkey hcolon hvalue,
        fieldsLimit_of_value (scanString_append hle hkey x).1 (skip_append hcolon x) hvalue',
        skip_append_of_ne hne x, h.value hvalue (hsettled _), skip_append hcomma x, hcomma]
      simp only [skip_append_of_ne hne' x, h.fields hfields]
  | last hkey hcolon hvalue hclose =>
      have hsettled := @settled_of_skip x _ _ _ hclose (.inr (.inr rfl))
      have hne := ne_nil_of_read (value_nil fuel) hvalue
      have hvalue' := hextends.value hvalue (hsettled _)
      rw [← skip_append_of_ne hne x] at hvalue'
      rw [List.cons_append, fieldsLimit_of_value hkey hcolon hvalue,
        fieldsLimit_of_value (scanString_append hle hkey x).1 (skip_append hcolon x) hvalue',
        skip_append_of_ne hne x, h.value hvalue (hsettled _), skip_append hclose x, hclose]
      rfl

end ExtendsLimit

/-- **What follows a value changes no limit**, with as much fuel or more. -/
theorem extendsLimit_of_le (x : List Char) {fuel fuel' : Nat} (hle : fuel ≤ fuel') :
    ExtendsLimit x fuel fuel' := by
  induction fuel generalizing fuel' with
  | zero => exact ⟨nofun, nofun, nofun⟩
  | succ fuel ih =>
      obtain ⟨fuel', rfl⟩ : ∃ f, fuel' = f + 1 := ⟨fuel' - 1, by omega⟩
      have hle' : fuel ≤ fuel' := by omega
      have hextends := ih hle'
      refine ⟨fun hvalue hx => ?_, fun hitems => ?_, fun hfields => ?_⟩
      · exact hextends.value_succ (value_succ_iff.mp hvalue) hx
      · exact hextends.items_succ hle' (items_succ_iff.mp hitems)
      · exact hextends.fields_succ hle' (fields_succ_iff.mp hfields)

/-- An object with something after it runs into the limit of the object. -/
theorem IsObjectText.limit_append {text : List Char} {kvs : Dict Json} (h : IsObjectText text kvs)
    (x : List Char) : limit (text ++ x) = limit text := by
  obtain ⟨body, hbody⟩ := h.braces
  have hskip : ∀ y, skip (text ++ y) = text ++ y := by
    intro y
    rw [hbody]
    exact skip_cons _ rfl
  have hsame : ∀ y, limit (text ++ y) = valueLimit (text.length + 1) PythonLimits.depth text := by
    intro y
    have hfuel : text.length + 1 ≤ 2 * (text ++ y).length + 2 := by
      rw [List.length_append]
      omega
    rw [limit, hskip]
    exact (extendsLimit_of_le y hfuel).value h
      (fun hnumber => absurd hnumber Bool.false_ne_true) PythonLimits.depth
  have hwhole := hsame []
  rw [List.append_nil] at hwhole
  rw [hsame x, hwhole]

/-- A text that begins with no bracket does not nest. -/
theorem limit_ne_depth {c : Char} {cs : List Char} (hblank : isBlank c = false)
    (hc : c ≠ '[' ∧ c ≠ '\x7b') : limit (c :: cs) ≠ some .depth := by
  rw [limit, skip_cons cs hblank, valueLimit, if_neg hc.1, if_neg hc.2]
  split
  · nofun
  · rw [numberLimit]
    split
    · split <;> simp
    · simp

/-! ## Open brackets -/

/-- Where more brackets are open than can be, the limit is met. -/
theorem valueLimit_replicate {depth n : Nat} (h : depth < n) (extra : Nat) :
    valueLimit (2 * n + extra) depth (List.replicate n '[') = some .depth := by
  induction depth generalizing n with
  | zero =>
      obtain ⟨n, rfl⟩ := Nat.exists_eq_succ_of_ne_zero (Nat.ne_of_gt h)
      rw [List.replicate_succ, show 2 * (n + 1) + extra = 2 * n + extra + 1 + 1 by omega,
        valueLimit, if_neg (by decide), if_pos rfl, if_pos rfl]
  | succ depth ih =>
      obtain ⟨n, rfl⟩ := Nat.exists_eq_succ_of_ne_zero (Nat.ne_of_gt (Nat.lt_of_le_of_lt
        (Nat.zero_le _) h))
      have hlt : depth < n := Nat.lt_of_succ_lt_succ h
      obtain ⟨m, rfl⟩ := Nat.exists_eq_succ_of_ne_zero (Nat.ne_of_gt (Nat.lt_of_le_of_lt
        (Nat.zero_le _) hlt))
      have hskip : skip (List.replicate (m + 1) '[') = List.replicate (m + 1) '[' :=
        skip_cons _ rfl
      rw [List.replicate_succ, show 2 * (m + 1 + 1) + extra = 2 * (m + 1) + extra + 1 + 1 by omega,
        valueLimit_arr (by rw [hskip]; simp [List.replicate_succ]), if_neg (Nat.succ_ne_zero _), hskip,
        Nat.add_sub_cancel, itemsLimit, ih hlt]
      rfl

theorem limit_replicate {n : Nat} (h : PythonLimits.depth < n) :
    limit (List.replicate n '[') = some .depth := by
  obtain ⟨m, rfl⟩ := Nat.exists_eq_succ_of_ne_zero (Nat.ne_of_gt (Nat.lt_of_le_of_lt
    (Nat.zero_le _) h))
  have hskip : skip (List.replicate (m + 1) '[') = List.replicate (m + 1) '[' := skip_cons _ rfl
  rw [limit, hskip, List.length_replicate]
  exact valueLimit_replicate h 2

end

end DbGateway.Json
