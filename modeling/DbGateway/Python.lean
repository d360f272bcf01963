import Mathlib.Data.Finset.Basic
import Mathlib.Data.List.DropRight
import Mathlib.Data.Rat.Defs

/-!
# DbGateway.Python

The parts of Python the gateway's own code leans on: string methods, `dict`
in insertion order, and truthiness of optional values.

Everything that depends on the Unicode tables (`str.lower`, `repr`, the `\w`
class of `re`) is a field of the class `Python`, together with the two laws the
proofs use: lower-casing twice is lower-casing once, and ASCII letters are
lower-cased as usual.  `Python.ascii` is the instance whose tables stop at
ASCII; it runs the concrete examples.
-/

namespace DbGateway

/-- Map a function over the characters of a string. -/
def mapChars (f : Char → Char) (s : String) : String := String.ofList (s.toList.map f)

/-- Python's Unicode-dependent text functions. -/
class Python where
  /-- `str.lower` -/
  lower : String → String
  /-- `repr` of a `str` -/
  repr : String → String
  /-- `repr` of a `float` -/
  floatRepr : Rat → String
  /-- `str.isalnum` of a one-character string -/
  isAlnum : Char → Bool
  lower_lower : ∀ s, lower (lower s) = lower s
  lower_ascii : ∀ s, (∀ c ∈ s.toList, c.toNat < 128) → lower s = mapChars Char.toLower s

attribute [simp] Python.lower_lower

export Python (lower)

theorem Char.toLower_toLower (c : Char) : c.toLower.toLower = c.toLower := by
  by_cases h : c.val ≥ 65 ∧ c.val ≤ 90
  · have hlow : ¬(c.val + 32 ≥ 65 ∧ c.val + 32 ≤ 90) := by grind
    unfold Char.toLower
    simp [h, hlow]
  · unfold Char.toLower
    simp [h]

/-- Python restricted to the ASCII tables. -/
@[reducible] def Python.ascii : Python where
  lower := mapChars Char.toLower
  repr s := "'" ++ s ++ "'"
  floatRepr q := toString q.num ++ "/" ++ toString q.den
  isAlnum := Char.isAlphanum
  lower_lower s := by
    simp only [mapChars, String.toList_ofList, List.map_map]
    congr 1
    exact List.map_congr_left fun c _ => Char.toLower_toLower c
  lower_ascii _ _ := rfl

/-- ASCII, checked character by character. -/
theorem ascii_of_all {s : String} (h : (s.toList.all fun c => decide (c.toNat < 128)) = true) :
    ∀ c ∈ s.toList, c.toNat < 128 := by
  simpa only [List.all_eq_true, decide_eq_true_eq] using h

/-! ## Character classes -/

/-- The characters `str.strip()` removes and `\s` matches. -/
def isSpace (c : Char) : Bool :=
  let n := c.toNat
  (9 ≤ n && n ≤ 13) || (28 ≤ n && n ≤ 32) || n == 0x85 || n == 0xA0 || n == 0x1680 ||
    (0x2000 ≤ n && n ≤ 0x200A) || n == 0x2028 || n == 0x2029 || n == 0x202F ||
    n == 0x205F || n == 0x3000

/-- The characters outside ASCII that `IGNORECASE` takes for ASCII letters. -/
def foldedLetters : List Char := ['\u017f', '\u212a', '\u0130', '\u0131']

/-- How Python's character classes go together, and its decimal digits. -/
class PythonTables [Python] where
  /-- `unicodedata.decimal`: what `\d` matches, with its value. -/
  decimal : Char → Option Nat
  decimal_ascii : ∀ c, c.toNat < 128 → decimal c = if c.isDigit then some (c.toNat - 48) else none
  isAlnum_ascii : ∀ c, c.toNat < 128 → Python.isAlnum c = c.isAlphanum
  isAlnum_folded : ∀ c ∈ foldedLetters, Python.isAlnum c = true
  isAlnum_of_decimal : ∀ c, (decimal c).isSome → Python.isAlnum c = true
  isAlnum_of_isSpace : ∀ c, isSpace c = true → Python.isAlnum c = false

theorem Char.isUpper_iff_toNat {c : Char} : c.isUpper = true ↔ 65 ≤ c.toNat ∧ c.toNat ≤ 90 := by
  show decide ('A'.val ≤ c.val ∧ c.val ≤ 'Z'.val) = true ↔ _
  rw [decide_eq_true_iff, UInt32.le_iff_toNat_le, UInt32.le_iff_toNat_le]
  rfl

theorem Char.isLower_iff_toNat {c : Char} : c.isLower = true ↔ 97 ≤ c.toNat ∧ c.toNat ≤ 122 := by
  show (decide ('a'.val ≤ c.val) && decide (c.val ≤ 'z'.val)) = true ↔ _
  rw [Bool.and_eq_true, decide_eq_true_iff, decide_eq_true_iff, UInt32.le_iff_toNat_le,
    UInt32.le_iff_toNat_le]
  rfl

theorem Char.isAlpha_iff {c : Char} : c.isAlpha = true ↔ c.isUpper = true ∨ c.isLower = true := by
  show (c.isUpper || c.isLower) = true ↔ _
  rw [Bool.or_eq_true]

theorem Char.isAlphanum_iff_toNat {c : Char} : c.isAlphanum = true ↔
    (65 ≤ c.toNat ∧ c.toNat ≤ 90) ∨ (97 ≤ c.toNat ∧ c.toNat ≤ 122) ∨
      (48 ≤ c.toNat ∧ c.toNat ≤ 57) := by
  rw [Char.isAlphanum, Bool.or_eq_true, isAlpha_iff, isUpper_iff_toNat, isLower_iff_toNat,
    Char.isDigit_iff_toNat, or_assoc]
  rfl

theorem Char.not_isAlphanum_of_isSpace {c : Char} (h : isSpace c = true) :
    c.isAlphanum = false := by
  simp [isSpace] at h
  rw [← Bool.not_eq_true, isAlphanum_iff_toNat]
  omega

theorem Char.isAlpha_of_isLower_toLower {c : Char} (h : c.toLower.isLower = true) :
    c.isAlpha = true := by
  rw [isAlpha_iff]
  by_cases hupper : c.isUpper = true
  · exact .inl hupper
  · have hself : c.toLower = c := by
      unfold Char.toLower
      rw [dif_neg]
      show ¬ ('A'.val ≤ c.val ∧ c.val ≤ 'Z'.val)
      rw [UInt32.le_iff_toNat_le, UInt32.le_iff_toNat_le]
      exact fun h => hupper (isUpper_iff_toNat.mpr h)
    exact .inr (hself ▸ h)

theorem Char.not_isDigit_of_isAlpha {c : Char} (h : c.isAlpha = true) : c.isDigit = false := by
  rw [isAlpha_iff, isUpper_iff_toNat, isLower_iff_toNat] at h
  rw [← Bool.not_eq_true, Char.isDigit_iff_toNat]
  show ¬ (48 ≤ c.toNat ∧ c.toNat ≤ 57)
  omega

theorem Char.toNat_lt_of_isAlphanum {c : Char} (h : c.isAlphanum = true) : c.toNat < 128 := by
  rw [isAlphanum_iff_toNat] at h
  omega

/-- The ASCII tables and the letters `IGNORECASE` adds to them. -/
@[reducible] def Python.folding : Python :=
  { Python.ascii with isAlnum := fun c => c.isAlphanum || decide (c ∈ foldedLetters) }

@[reducible] def PythonTables.folding : @PythonTables Python.folding :=
  letI := Python.folding
  { decimal := fun c => if c.isDigit then some (c.toNat - 48) else none
    decimal_ascii := fun _ _ => rfl
    isAlnum_ascii := fun c h => by
      have hnot : c ∉ foldedLetters := by
        intro hmem
        simp only [foldedLetters, List.mem_cons, List.not_mem_nil, or_false] at hmem
        rcases hmem with rfl | rfl | rfl | rfl <;> exact absurd h (by decide)
      show (c.isAlphanum || decide (c ∈ foldedLetters)) = c.isAlphanum
      simp [hnot]
    isAlnum_folded := fun c h => by
      show (c.isAlphanum || decide (c ∈ foldedLetters)) = true
      simp [h]
    isAlnum_of_decimal := fun c h => by
      have hdigit : c.isDigit = true := by
        by_contra hnot
        exact Bool.noConfusion ((congrArg Option.isSome (if_neg hnot)).symm.trans h)
      show (c.isAlphanum || decide (c ∈ foldedLetters)) = true
      simp [Char.isAlphanum, hdigit]
    isAlnum_of_isSpace := fun c h => by
      have hnot : c ∉ foldedLetters := by
        intro hmem
        simp only [foldedLetters, List.mem_cons, List.not_mem_nil, or_false] at hmem
        rcases hmem with rfl | rfl | rfl | rfl <;> exact absurd h (by decide)
      show (c.isAlphanum || decide (c ∈ foldedLetters)) = false
      simp [hnot, Char.not_isAlphanum_of_isSpace h] }

/-! ## String methods -/

/-- Drop the characters satisfying `p` from both ends. -/
def stripList (p : Char → Bool) (cs : List Char) : List Char :=
  ((cs.dropWhile p).reverse.dropWhile p).reverse

/-- `str.strip(chars)`, with the set of characters as a predicate. -/
def stripChars (p : Char → Bool) (s : String) : String := String.ofList (stripList p s.toList)

/-- `str.strip()` -/
def strip (s : String) : String := stripChars isSpace s

/-- Nothing is left to drop at either end. -/
theorem stripList_stripList (p : Char → Bool) (cs : List Char) :
    stripList p (stripList p cs) = stripList p cs := by
  have hpre : stripList p cs <+: cs.dropWhile p := List.rdropWhile_prefix p _
  have hhead : (stripList p cs).dropWhile p = stripList p cs := by
    rw [List.dropWhile_eq_self_iff]
    intro hpos
    have hpos' : 0 < (cs.dropWhile p).length := Nat.lt_of_lt_of_le hpos hpre.length_le
    rw [hpre.getElem hpos]
    exact List.dropWhile_get_zero_not p cs hpos'
  have hlast : List.rdropWhile p (stripList p cs) = stripList p cs :=
    List.rdropWhile_idempotent p (cs.dropWhile p)
  show List.rdropWhile p ((stripList p cs).dropWhile p) = stripList p cs
  rw [hhead, hlast]

@[simp] theorem strip_strip (s : String) : strip (strip s) = strip s := by
  simp only [strip, stripChars, String.toList_ofList, stripList_stripList]

section

variable {p : Char → Bool} {front text back : List Char}

theorem dropWhile_append_of_head (h : ∀ c ∈ text.head?, p c = false) :
    (front ++ text).dropWhile p = front.dropWhile p ++ text := by
  induction front with
  | nil =>
      cases text with
      | nil => rfl
      | cons c text =>
          rw [List.nil_append, List.dropWhile_cons, h c rfl]
          rfl
  | cons c front ih =>
      rw [List.cons_append, List.dropWhile_cons, List.dropWhile_cons]
      split
      · exact ih
      · rfl

theorem rdropWhile_append_of_last (h : ∀ c ∈ text.getLast?, p c = false) :
    (text ++ back).rdropWhile p = text ++ back.rdropWhile p := by
  have hhead : ∀ c ∈ text.reverse.head?, p c = false := by
    rwa [List.head?_reverse]
  rw [List.rdropWhile, List.reverse_append, dropWhile_append_of_head hhead, List.reverse_append,
    List.reverse_reverse, List.rdropWhile]

/-- What stands around a text is stripped by itself. -/
theorem stripList_append (hne : text ≠ []) (hfirst : ∀ c ∈ text.head?, p c = false)
    (hlast : ∀ c ∈ text.getLast?, p c = false) :
    stripList p (front ++ (text ++ back)) = front.dropWhile p ++ (text ++ back.rdropWhile p) := by
  have hfirst' : ∀ c ∈ (text ++ back).head?, p c = false := by
    rwa [List.head?_append_of_ne_nil _ hne]
  have hlast' : ∀ c ∈ (front.dropWhile p ++ text).getLast?, p c = false := by
    rwa [List.getLast?_append_of_ne_nil _ hne]
  show ((front ++ (text ++ back)).dropWhile p).rdropWhile p = _
  rw [dropWhile_append_of_head hfirst', ← List.append_assoc, rdropWhile_append_of_last hlast',
    List.append_assoc]

/-- A text that stays as it is has nothing to drop at either end. -/
theorem dropWhile_of_stripList (h : stripList p text = text) : text.dropWhile p = text := by
  have hprefix : stripList p text <+: text.dropWhile p := List.rdropWhile_prefix p _
  rw [h] at hprefix
  exact (List.dropWhile_suffix p).eq_of_length
    (le_antisymm (List.dropWhile_suffix p).length_le hprefix.length_le)

theorem head_of_stripList (h : stripList p text = text) : ∀ c ∈ text.head?, p c = false := by
  intro c hc
  have hhead := List.head?_dropWhile_not p text
  rw [dropWhile_of_stripList h, Option.mem_def.mp hc] at hhead
  exact hhead

theorem last_of_stripList (h : stripList p text = text) : ∀ c ∈ text.getLast?, p c = false := by
  intro c hc
  have hdrop : (text.dropWhile p).rdropWhile p = text := h
  rw [dropWhile_of_stripList h, List.rdropWhile_eq_self_iff] at hdrop
  obtain ⟨hne, rfl⟩ := List.mem_getLast?_eq_getLast hc
  rw [← Bool.not_eq_true]
  exact hdrop hne

/-- A text with nothing to drop at either end stays as it is. -/
theorem stripList_of_ends (hfirst : ∀ c ∈ text.head?, p c = false)
    (hlast : ∀ c ∈ text.getLast?, p c = false) : stripList p text = text := by
  rcases eq_or_ne text [] with rfl | hne
  · rfl
  · have happend : stripList p ([] ++ (text ++ [])) =
        List.dropWhile p [] ++ (text ++ List.rdropWhile p []) := stripList_append hne hfirst hlast
    rwa [List.dropWhile_nil, List.nil_append, List.append_nil, List.nil_append, List.rdropWhile_nil,
      List.append_nil] at happend

/-- What follows in a text with nothing to drop has nothing to drop at its end. -/
theorem stripList_suffix (h : stripList p text = text) (hsuffix : back <:+ text) :
    stripList p back <:+ back := by
  have hdrop : (back.dropWhile p).rdropWhile p = back.dropWhile p := by
    rw [List.rdropWhile_eq_self_iff]
    intro hne
    obtain ⟨front, hfront⟩ := (List.dropWhile_suffix p).trans hsuffix
    have hlast : text.getLast? = (back.dropWhile p).getLast? := by
      rw [← hfront, List.getLast?_append_of_ne_nil _ hne]
    rw [List.getLast?_eq_some_getLast hne] at hlast
    rw [last_of_stripList h _ hlast]
    exact Bool.false_ne_true
  show (back.dropWhile p).rdropWhile p <:+ back
  rw [hdrop]
  exact List.dropWhile_suffix p

end

theorem stripList_of_strip {s : String} (h : strip s = s) :
    stripList isSpace s.toList = s.toList := by
  rw [← String.toList_ofList (l := stripList isSpace s.toList)]
  exact congrArg String.toList h

/-- `s.rsplit(".", 1)[-1]`: what follows the last dot, all of `s` without one. -/
def afterLastDot (s : String) : String :=
  String.ofList (s.toList.reverse.takeWhile (· ≠ '.')).reverse

/-! ## Dictionaries -/

/-- A `dict` with string keys, in insertion order. -/
abbrev Dict (α : Type _) := List (String × α)

namespace Dict

variable {α : Type _}

/-- `d.get(key)` -/
def get? (d : Dict α) (key : String) : Option α := d.lookup key

/-- `d[key] = value`: a key already present keeps its place. -/
def set : Dict α → String → α → Dict α
  | [], key, value => [(key, value)]
  | (k, v) :: d, key, value => if k = key then (k, value) :: d else (k, v) :: set d key value

/-- `d.update(other)` -/
def update (d other : Dict α) : Dict α := other.foldl (fun d kv => d.set kv.1 kv.2) d

/-- `dict(pairs)`: later pairs override earlier ones. -/
def ofPairs (pairs : List (String × α)) : Dict α := update [] pairs

/-- Every value of an updated dictionary was a value of one of the two. -/
theorem mem_set {d : Dict α} {key : String} {value : α} {kv : String × α}
    (h : kv ∈ d.set key value) : kv = (key, value) ∨ kv ∈ d := by
  induction d with
  | nil => simpa [set] using h
  | cons p d ih =>
      obtain ⟨k, v⟩ := p
      simp only [set] at h
      by_cases hk : k = key
      · rw [if_pos hk] at h
        rcases List.mem_cons.mp h with h | h
        · exact .inl (by rw [h, hk])
        · exact .inr (List.mem_cons_of_mem _ h)
      · rw [if_neg hk] at h
        rcases List.mem_cons.mp h with h | h
        · exact .inr (h ▸ List.mem_cons_self)
        · exact (ih h).imp_right (List.mem_cons_of_mem _)

theorem mem_update {d other : Dict α} {kv : String × α} (h : kv ∈ d.update other) :
    kv ∈ d ∨ kv ∈ other := by
  induction other generalizing d with
  | nil => exact .inl h
  | cons p other ih =>
      rcases ih (d := d.set p.1 p.2) h with h | h
      · rcases mem_set h with h | h
        · exact .inr (h ▸ List.mem_cons_self)
        · exact .inl h
      · exact .inr (List.mem_cons_of_mem _ h)

/-- Values computed entry by entry. -/
theorem map_set {β : Type _} (f : String → α → β) (d : Dict α) (key : String) (value : α) :
    (d.set key value).map (fun kv => (kv.1, f kv.1 kv.2)) =
      set (d.map fun kv => (kv.1, f kv.1 kv.2)) key (f key value) := by
  induction d with
  | nil => rfl
  | cons p d ih =>
      simp only [set, List.map_cons]
      split
      · next hk => rw [List.map_cons, hk]
      · rw [List.map_cons, ih]

theorem map_ofPairs {β : Type _} (f : String → α → β) (pairs : List (String × α)) :
    (ofPairs pairs).map (fun kv => (kv.1, f kv.1 kv.2)) =
      ofPairs (pairs.map fun kv => (kv.1, f kv.1 kv.2)) := by
  have hupdate : ∀ (pairs : List (String × α)) (d : Dict α),
      (update d pairs).map (fun kv => (kv.1, f kv.1 kv.2)) =
        update (d.map fun kv => (kv.1, f kv.1 kv.2)) (pairs.map fun kv => (kv.1, f kv.1 kv.2)) := by
    intro pairs
    induction pairs with
    | nil => exact fun _ => rfl
    | cons p pairs ih =>
        intro d
        rw [List.map_cons, update, List.foldl_cons, ← update, ih, map_set]
        rfl
  exact hupdate pairs []

theorem mem_set_self (d : Dict α) (key : String) (value : α) :
    (key, value) ∈ d.set key value := by
  induction d with
  | nil => exact List.mem_singleton_self _
  | cons p d ih =>
      simp only [set]
      split
      · next hk => exact hk ▸ List.mem_cons_self
      · exact List.mem_cons_of_mem _ ih

/-- A value survives where nothing else is stored under its key. -/
theorem mem_set_of_mem {d : Dict α} {kv : String × α} {key : String} {value : α} (h : kv ∈ d)
    (hsame : kv.1 = key → kv.2 = value) : kv ∈ d.set key value := by
  induction d with
  | nil => exact absurd h List.not_mem_nil
  | cons p d ih =>
      simp only [set]
      rcases List.mem_cons.mp h with rfl | h
      · split
        · next hk => exact List.mem_cons.mpr (.inl (Prod.ext rfl (hsame hk)))
        · exact List.mem_cons_self
      · split
        · exact List.mem_cons_of_mem _ h
        · exact List.mem_cons_of_mem _ (ih h)

theorem mem_update_of_mem {d other : Dict α} {kv : String × α} (h : kv ∈ d ∨ kv ∈ other)
    (hsame : ∀ kv' ∈ other, kv.1 = kv'.1 → kv.2 = kv'.2) : kv ∈ d.update other := by
  induction other generalizing d with
  | nil => exact h.resolve_right List.not_mem_nil
  | cons p other ih =>
      refine ih (d := d.set p.1 p.2) ?_ fun kv' hkv' => hsame kv' (List.mem_cons_of_mem _ hkv')
      rcases h with h | h
      · exact .inl (mem_set_of_mem h (hsame p List.mem_cons_self))
      · rcases List.mem_cons.mp h with rfl | h
        · exact .inl (mem_set_self d _ _)
        · exact .inr h

/-- A new key goes to the end. -/
theorem set_of_notMem {d : Dict α} {key : String} (h : key ∉ d.map Prod.fst) (value : α) :
    d.set key value = d ++ [(key, value)] := by
  induction d with
  | nil => rfl
  | cons p d ih =>
      rw [List.map_cons, List.mem_cons, not_or] at h
      rw [set, if_neg (Ne.symm h.1), ih h.2, List.cons_append]

/-- Pairs whose keys differ are the dictionary they make. -/
theorem ofPairs_of_nodup {pairs : List (String × α)} (h : (pairs.map Prod.fst).Nodup) :
    ofPairs pairs = pairs := by
  have hupdate : ∀ (pairs : List (String × α)) (d : Dict α),
      ((d ++ pairs).map Prod.fst).Nodup → update d pairs = d ++ pairs := by
    intro pairs
    induction pairs with
    | nil => exact fun d _ => (List.append_nil d).symm
    | cons p pairs ih =>
        intro d hnodup
        have hnew : p.1 ∉ d.map Prod.fst := by
          rw [List.map_append, List.map_cons] at hnodup
          exact fun hmem => (List.nodup_append.mp hnodup).2.2 _ hmem _ List.mem_cons_self rfl
        have happend : d ++ p :: pairs = (d ++ [p]) ++ pairs := by
          rw [List.append_assoc, List.singleton_append]
        rw [happend] at hnodup ⊢
        rw [update, List.foldl_cons, ← update, set_of_notMem hnew]
        exact ih _ hnodup
  exact hupdate pairs [] h

end Dict

end DbGateway
