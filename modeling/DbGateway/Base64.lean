import Mathlib.Data.List.GetD
import Mathlib.Data.List.Nodup

/-!
# DbGateway.Base64

Bytes as text: 64 digits of six bits each, and padding to a multiple of four.

The reader is the lenient one.  It skips what is no digit, and stops at the
padding that completes a group of four.  It reads what the writer writes
(`decode_encode`).
-/

namespace DbGateway.Base64

/-! ## Digits -/

/-- The digits, in the order of their values. -/
def alphabet : List Char :=
  "ABCDEFGHIJKLMNOPQRSTUVWXYZabcdefghijklmnopqrstuvwxyz0123456789+/".toList

/-- The digit of a value below 64. -/
def digit (n : Nat) : Char := alphabet.getD n '='

/-- The value of a digit; 64 for other characters. -/
def value (c : Char) : Nat := alphabet.idxOf c

theorem toNat_alphabet : alphabet.map Char.toNat =
    List.range' 65 26 ++ List.range' 97 26 ++ List.range' 48 10 ++ [43, 47] := by
  rfl

theorem length_alphabet : alphabet.length = 64 := by
  rw [← List.length_map Char.toNat, toNat_alphabet]
  rfl

theorem nodup_alphabet : alphabet.Nodup := by
  refine List.Nodup.of_map Char.toNat ?_
  rw [toNat_alphabet]
  decide

theorem pad_notMem_alphabet : '=' ∉ alphabet := by
  intro h
  have hnat := List.mem_map_of_mem (f := Char.toNat) h
  rw [toNat_alphabet] at hnat
  revert hnat
  decide

theorem digit_eq_getElem {n : Nat} (h : n < alphabet.length) : digit n = alphabet[n] := by
  rw [digit, List.getD_eq_getElem]

theorem value_digit {n : Nat} (h : n < 64) : value (digit n) = n := by
  rw [digit_eq_getElem (Nat.lt_of_lt_of_eq h length_alphabet.symm), value]
  exact nodup_alphabet.idxOf_getElem n _

theorem digit_ne_pad {n : Nat} (h : n < 64) : digit n ≠ '=' := by
  rw [digit_eq_getElem (Nat.lt_of_lt_of_eq h length_alphabet.symm)]
  exact ne_of_mem_of_not_mem (List.getElem_mem _) pad_notMem_alphabet

/-! ## Writing -/

/-- Three bytes are four digits; one or two at the end are padded. -/
def encode : List UInt8 → List Char
  | [] => []
  | [a] => [digit (a.toNat / 4), digit (a.toNat % 4 * 16), '=', '=']
  | [a, b] =>
      [digit (a.toNat / 4), digit (a.toNat % 4 * 16 + b.toNat / 16), digit (b.toNat % 16 * 4), '=']
  | a :: b :: c :: rest =>
      digit (a.toNat / 4) :: digit (a.toNat % 4 * 16 + b.toNat / 16) ::
        digit (b.toNat % 16 * 4 + c.toNat / 64) :: digit (c.toNat % 64) :: encode rest

/-! ## Reading -/

/-- The reader, with how many digits of a group it has read, the bits of them
that are not in a byte yet, and the padding since.  What is left of a group is
an error. -/
def decodeFrom (quadPos left pads : Nat) : List Char → Option (List UInt8)
  | [] => if quadPos = 0 then some [] else none
  | c :: cs =>
      if c = '=' then
        if 2 ≤ quadPos then
          if 4 ≤ quadPos + (pads + 1) then some [] else decodeFrom quadPos left (pads + 1) cs
        else decodeFrom quadPos left pads cs
      else
        if 64 ≤ value c then decodeFrom quadPos left pads cs
        else
          match quadPos with
          | 0 => decodeFrom 1 (value c) 0 cs
          | 1 => (decodeFrom 2 (value c % 16) 0 cs).map (.ofNat (left * 4 + value c / 16) :: ·)
          | 2 => (decodeFrom 3 (value c % 4) 0 cs).map (.ofNat (left * 16 + value c / 4) :: ·)
          | _ + 3 => (decodeFrom 0 0 0 cs).map (.ofNat (left * 64 + value c) :: ·)

/-- Text with a character that is not ASCII is an error too. -/
def decode (text : List Char) : Option (List UInt8) :=
  if text.all (·.toNat < 128) then decodeFrom 0 0 0 text else none

/-! ## Reading what is written -/

section

variable {n left pads : Nat} (h : n < 64) (cs : List Char)

include h

theorem decodeFrom_zero_digit :
    decodeFrom 0 left pads (digit n :: cs) = decodeFrom 1 n 0 cs := by
  rw [decodeFrom, if_neg (digit_ne_pad h), value_digit h, if_neg (Nat.not_le.mpr h)]

theorem decodeFrom_one_digit : decodeFrom 1 left pads (digit n :: cs) =
    (decodeFrom 2 (n % 16) 0 cs).map (.ofNat (left * 4 + n / 16) :: ·) := by
  rw [decodeFrom, if_neg (digit_ne_pad h), value_digit h, if_neg (Nat.not_le.mpr h)]

theorem decodeFrom_two_digit : decodeFrom 2 left pads (digit n :: cs) =
    (decodeFrom 3 (n % 4) 0 cs).map (.ofNat (left * 16 + n / 4) :: ·) := by
  rw [decodeFrom, if_neg (digit_ne_pad h), value_digit h, if_neg (Nat.not_le.mpr h)]

theorem decodeFrom_three_digit : decodeFrom 3 left pads (digit n :: cs) =
    (decodeFrom 0 0 0 cs).map (.ofNat (left * 64 + n) :: ·) := by
  rw [decodeFrom, if_neg (digit_ne_pad h), value_digit h, if_neg (Nat.not_le.mpr h)]

end

/-- A byte whose value has been put together. -/
theorem ofNat_eq {n : Nat} {b : UInt8} (h : n = b.toNat) : UInt8.ofNat n = b := by
  rw [h, UInt8.ofNat_toNat]

theorem decodeFrom_encode (bytes : List UInt8) : decodeFrom 0 0 0 (encode bytes) = some bytes := by
  induction bytes using encode.induct with
  | case1 => rfl
  | case2 a =>
      have ha := a.toNat_lt
      rw [encode, decodeFrom_zero_digit (by omega), decodeFrom_one_digit (by omega),
        ofNat_eq (b := a) (by omega)]
      rfl
  | case3 a b =>
      have ha := a.toNat_lt
      have hb := b.toNat_lt
      rw [encode, decodeFrom_zero_digit (by omega), decodeFrom_one_digit (by omega),
        decodeFrom_two_digit (by omega), ofNat_eq (b := a) (by omega), ofNat_eq (b := b) (by omega)]
      rfl
  | case4 a b c rest ih =>
      have ha := a.toNat_lt
      have hb := b.toNat_lt
      have hc := c.toNat_lt
      rw [encode, decodeFrom_zero_digit (by omega), decodeFrom_one_digit (by omega),
        decodeFrom_two_digit (by omega), decodeFrom_three_digit (by omega), ih,
        ofNat_eq (b := a) (by omega), ofNat_eq (b := b) (by omega), ofNat_eq (b := c) (by omega)]
      rfl

theorem toNat_digit_lt {n : Nat} (h : n < 64) : (digit n).toNat < 128 := by
  have hmem : (digit n).toNat ∈ alphabet.map Char.toNat := by
    rw [digit_eq_getElem (Nat.lt_of_lt_of_eq h length_alphabet.symm)]
    exact List.mem_map_of_mem (List.getElem_mem _)
  rw [toNat_alphabet] at hmem
  simp only [List.mem_append, List.mem_range'_1, List.mem_cons, List.not_mem_nil, or_false] at hmem
  omega

theorem toNat_lt_of_mem_encode (bytes : List UInt8) : ∀ c ∈ encode bytes, c.toNat < 128 := by
  induction bytes using encode.induct with
  | case1 => simp [encode]
  | case2 a =>
      have ha := a.toNat_lt
      simp only [encode, List.forall_mem_cons]
      refine ⟨toNat_digit_lt (by omega), toNat_digit_lt (by omega), by decide, by decide, by simp⟩
  | case3 a b =>
      have ha := a.toNat_lt
      have hb := b.toNat_lt
      simp only [encode, List.forall_mem_cons]
      refine ⟨toNat_digit_lt (by omega), toNat_digit_lt (by omega), toNat_digit_lt (by omega),
        by decide, by simp⟩
  | case4 a b c rest ih =>
      have ha := a.toNat_lt
      have hb := b.toNat_lt
      have hc := c.toNat_lt
      simp only [encode, List.forall_mem_cons]
      exact ⟨toNat_digit_lt (by omega), toNat_digit_lt (by omega), toNat_digit_lt (by omega),
        toNat_digit_lt (by omega), ih⟩

/-- **The reader reads what the writer writes.** -/
theorem decode_encode (bytes : List UInt8) : decode (encode bytes) = some bytes := by
  rw [decode, if_pos, decodeFrom_encode]
  simpa using toNat_lt_of_mem_encode bytes

end DbGateway.Base64
