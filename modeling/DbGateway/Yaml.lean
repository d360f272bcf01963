import DbGateway.Python

/-!
# DbGateway.Yaml

YAML documents as `yaml.safe_load` gives them to Python.

Keys of a mapping need not be strings.  A key that is neither a string nor a
number is known by its text, and so is a float; sets are not modelled.
-/

namespace DbGateway

namespace Yaml

/-- A key of a mapping. -/
inductive Key where
  | str (s : String)
  | bool (b : Bool)
  | int (n : Int)
  | other (text : String)

/-- `str(key)` -/
def Key.text : Key → String
  | str s => s
  | bool b => if b then "True" else "False"
  | int n => toString n
  | other text => text

/-- The number that a key is, as far as Python takes it for one. -/
def Key.number : Key → Option Int
  | bool b => some (if b then 1 else 0)
  | int n => some n
  | _ => none

/-- `a == b` -/
def Key.same : Key → Key → Bool
  | str s, str t => s = t
  | other s, other t => s = t
  | a, b => a.number.isSome && a.number = b.number

theorem Key.same_self (key : Key) : key.same key = true := by
  cases key <;> simp [same, number]

/-- Only a string is the same as a string. -/
theorem Key.same_str_iff {s : String} {key : Key} : (Key.str s).same key = true ↔ key = .str s := by
  cases key <;> simp [same, number, eq_comm]

theorem Key.same_trans {a b c : Key} (hab : a.same b = true) (hbc : b.same c = true) :
    a.same c = true := by
  cases a <;> cases b <;> cases c <;> simp_all [same, number]

theorem Key.same_str_iff' {s : String} {key : Key} : key.same (.str s) = true ↔ key = .str s := by
  cases key <;> simp [same, number]

end Yaml

/-- A document, or a part of one. -/
inductive Yaml where
  | null
  | bool (b : Bool)
  | int (n : Int)
  /-- A `float`, by its `repr`. -/
  | float (text : String)
  | str (s : String)
  | seq (items : List Yaml)
  | map (entries : List (Yaml.Key × Yaml))
  /-- Any other value: a date, bytes. -/
  | other (typeName text repr : String)

namespace Yaml

/-- A mapping. -/
abbrev Mapping := List (Key × Yaml)

/-- `mapping.get(name)`; `none` without the key -/
def Mapping.find (mapping : Mapping) (name : String) : Option Yaml :=
  (List.find? (fun entry => entry.1.same (.str name)) mapping).map Prod.snd

/-- `mapping.get(name)` -/
def Mapping.field (mapping : Mapping) (name : String) : Yaml := (mapping.find name).getD .null

/-- `value is True` -/
def isTrue : Yaml → Bool
  | bool true => true
  | _ => false

/-- Whether the text is that of a float that is zero. -/
def isZeroText (text : String) : Bool := text = "0.0" || text = "-0.0"

/-- `bool(value)` -/
def truthy : Yaml → Bool
  | null => false
  | bool b => b
  | int n => n ≠ 0
  | float text => !isZeroText text
  | str s => s ≠ ""
  | seq items => !items.isEmpty
  | map entries => !entries.isEmpty
  | other .. => true

/-- `a or b` -/
def or (a b : Yaml) : Yaml := if a.truthy then a else b

/-- `type(value).__name__` -/
def typeName : Yaml → String
  | null => "NoneType"
  | bool _ => "bool"
  | int _ => "int"
  | float _ => "float"
  | str _ => "str"
  | seq _ => "list"
  | map _ => "dict"
  | other typeName _ _ => typeName

section

variable [Python]

/-- `repr(key)` -/
def Key.repr : Key → String
  | str s => Python.repr s
  | key => key.text

mutual
/-- `repr(value)` -/
def repr : Yaml → String
  | null => "None"
  | bool b => if b then "True" else "False"
  | int n => toString n
  | float text => text
  | str s => Python.repr s
  | seq items => "[" ++ String.intercalate ", " (reprItems items) ++ "]"
  | map entries => "\x7b" ++ String.intercalate ", " (reprEntries entries) ++ "\x7d"
  | other _ _ repr => repr

def reprItems : List Yaml → List String
  | [] => []
  | x :: xs => repr x :: reprItems xs

def reprEntries : List (Key × Yaml) → List String
  | [] => []
  | (k, v) :: xs => (k.repr ++ ": " ++ repr v) :: reprEntries xs
end

/-- `str(value)` -/
def toStr : Yaml → String
  | str s => s
  | other _ text _ => text
  | value => repr value

@[simp] theorem toStr_str (s : String) : toStr (.str s) = s := rfl

end

end Yaml

end DbGateway
