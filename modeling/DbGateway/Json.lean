import DbGateway.Python

/-!
# DbGateway.Json

JSON documents as both readers of a policy see them: Python after
`json.loads`, OPA as `data`.  A missing field and a `null` field are different
documents, and the two readers disagree about them, so field access is kept
partial (`get?`) and each reader says what it does with `none`.
-/

namespace DbGateway

/-- A JSON document.  Numbers are split the way `json.loads` splits them. -/
inductive Json where
  | null
  | bool (b : Bool)
  | int (n : Int)
  | float (q : Rat)
  | str (s : String)
  | arr (items : List Json)
  | obj (fields : List (String × Json))

namespace Json

/-- `obj[field]`; undefined (`none`) on anything but an object having it. -/
def get? : Json → String → Option Json
  | .obj fields, field => fields.lookup field
  | _, _ => none

/-- `value.get(field)` of a Python dict: absent reads as `None`. -/
def getD (d : Json) (field : String) : Json := (d.get? field).getD .null

/-- `bool(value)` -/
def truthy : Json → Bool
  | .null => false
  | .bool b => b
  | .int n => n != 0
  | .float q => q != 0
  | .str s => s != ""
  | .arr items => !items.isEmpty
  | .obj fields => !fields.isEmpty

/-- `a or b` -/
def or (a b : Json) : Json := if a.truthy then a else b

@[simp] theorem truthy_null : truthy .null = false := rfl

theorem truthy_str_iff {s : String} : truthy (.str s) = true ↔ s ≠ "" := by simp [truthy]

@[simp] theorem or_of_truthy {a : Json} (b : Json) (h : a.truthy = true) : a.or b = a := by
  simp [Json.or, h]

@[simp] theorem or_of_not_truthy {a : Json} (b : Json) (h : a.truthy = false) : a.or b = b := by
  simp [Json.or, h]

/-! ## Python's `str` -/

section Str

variable [Python]

mutual
/-- `repr(value)` -/
def repr : Json → String
  | .null => "None"
  | .bool b => if b then "True" else "False"
  | .int n => toString n
  | .float q => Python.floatRepr q
  | .str s => Python.repr s
  | .arr items => "[" ++ String.intercalate ", " (reprItems items) ++ "]"
  | .obj fields => "\x7b" ++ String.intercalate ", " (reprFields fields) ++ "\x7d"

def reprItems : List Json → List String
  | [] => []
  | x :: xs => repr x :: reprItems xs

def reprFields : List (String × Json) → List String
  | [] => []
  | (k, v) :: xs => (Python.repr k ++ ": " ++ repr v) :: reprFields xs
end

/-- `str(value)`: a string is itself, everything else its `repr`. -/
def toStr : Json → String
  | .str s => s
  | v => repr v

@[simp] theorem toStr_str (s : String) : toStr (.str s) = s := rfl

end Str

/-! ## Equality of documents -/

mutual
/-- `==` between documents: numbers by value, objects without regard to the
order of their fields. -/
def same : Json → Json → Bool
  | .null, .null => true
  | .bool a, .bool b => a == b
  | .int a, .int b => a == b
  | .int a, .float b => (a : Rat) == b
  | .float a, .int b => a == (b : Rat)
  | .float a, .float b => a == b
  | .str a, .str b => a == b
  | .arr xs, .arr ys => sameItems xs ys
  | .obj xs, .obj ys => xs.length == ys.length && sameFields xs ys
  | _, _ => false

def sameItems : List Json → List Json → Bool
  | [], [] => true
  | x :: xs, y :: ys => same x y && sameItems xs ys
  | _, _ => false

/-- Every field of the first list has an equal namesake in the second. -/
def sameFields : List (String × Json) → List (String × Json) → Bool
  | [], _ => true
  | (k, v) :: xs, ys =>
    (match ys.lookup k with
      | some w => same v w
      | none => false) && sameFields xs ys
end

/-- `value in collection` -/
def isIn (value : Json) (collection : List Json) : Bool := collection.any (same value)

theorem same_str_iff {v : Json} {s : String} : same v (.str s) = true ↔ v = .str s := by
  cases v <;> simp [same]

theorem str_same_iff {v : Json} {s : String} : same (.str s) v = true ↔ v = .str s := by
  cases v with
  | str t => rw [same, beq_iff_eq, Json.str.injEq, eq_comm]
  | _ => simp [same]

theorem isIn_str_iff {s : String} {xs : List Json} :
    isIn (.str s) xs = true ↔ Json.str s ∈ xs := by
  simp [isIn, str_same_iff]

/-- Membership among strings only. -/
theorem isIn_map_str_iff {v : Json} {xs : List String} :
    isIn v (xs.map .str) = true ↔ ∃ s ∈ xs, v = .str s := by
  simp [isIn, same_str_iff]

end Json

end DbGateway
