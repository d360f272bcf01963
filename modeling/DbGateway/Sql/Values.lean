import DbGateway.Sql.Semantics

/-!
# DbGateway.Sql.Values

A domain to evaluate queries on: truth values, integers and texts under
three-valued logic, with `count`, `sum`, `min` and `max`, and two small tables.
-/

namespace DbGateway.Sql

inductive Value where
  | null
  | bool (b : Bool)
  | int (n : Int)
  | text (s : String)
deriving DecidableEq

namespace Value

/-- Equality, unknown against `NULL`. -/
def eq : Value → Value → Value
  | .null, _ => .null
  | _, .null => .null
  | a, b => .bool (decide (a = b))

/-- Conjunction: false decides, `NULL` is unknown. -/
def and : Value → Value → Value
  | .bool false, _ => .bool false
  | _, .bool false => .bool false
  | .bool true, b => b
  | a, .bool true => a
  | _, _ => .null

/-- `NULL` sorts last. -/
def le : Value → Value → Bool
  | _, .null => true
  | .null, _ => false
  | .bool a, .bool b => !a || b
  | .int a, .int b => a ≤ b
  | .text a, .text b => a ≤ b
  | _, _ => true

/-- Lexicographic, each key ascending or descending. -/
def leKeys : List Bool → List Value → List Value → Bool
  | descending, a :: as, b :: bs =>
      if a = b then leKeys descending.tail as bs
      else if descending.headD false then le b a else le a b
  | _, _, _ => true

/-- How a value prints inside a row. -/
def toText : Value → String
  | .null => ""
  | .bool b => if b then "t" else "f"
  | .int n => toString n
  | .text s => s

def sum (values : List Value) : Value :=
  .int (values.foldl (fun total v =>
    match v with
    | .int n => total + n
    | _ => total) 0)

/-- An aggregate over the values of its argument; `NULL` does not count. -/
def aggregate (name : String) (rows : List (List Value)) : Value :=
  let values := (rows.map fun args => args.headD (.bool true)).filter (· ≠ .null)
  match name with
  | "count" => .int values.length
  | "min" => (values.insertionSort fun a b => le a b = true).headD .null
  | "max" => (values.insertionSort fun a b => le b a = true).headD .null
  | _ => if values.isEmpty then .null else sum values

end Value

instance : Domain Value where
  literal
    | .null => .null
    | .bool b => .bool b
    | .number text => (text.toInt?.map Value.int).getD .null
    | .string text => .text text
  func _ args := args.headD .null
  eq := Value.eq
  and_ := Value.and
  isTrue v := decide (v = .bool true)
  aggregate := Value.aggregate
  record fields := .text ("(" ++ String.intercalate "," (fields.map fun f => f.2.toText) ++ ")")
  ofBool := .bool
  member v values :=
    if values.any (fun w => decide (Value.eq v w = .bool true)) then .bool true
    else if values.any (fun w => decide (Value.eq v w = .null)) then .null
    else .bool false
  le := Value.leKeys
  funcHeader name _ := name
  isTrue_and a b := by
    rcases a with _ | (_ | _) | _ | _ <;> rcases b with _ | (_ | _) | _ | _ <;>
      simp [Value.and]
  isTrue_null_eq v := by simp [Value.eq]

/-! ## One table -/

/-- A catalog with one table, `album`. -/
def albumCatalog : Catalog := fun _ name => if name = "album" then ["title", "tenant"] else []

/-- Albums and whose they are. -/
def albumDatabase (albums : List (String × String)) : Database Value albumCatalog where
  rows _ name :=
    if name = "album" then albums.map fun album => [.text album.1, .text album.2] else []
  width db name row hrow := by
    by_cases hname : name = "album"
    · rw [if_pos hname, List.mem_map] at hrow
      obtain ⟨album, -, rfl⟩ := hrow
      simp [albumCatalog, hname]
    · rw [if_neg hname] at hrow
      exact absurd hrow List.not_mem_nil

/-- A statement over it. -/
def titleText : String := "SELECT title FROM album"

def titleQuery : Query :=
  .select false [.item (.column none ⟨"title", false⟩) none]
    (some (.table none ⟨"album", false⟩ none)) [] none [] none [] {}

end DbGateway.Sql
