import DbGateway.Dict

/-!
# DbGateway.Incident.Redis

The Redis commands that `services/incident_response.py` sends.  Each is atomic,
and a key whose time is up is not there any more.

What the commands are relied on for is stated by a `Server`, whatever it keeps the
keys in.  `Store` keeps them in a dictionary.
-/

namespace DbGateway.Incident

/-- A server: what it keeps, and what the commands make of it. -/
structure Server where
  State : Type
  /-- The clock, in milliseconds. -/
  now : State → Nat
  /-- What is kept under a key, and until when. -/
  live : State → String → Option (String × Nat)
  /-- A server that has just been started. -/
  start : Nat → State
  now_start : ∀ time, now (start time) = time
  live_start : ∀ time key, live (start time) key = none
  /-- The store at a later time, if nothing else happens. -/
  advance : State → Nat → State
  live_advance : ∀ store elapsed key,
    live (advance store elapsed) key =
      (live store key).filter fun entry => now store + elapsed < entry.2
  /-- Whether `SETEX` takes a number of seconds at a time. -/
  accepts : Nat → Int → Bool
  pos_of_accepts : ∀ {time seconds}, accepts time seconds = true → 0 < seconds
  /-- `SETEX`; `none` is a `redis.ResponseError`. -/
  setex : State → String → Int → String → Option State
  isSome_setex : ∀ store key seconds value,
    (setex store key seconds value).isSome = accepts (now store) seconds
  now_setex : ∀ {store key seconds value store'}, setex store key seconds value = some store' →
    now store' = now store
  live_setex : ∀ {store key seconds value store'}, setex store key seconds value = some store' →
    ∀ other, live store' other =
      if other = key then some (value, now store + 1000 * seconds.toNat) else live store other
  /-- `DELETE`: how many keys it removes, and what is left. -/
  delete : State → String → Nat × State
  delete_fst : ∀ store key, (delete store key).1 = if (live store key).isSome then 1 else 0
  live_delete : ∀ store key other,
    live (delete store key).2 other = if other = key then none else live store other
  /-- Whether a pattern of `KEYS` matches a key. -/
  keysMatch : String → String → Bool
  /-- `KEYS` -/
  keys : State → String → List String
  mem_keys : ∀ {store pattern key},
    key ∈ keys store pattern ↔ (live store key).isSome = true ∧ keysMatch pattern key = true

namespace Server

variable {self : Server}

/-- `GET` -/
def get (self : Server) (store : self.State) (key : String) : Option String :=
  (self.live store key).map Prod.fst

/-- `EXISTS` -/
def exists_ (self : Server) (store : self.State) (key : String) : Bool :=
  (self.live store key).isSome

/-- When a key would expire that is set now. -/
def deadline (self : Server) (store : self.State) (seconds : Int) : Nat :=
  self.now store + 1000 * seconds.toNat

variable {store store' : self.State} {key value : String} {seconds : Int}

theorem exists_iff :
    self.exists_ store key = true ↔
      ∃ value deadline, self.live store key = some (value, deadline) := by
  rw [exists_, Option.isSome_iff_exists, Prod.exists]

theorem exists_advance_iff {elapsed : Nat} :
    self.exists_ (self.advance store elapsed) key = true ↔ ∃ value deadline,
      self.live store key = some (value, deadline) ∧ self.now store + elapsed < deadline := by
  simp [exists_iff, self.live_advance, Option.filter_eq_some_iff]

theorem mem_keys_iff {pattern : String} :
    key ∈ self.keys store pattern ↔
      self.exists_ store key = true ∧ self.keysMatch pattern key = true := self.mem_keys

theorem accepts_of_setex (h : self.setex store key seconds value = some store') :
    self.accepts (self.now store) seconds = true := by
  rw [← self.isSome_setex store key seconds value, h]
  rfl

theorem setex_eq_none (h : self.setex store key seconds value = none) :
    self.accepts (self.now store) seconds = false := by
  rw [← self.isSome_setex store key seconds value, h]
  rfl

theorem live_set (h : self.setex store key seconds value = some store') :
    self.live store' key = some (value, self.deadline store seconds) := by
  rw [self.live_setex h, if_pos rfl, deadline]

end Server

/-! ## A dictionary -/

/-- The clock, and the keys with what is kept until when. -/
structure Store where
  now : Nat
  entries : Dict (String × Nat)
  nodup : (entries.map Prod.fst).Nodup

namespace Store

variable {self store : Store} {key value : String} {seconds : Int}

def live (self : Store) (key : String) : Option (String × Nat) :=
  (self.entries.get? key).filter fun entry => self.now < entry.2

def start (time : Nat) : Store := { now := time, entries := [], nodup := List.nodup_nil }

def advance (self : Store) (elapsed : Nat) : Store := { self with now := self.now + elapsed }

/-- Every positive number of seconds is taken. -/
def setex (self : Store) (key : String) (seconds : Int) (value : String) : Option Store :=
  if 0 < seconds then
    some
      { self with
        entries := self.entries.set key (value, self.now + 1000 * seconds.toNat)
        nodup := Dict.nodup_set self.nodup _ _ }
  else none

def delete (self : Store) (key : String) : Nat × Store :=
  (if (self.live key).isSome then 1 else 0,
    { self with
      entries := self.entries.filter fun kv => kv.1 ≠ key
      nodup := Dict.nodup_filter self.nodup _ })

/-- The pattern ends in a star and has no other wildcard. -/
def keysMatch (pattern key : String) : Bool := pattern.toList.dropLast.isPrefixOf key.toList

def keys (self : Store) (pattern : String) : List String :=
  (self.entries.map Prod.fst).filter fun key => (self.live key).isSome && keysMatch pattern key

theorem live_advance (self : Store) (elapsed : Nat) (key : String) :
    (self.advance elapsed).live key =
      (self.live key).filter fun entry => self.now + elapsed < entry.2 := by
  unfold live advance
  rw [Option.filter_filter]
  congr
  funext entry
  rw [Bool.eq_iff_iff]
  simp only [Bool.and_eq_true, decide_eq_true_iff]
  omega

theorem setex_eq_some (h : self.setex key seconds value = some store) :
    0 < seconds ∧ store.now = self.now ∧
      store.entries = self.entries.set key (value, self.now + 1000 * seconds.toNat) := by
  unfold setex at h
  split at h
  case isTrue hpos =>
    cases h
    exact ⟨hpos, rfl, rfl⟩
  case isFalse => contradiction

theorem live_setex (h : self.setex key seconds value = some store) (other : String) :
    store.live other =
      if other = key then some (value, self.now + 1000 * seconds.toNat) else self.live other := by
  obtain ⟨hpos, hnow, hentries⟩ := setex_eq_some h
  rw [live, hentries, Dict.get?_set, hnow]
  split
  · rw [Option.filter_some, if_pos]
    exact decide_eq_true (by omega)
  · rfl

theorem live_delete (self : Store) (key other : String) :
    (self.delete key).2.live other = if other = key then none else self.live other := by
  simp only [live, delete]
  rw [Dict.get?_filter (fun k => k ≠ key)]
  by_cases hother : other = key
  · rw [if_pos hother, if_neg (by simp [hother]), Option.filter_none]
  · rw [if_neg hother, if_pos (decide_eq_true hother)]
    rfl

theorem mem_keys {pattern : String} :
    key ∈ self.keys pattern ↔ (self.live key).isSome = true ∧ keysMatch pattern key = true := by
  rw [keys, List.mem_filter, Bool.and_eq_true, and_iff_right_iff_imp]
  intro h
  obtain ⟨entry, hentry⟩ := Option.isSome_iff_exists.mp h.1
  exact List.mem_map_of_mem (Dict.mem_of_get? (Option.filter_eq_some_iff.mp hentry).1)

end Store

/-- The commands on the dictionary. -/
def Server.prefixes : Server where
  State := Store
  now := Store.now
  live := Store.live
  start := Store.start
  now_start _ := rfl
  live_start _ _ := rfl
  advance := Store.advance
  live_advance := Store.live_advance
  accepts _ seconds := 0 < seconds
  pos_of_accepts h := of_decide_eq_true h
  setex := Store.setex
  isSome_setex store key seconds value := by
    unfold Store.setex
    split
    case isTrue hpos => exact (decide_eq_true hpos).symm
    case isFalse hpos => exact (decide_eq_false hpos).symm
  now_setex h := (Store.setex_eq_some h).2.1
  live_setex := Store.live_setex
  delete := Store.delete
  delete_fst _ _ := rfl
  live_delete := Store.live_delete
  keysMatch := Store.keysMatch
  keys := Store.keys
  mem_keys := Store.mem_keys

end DbGateway.Incident
