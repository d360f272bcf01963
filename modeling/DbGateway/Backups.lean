import DbGateway.Calendar
import DbGateway.Glob
import DbGateway.Json
import DbGateway.Newest
import DbGateway.Placeholder
import Mathlib.Data.String.Basic

/-!
# DbGateway.Backups

`scripts/backup-databases.py`: dumps of every tenant's databases, and how many of
them are kept.

A dump is named after its database and found again by a pattern made of the
name.  The dumps of a database are its own as long as no pattern matches the
beginning of another database's name, up to two underscores
(`perDatabase_iff`).
-/

namespace DbGateway.Backups

open Calendar (Date padded)
open Glob (fnmatch)
open Placeholder (replace)

/-! ## Targets -/

/-- What can be raised. -/
inductive Raised where
  /-- `BackupConfigError` -/
  | config (text : String)
  /-- `RuntimeError` -/
  | runtime (text : String)
  /-- `ValueError` -/
  | value (text : String)
  /-- `AttributeError` -/
  | attributeError

/-- `(label, connection_string)` -/
abbrev Target := String × String

/-- A dictionary in the order of its keys. -/
def sortedItems {α : Type} (d : Dict α) : Dict α := d.mergeSort fun a b => decide (a.1 ≤ b.1)

section

variable [Python]

/-- `str(value).strip()` -/
def strippedText (value : Json) : String := strip value.toStr

/-- The connection string of an entry's replica. -/
def replicaConnection (entry : Json) : Except Raised Json :=
  let direct := (entry.getD "replica_connection_string").or
    (entry.getD "read_replica_connection_string")
  if direct.truthy then .ok direct
  else
    match (entry.getD "replica").or (.obj []) with
    | .obj fields => .ok (((Json.obj fields).get? "connection_string").getD (.str ""))
    | _ => .error .attributeError

/-- The targets of one entry. -/
def entryTargets (label : String) (entry : Json) (includeReplicas : Bool) :
    Except Raised (List Target) :=
  match entry with
  | .str connection => .ok [(label, connection)]
  | .obj _ => do
      let primary := strippedText
        (((entry.getD "connection_string").or (entry.getD "primary")).or (.str ""))
      let replica := strippedText (← replicaConnection entry)
      if primary = "" then
        .error (.config ("tenant " ++ Python.repr label ++ ": missing connection_string"))
      else if replica ≠ "" ∧ includeReplicas then
        pure [(label ++ " (replica)", replica), (label, primary)]
      else pure [(label, primary)]
  | _ =>
      .error (.config ("tenant " ++ Python.repr label ++ ": entry must be a string or object"))

/-- `target_urls` -/
def targetUrls (config : Dict Json) (includeReplicas : Bool) : Except Raised (List Target) := do
  let found ← (sortedItems config).mapM fun tenant =>
    match tenant.2 with
    | .obj bindings => do
        let found ← (sortedItems bindings).mapM fun binding =>
          entryTargets (tenant.1 ++ "/" ++ binding.1) binding.2 includeReplicas
        pure found.flatten
    | _ =>
        .error (.config ("tenant " ++ Python.repr tenant.1 ++ ": bindings must be a JSON object"))
  pure found.flatten

end

/-- `text.startswith(head)` -/
def hasPrefix (head text : String) : Bool := head.toList.isPrefixOf text.toList

/-- `connection_string.replace(marker, scheme, 1)`, for a marker it starts with. -/
def replaceFront (marker scheme connection : String) : String :=
  scheme ++ String.ofList (connection.toList.drop marker.length)

/-- `portable_pg_url` -/
def portablePgUrl (connection : String) : String :=
  let markers := ["+asyncpg", "+psycopg", "+psycopg2", "+pg8000"].flatMap fun driver =>
    [("postgresql" ++ driver ++ "://", "postgresql://"), ("postgres" ++ driver ++ "://", "postgres://")]
  match markers.find? fun marker => hasPrefix marker.1 connection with
  | some marker => replaceFront marker.1 marker.2 connection
  | none => connection

/-! ## Names -/

/-- A moment in UTC, to the second; its year has four digits. -/
structure Timestamp where
  date : Date
  second : Nat
  year_ge : 1000 ≤ date.year
  second_lt : second < 86400

namespace Timestamp

/-- Seconds since the day before 1 January of year 1. -/
def instant (t : Timestamp) : Nat := t.date.toordinal * 86400 + t.second

/-- `strftime("%Y%m%d_%H%M%S")` -/
def text (t : Timestamp) : List Char :=
  padded 4 t.date.year ++ (padded 2 t.date.month ++ (padded 2 t.date.day ++
    ('_' :: (padded 2 (t.second / 3600) ++
      (padded 2 (t.second / 60 % 60) ++ padded 2 (t.second % 60))))))

end Timestamp

/-- `label.replace("/", "__").replace(" ", "_").replace("(replica)", "replica")` -/
def safeLabel (label : String) : List Char :=
  replace "(replica)".toList "replica".toList (replace [' '] ['_'] (replace ['/'] ['_', '_'] label.toList))

/-- The name of a dump. -/
def dumpPath (label : String) (t : Timestamp) : String :=
  String.ofList (safeLabel label ++ (['_', '_'] ++ (t.text ++ ".dump".toList)))

/-! ## Dumping -/

/-- What becomes of a dump: what `pg_dump` says if it fails, whether the file is
empty, and what `pg_restore` says if it cannot read it. -/
structure Tools where
  dumpError : Option String
  empty : Bool
  listError : Option String

/-- `backup_one`, with the files that are there before and after it. -/
def backupOne (dir : Finset String) (connection label : String) (t : Timestamp) (tools : Tools) :
    Finset String × Except Raised String :=
  let url := portablePgUrl connection
  if !(hasPrefix "postgres://" url || hasPrefix "postgresql://" url) then
    (dir, .error (.config (label ++ ": only PostgreSQL targets are backed up here (" ++ url ++ ")")))
  else
    let path := dumpPath label t
    match tools.dumpError with
    | some text => (dir.erase path, .error (.runtime (label ++ ": pg_dump failed: " ++ text)))
    | none =>
        if tools.empty then
          (dir.erase path, .error (.runtime (label ++ ": pg_dump produced an empty file")))
        else
          match tools.listError with
          | some text =>
              (dir.erase path, .error (.runtime (label ++ ": pg_restore --list failed: " ++ text)))
          | none => (insert path dir, .ok path)

/-- `backup_dir.glob(pattern)`; `none` is a `ValueError`. -/
def globNames (dir : Finset String) (pattern : List Char) : Option (Finset String) :=
  if ['*', '*'] <:+: pattern then none
  else some (dir.filter fun name => fnmatch name.toList pattern)

/-- `enforce_retention`, with the files that are there before and after it. -/
def enforceRetention (dir : Finset String) (label : String) (keep : Int) :
    Except Raised (Finset String) :=
  if keep < 1 then .ok dir
  else
    match globNames dir (safeLabel label ++ "__*.dump".toList) with
    | none => .error (.value "Invalid pattern: '**' can only be an entire path component")
    | some found =>
        let dumps := Newest.sorted found
        let stale := if dumps.length > keep then dumps.take (dumps.length - keep.toNat) else []
        .ok (dir.filter (· ∉ stale))

/-- What a run has come to: the files, the dumps that were made, and whether one
failed. -/
structure Progress where
  dir : Finset String
  created : List String
  failed : Bool

/-- One round of the loop in `main`, and what ends it. -/
def backupTarget (t : Timestamp) (retention : Int) (tools : String → Tools) (target : Target)
    (progress : Progress) : Progress × Option Raised :=
  let backup := backupOne progress.dir target.2 target.1 t (tools target.1)
  match backup.2 with
  | .error (.runtime _) | .error (.config _) =>
      ({ progress with dir := backup.1, failed := true }, none)
  | .error raised => ({ progress with dir := backup.1 }, some raised)
  | .ok path =>
      let created := progress.created ++ [path]
      match enforceRetention backup.1 target.1 retention with
      | .ok dir => ({ progress with dir, created }, none)
      | .error raised => ({ progress with dir := backup.1, created }, some raised)

/-- The rounds after one that did not end the loop. -/
def Progress.thenRest (rest : Progress → Progress × Option Raised) :
    Progress × Option Raised → Progress × Option Raised
  | (progress, none) => rest progress
  | (progress, some raised) => (progress, some raised)

/-- The loop in `main`. -/
def backupAll (t : Timestamp) (retention : Int) (tools : String → Tools) :
    List Target → Progress → Progress × Option Raised
  | [], progress => (progress, none)
  | target :: targets, progress =>
      Progress.thenRest (backupAll t retention tools targets)
        (backupTarget t retention tools target progress)

/-! ## Times in names -/

theorem length_padded (width n : Nat) : (padded width n).length = width := by
  induction width generalizing n with
  | zero => rfl
  | succ width ih => rw [padded, List.length_append, ih, List.length_singleton]

theorem append_lt_append_iff {front front' back back' : List Char}
    (h : front.length = front'.length) :
    front ++ back < front' ++ back' ↔ front < front' ∨ front = front' ∧ back < back' := by
  induction front generalizing front' with
  | nil =>
      rw [List.eq_nil_of_length_eq_zero h.symm]
      simp
  | cons c front ih =>
      obtain ⟨c', front', rfl⟩ := List.exists_cons_of_length_eq_add_one h.symm
      have hlength : front.length = front'.length := Nat.succ.inj h
      simp only [List.cons_append, List.cons_lt_cons_iff, ih hlength, List.cons.injEq, and_or_left,
        or_assoc, and_assoc]

theorem digitChar_lt_iff {d d' : Nat} (h : d < 10) (h' : d' < 10) :
    Nat.digitChar d < Nat.digitChar d' ↔ d < d' := by
  interval_cases d <;> interval_cases d' <;> decide

theorem digitChar_inj {d d' : Nat} (h : d < 10) (h' : d' < 10) :
    Nat.digitChar d = Nat.digitChar d' ↔ d = d' := by
  refine ⟨fun heq => ?_, fun heq => heq ▸ rfl⟩
  by_contra hne
  rcases Nat.lt_or_gt_of_ne hne with hlt | hgt
  · exact absurd heq ((digitChar_lt_iff h h').mpr hlt).ne
  · exact absurd heq ((digitChar_lt_iff h' h).mpr hgt).ne'

theorem digitChar_ne {d : Nat} (h : d < 10) : Nat.digitChar d ≠ '_' := by
  interval_cases d <;> decide

/-- Digits of one width are ordered as the numbers are, and so is what follows them. -/
theorem padded_append_lt_iff {width n n' : Nat} (h : n < 10 ^ width) (h' : n' < 10 ^ width)
    {back back' : List Char} :
    padded width n ++ back < padded width n' ++ back' ↔ n < n' ∨ n = n' ∧ back < back' := by
  induction width generalizing n n' back back' with
  | zero =>
      rw [pow_zero, Nat.lt_one_iff] at h h'
      rw [h, h']
      simp [padded]
  | succ width ih =>
      have hdiv : n / 10 < 10 ^ width := Nat.div_lt_of_lt_mul (by rwa [← pow_succ'])
      have hdiv' : n' / 10 < 10 ^ width := Nat.div_lt_of_lt_mul (by rwa [← pow_succ'])
      have hmod : n % 10 < 10 := Nat.mod_lt n (by decide)
      have hmod' : n' % 10 < 10 := Nat.mod_lt n' (by decide)
      rw [padded, padded, List.append_assoc, List.append_assoc, ih hdiv hdiv', List.singleton_append,
        List.singleton_append, List.cons_lt_cons_iff, digitChar_lt_iff hmod hmod',
        digitChar_inj hmod hmod']
      by_cases hback : back < back'
      · simp only [hback, and_true]
        omega
      · simp only [hback, and_false, or_false]
        omega

namespace Timestamp

theorem fields_lt (t : Timestamp) :
    t.date.year < 10 ^ 4 ∧ t.date.month < 10 ^ 2 ∧ t.date.day < 10 ^ 2 ∧
      t.second / 3600 < 10 ^ 2 ∧ t.second / 60 % 60 < 10 ^ 2 ∧ t.second % 60 < 10 ^ 2 := by
  have hyear := t.date.year_range.2
  have hmonth := t.date.month_range
  have hday := t.date.day_range.2
  have hlast : Calendar.daysInMonth t.date.year t.date.month ≤ 31 := by
    generalize t.date.month = month at hmonth
    obtain ⟨hlow, hhigh⟩ := hmonth
    cases hleap : Calendar.isLeap t.date.year <;> interval_cases month <;>
      simp [Calendar.daysInMonth, hleap]
  have hsecond := t.second_lt
  refine ⟨?_, ?_, ?_, ?_, ?_, ?_⟩ <;> omega

/-- Names are ordered as the times in them are. -/
theorem text_append_lt_iff (t t' : Timestamp) (back : List Char) :
    t.text ++ back < t'.text ++ back ↔ t.instant < t'.instant := by
  obtain ⟨hyear, hmonth, hday, hhour, hminute, hsecond⟩ := t.fields_lt
  obtain ⟨hyear', hmonth', hday', hhour', hminute', hsecond'⟩ := t'.fields_lt
  have hirrefl : ¬ back < back := lt_irrefl back
  have hdate := @Date.toordinal_lt_iff t.date t'.date
  have hdate' := @Date.toordinal_lt_iff t'.date t.date
  have hrange := t.second_lt
  have hrange' := t'.second_lt
  simp only [text, List.append_assoc, List.cons_append, padded_append_lt_iff hyear hyear',
    padded_append_lt_iff hmonth hmonth', padded_append_lt_iff hday hday', List.cons_lt_cons_iff,
    padded_append_lt_iff hhour hhour', padded_append_lt_iff hminute hminute',
    padded_append_lt_iff hsecond hsecond', hirrefl, lt_irrefl, instant, and_false, or_false,
    false_or, true_and]
  omega

theorem length_text (t : Timestamp) : t.text.length = 15 := by
  simp only [text, List.length_append, List.length_cons, length_padded]

theorem ne_of_mem_padded {width n : Nat} {c : Char} (h : c ∈ padded width n) : c ≠ '_' := by
  induction width generalizing n with
  | zero => exact absurd h List.not_mem_nil
  | succ width ih =>
      rcases List.mem_append.mp h with h | h
      · exact ih h
      · rw [List.mem_singleton.mp h]
        exact digitChar_ne (Nat.mod_lt n (by decide))

/-- Two underscores are found only after other characters that follow one. -/
theorem infix_of_digits {front rest : List Char} (h : ∀ c ∈ front, c ≠ '_') (hne : front ≠ [])
    (hinside : ['_', '_'] <:+: '_' :: (front ++ rest)) : ['_', '_'] <:+: rest := by
  have hpass : ∀ {front : List Char}, (∀ c ∈ front, c ≠ '_') → ['_', '_'] <:+: front ++ rest →
      ['_', '_'] <:+: rest := by
    intro front h hinside
    induction front with
    | nil => exact hinside
    | cons c front ih =>
        rcases List.infix_cons_iff.mp hinside with hprefix | hinside
        · exact absurd (List.cons_prefix_cons.mp hprefix).1.symm (h c List.mem_cons_self)
        · exact ih (fun d hd => h d (List.mem_cons_of_mem c hd)) hinside
  rcases List.infix_cons_iff.mp hinside with hprefix | hinside
  · obtain ⟨c, front, rfl⟩ := List.exists_cons_of_ne_nil hne
    have hsecond := (List.cons_prefix_cons.mp hprefix).2
    exact absurd (List.cons_prefix_cons.mp hsecond).1.symm (h c List.mem_cons_self)
  · exact hpass h hinside

/-- The underscore in a time stands alone. -/
theorem not_infix_text (t : Timestamp) : ¬ ['_', '_'] <:+: '_' :: t.text := by
  let day := padded 4 t.date.year ++ (padded 2 t.date.month ++ padded 2 t.date.day)
  let time := padded 2 (t.second / 3600) ++ (padded 2 (t.second / 60 % 60) ++ padded 2 (t.second % 60))
  have htext : t.text = day ++ ('_' :: (time ++ [])) := by
    simp only [text, day, time, List.append_assoc, List.append_nil]
  have hday : ∀ c ∈ day, c ≠ '_' := by
    intro c hc
    rcases List.mem_append.mp hc with hc | hc
    · exact ne_of_mem_padded hc
    · exact (List.mem_append.mp hc).elim ne_of_mem_padded ne_of_mem_padded
  have htime : ∀ c ∈ time, c ≠ '_' := by
    intro c hc
    rcases List.mem_append.mp hc with hc | hc
    · exact ne_of_mem_padded hc
    · exact (List.mem_append.mp hc).elim ne_of_mem_padded ne_of_mem_padded
  intro hinside
  rw [htext] at hinside
  have hnil := infix_of_digits htime (List.ne_nil_of_length_pos (by simp [time, length_padded]))
    (infix_of_digits hday (List.ne_nil_of_length_pos (by simp [day, length_padded])) hinside)
  exact absurd (List.infix_nil.mp hnil) (List.cons_ne_nil _ _)

end Timestamp

/-! ## Names and patterns -/

theorem toList_dumpPath (label : String) (t : Timestamp) :
    (dumpPath label t).toList = safeLabel label ++ (['_', '_'] ++ (t.text ++ ".dump".toList)) :=
  String.toList_ofList

/-- A name says what it was made of. -/
theorem safeLabel_eq_of_dumpPath {label label' : String} {t t' : Timestamp}
    (h : dumpPath label t = dumpPath label' t') : safeLabel label = safeLabel label' := by
  have hlist := congrArg String.toList h
  rw [toList_dumpPath, toList_dumpPath] at hlist
  refine (List.append_inj' hlist ?_).1
  simp only [List.length_append, Timestamp.length_text]

theorem dumpPath_congr {label label' : String} (h : safeLabel label = safeLabel label')
    (t : Timestamp) : dumpPath label t = dumpPath label' t := by
  rw [dumpPath, dumpPath, h]

theorem dumpPath_lt_iff (label : String) (t t' : Timestamp) :
    dumpPath label t < dumpPath label t' ↔ t.instant < t'.instant := by
  rw [String.lt_iff_toList_lt, toList_dumpPath, toList_dumpPath, append_lt_append_iff rfl,
    append_lt_append_iff rfl, Timestamp.text_append_lt_iff]
  simp only [lt_irrefl, false_or, true_and]

/-- The pattern of a label. -/
def dumpPattern (label : String) : List Char := safeLabel label ++ "__*.dump".toList

/-- The pattern of a label matches a part of another, up to two underscores. -/
def Covers (label label' : String) : Prop :=
  ¬ ['*', '*'] <:+: dumpPattern label ∧
    ∃ front back, safeLabel label' ++ ['_', '_'] = front ++ (['_', '_'] ++ back) ∧
      fnmatch front (safeLabel label) = true

/-- What stands between two underscores and the suffix. -/
theorem fnmatch_rest {name : List Char} :
    fnmatch name "__*.dump".toList = true ↔ ∃ mid, name = ['_', '_'] ++ (mid ++ ".dump".toList) := by
  have hsplit : "__*.dump".toList = ['_', '_'] ++ (['*'] ++ ".dump".toList) := rfl
  rw [hsplit, Glob.fnmatch_append (by decide)]
  constructor
  · rintro ⟨front, back, rfl, hfront, hback⟩
    obtain ⟨mid, suffix, rfl, -, hsuffix⟩ := (Glob.fnmatch_append (by decide)).mp hback
    rw [(Glob.fnmatch_literal (by decide)).mp hfront, (Glob.fnmatch_literal (by decide)).mp hsuffix]
    exact ⟨mid, rfl⟩
  · rintro ⟨mid, rfl⟩
    refine ⟨_, _, rfl, (Glob.fnmatch_literal (by decide)).mpr rfl, ?_⟩
    exact (Glob.fnmatch_append (by decide)).mpr
      ⟨mid, _, rfl, Glob.fnmatch_star mid, (Glob.fnmatch_literal (by decide)).mpr rfl⟩

/-- A dump is matched by a pattern, whatever its time, if its label is covered. -/
theorem fnmatch_dumpPath_iff {label label' : String} (t : Timestamp) :
    fnmatch (dumpPath label' t).toList (dumpPattern label) = true ↔
      ∃ front back, safeLabel label' ++ ['_', '_'] = front ++ (['_', '_'] ++ back) ∧
        fnmatch front (safeLabel label) = true := by
  rw [toList_dumpPath, dumpPattern, Glob.fnmatch_append (by decide)]
  constructor
  · rintro ⟨front, rest, hname, hfront, hrest⟩
    obtain ⟨mid, rfl⟩ := fnmatch_rest.mp hrest
    have hstem : safeLabel label' ++ (['_', '_'] ++ t.text) = front ++ (['_', '_'] ++ mid) := by
      simp only [← List.append_assoc] at hname ⊢
      exact List.append_cancel_right hname
    rcases List.append_eq_append_iff.mp hstem with ⟨more, rfl, htext⟩ | ⟨more, hlabel, hmid⟩
    · cases more with
      | nil => exact ⟨safeLabel label' ++ [], [], by rw [List.append_nil, List.append_nil], hfront⟩
      | cons c more =>
          -- the pattern's underscores would be in the time
          have htail := (List.cons.inj htext).2
          refine absurd ⟨more, mid, ?_⟩ t.not_infix_text
          rw [List.append_assoc]
          exact htail.symm
    · have hpart : ['_', '_'] <+: more ++ (['_', '_'] ++ t.text) := ⟨mid, hmid⟩
      have hwhole : more ++ ['_', '_'] <+: more ++ (['_', '_'] ++ t.text) := by
        rw [← List.append_assoc]
        exact List.prefix_append _ _
      have hlength : ['_', '_'].length ≤ (more ++ ['_', '_']).length := by
        rw [List.length_append]
        exact Nat.le_add_left _ _
      obtain ⟨back, hback⟩ := List.prefix_of_prefix_length_le hpart hwhole hlength
      exact ⟨front, back, by rw [hlabel, List.append_assoc, hback], hfront⟩
  · rintro ⟨front, back, hlabel, hfront⟩
    refine ⟨front, ['_', '_'] ++ ((back ++ t.text) ++ ".dump".toList), ?_, hfront,
      fnmatch_rest.mpr ⟨_, rfl⟩⟩
    rw [← List.append_assoc, hlabel]
    simp only [List.append_assoc]

/-! ## Directories -/

/-- Every file is a dump of one of the databases. -/
def DumpsOf (labels : List String) (dir : Finset String) : Prop :=
  ∀ name ∈ dir, ∃ label ∈ labels, ∃ t, name = dumpPath label t

open Classical in
/-- The dumps of a database after a moment. -/
noncomputable def later (dir : Finset String) (label : String) (t : Timestamp) : Finset String :=
  dir.filter fun name => ∃ t', name = dumpPath label t' ∧ t.instant < t'.instant

open Classical in
theorem mem_later {dir : Finset String} {label name : String} {t : Timestamp} :
    name ∈ later dir label t ↔
      name ∈ dir ∧ ∃ t', name = dumpPath label t' ∧ t.instant < t'.instant := by
  rw [later, Finset.mem_filter]

/-- What it is for backups to be per database. -/
structure PerDatabase (labels : List String) : Prop where
  /-- Dumps of different databases are different files. -/
  distinct : ∀ label ∈ labels, ∀ label' ∈ labels, label ≠ label' →
    ∀ dir dir' connection connection' t t' tools tools' path path',
      (backupOne dir connection label t tools).2 = .ok path →
      (backupOne dir' connection' label' t' tools').2 = .ok path' → path ≠ path'
  /-- What is deleted for a database is one of its dumps. -/
  own : ∀ dir, DumpsOf labels dir → ∀ label ∈ labels, ∀ keep ≥ 1, ∀ dir',
    enforceRetention dir label keep = .ok dir' →
      ∀ name ∈ dir, name ∉ dir' → ∃ t, name = dumpPath label t
  /-- What is among the most recent dumps of the database is kept. -/
  recent : ∀ dir, DumpsOf labels dir → ∀ label ∈ labels, ∀ keep ≥ 1, ∀ dir',
    enforceRetention dir label keep = .ok dir' →
      ∀ t, dumpPath label t ∈ dir → (later dir label t).card < keep → dumpPath label t ∈ dir'

/-- The files that the pattern of a label matches. -/
def matched (dir : Finset String) (label : String) : Finset String :=
  dir.filter fun name => fnmatch name.toList (dumpPattern label)

/-- What is kept: what is not matched, or has fewer than `keep` matched files
after it. -/
theorem enforceRetention_eq_ok_iff {dir dir' : Finset String} {label : String} {keep : Int}
    (hkeep : 1 ≤ keep) :
    enforceRetention dir label keep = .ok dir' ↔
      ¬ ['*', '*'] <:+: dumpPattern label ∧
        dir' = dir.filter fun name =>
          ¬ (name ∈ matched dir label ∧ keep ≤ ((matched dir label).filter (name < ·)).card) := by
  have hpattern : safeLabel label ++ "__*.dump".toList = dumpPattern label := rfl
  rw [enforceRetention, if_neg (by omega), hpattern, globNames]
  split
  case h_1 hglob =>
    split at hglob
    case isTrue hstars => exact iff_of_false nofun fun h => h.1 hstars
    case isFalse => contradiction
  case h_2 found hglob =>
    split at hglob
    case isTrue => contradiction
    case isFalse hstars =>
      have hfound : matched dir label = found := Option.some_inj.mp hglob
      have hstale : (if ((Newest.sorted found).length : Int) > keep then
            (Newest.sorted found).take ((Newest.sorted found).length - keep.toNat) else []) =
          (Newest.sorted found).take (found.card - keep.toNat) := by
        rw [Newest.length_sorted]
        split
        case isTrue => rfl
        case isFalse hfew =>
          rw [Nat.sub_eq_zero_of_le (by omega), List.take_zero]
      have hle : ∀ n : Nat, keep.toNat ≤ n ↔ keep ≤ n := fun n => by omega
      dsimp only
      rw [hstale, hfound]
      simp only [Newest.mem_take_sorted_iff, hle, hstars, not_false_eq_true, true_and,
        Except.ok.injEq, eq_comm]

/-! ## Runs -/

section

variable {labels : List String} {label : String} {dir : Finset String}

theorem DumpsOf.mono {dir' : Finset String} (h : DumpsOf labels dir) (hsub : dir' ⊆ dir) :
    DumpsOf labels dir' := fun name hname => h name (hsub hname)

/-- A dump is written or deleted; nothing else is touched. -/
theorem dumpsOf_backupOne (h : DumpsOf labels dir) (hlabel : label ∈ labels) (connection : String)
    (t : Timestamp) (tools : Tools) :
    DumpsOf labels (backupOne dir connection label t tools).1 := by
  have herase := h.mono (Finset.erase_subset (dumpPath label t) dir)
  have hinsert : DumpsOf labels (insert (dumpPath label t) dir) := by
    intro name hname
    rcases Finset.mem_insert.mp hname with rfl | hname
    · exact ⟨label, hlabel, t, rfl⟩
    · exact h name hname
  simp only [backupOne]
  split
  case isTrue => exact h
  case isFalse =>
    split
    case h_1 => exact herase
    case h_2 =>
      split
      case isTrue => exact herase
      case isFalse =>
        split
        case h_1 => exact herase
        case h_2 => exact hinsert

theorem dumpsOf_enforceRetention {dir' : Finset String} {keep : Int} (h : DumpsOf labels dir)
    (hretained : enforceRetention dir label keep = .ok dir') : DumpsOf labels dir' := by
  by_cases hkeep : 1 ≤ keep
  · obtain ⟨-, rfl⟩ := (enforceRetention_eq_ok_iff hkeep).mp hretained
    exact h.mono (Finset.filter_subset _ _)
  · rw [enforceRetention, if_pos (by omega)] at hretained
    exact Except.ok.inj hretained ▸ h

theorem dumpsOf_backupTarget {target : Target} (htarget : target.1 ∈ labels) {progress : Progress}
    (h : DumpsOf labels progress.dir) (t : Timestamp) (retention : Int) (tools : String → Tools) :
    DumpsOf labels (backupTarget t retention tools target progress).1.dir := by
  have hbackup := dumpsOf_backupOne h htarget target.2 t (tools target.1)
  unfold backupTarget
  generalize backupOne progress.dir target.2 target.1 t (tools target.1) = backup at hbackup
  dsimp only
  split
  case h_1 => exact hbackup
  case h_2 => exact hbackup
  case h_3 => exact hbackup
  case h_4 =>
    split
    case h_1 dir' hretained => exact dumpsOf_enforceRetention hbackup hretained
    case h_2 => exact hbackup

theorem dumpsOf_thenRest {rest : Progress → Progress × Option Raised}
    {round : Progress × Option Raised} (h : DumpsOf labels round.1.dir)
    (hrest : ∀ progress, DumpsOf labels progress.dir → DumpsOf labels (rest progress).1.dir) :
    DumpsOf labels (Progress.thenRest rest round).1.dir := by
  obtain ⟨progress, ending⟩ := round
  cases ending with
  | none => exact hrest progress h
  | some raised => exact h

/-- A directory of dumps is one in every run. -/
theorem dumpsOf_backupAll {targets : List Target} (htargets : ∀ target ∈ targets, target.1 ∈ labels)
    {progress : Progress} (h : DumpsOf labels progress.dir) (t : Timestamp) (retention : Int)
    (tools : String → Tools) :
    DumpsOf labels (backupAll t retention tools targets progress).1.dir := by
  induction targets generalizing progress with
  | nil => exact h
  | cons target targets ih =>
      have hrest := fun target htarget => htargets target (List.mem_cons_of_mem _ htarget)
      have hround := dumpsOf_backupTarget (htargets target List.mem_cons_self) h t retention tools
      exact dumpsOf_thenRest hround fun progress h => ih hrest h

end

/-! ## Databases apart -/

section

variable {labels : List String}

/-- The labels are told apart, by name and by pattern. -/
def Apart (labels : List String) : Prop :=
  ∀ label ∈ labels, ∀ label' ∈ labels, label ≠ label' →
    safeLabel label ≠ safeLabel label' ∧ ¬ Covers label label'

theorem path_of_backupOne {dir : Finset String} {connection label path : String} {t : Timestamp}
    {tools : Tools} (h : (backupOne dir connection label t tools).2 = .ok path) :
    path = dumpPath label t := by
  simp only [backupOne] at h
  split at h
  case isTrue => contradiction
  case isFalse =>
    split at h
    case h_1 => contradiction
    case h_2 =>
      split at h
      case isTrue => contradiction
      case isFalse =>
        split at h
        case h_1 => contradiction
        case h_2 => exact (Except.ok.inj h).symm

/-- A pattern matches dumps of its own label only. -/
theorem eq_of_mem_matched (hapart : Apart labels) {dir : Finset String} (hdir : DumpsOf labels dir)
    {label name : String} (hlabel : label ∈ labels) (hstars : ¬ ['*', '*'] <:+: dumpPattern label)
    (hname : name ∈ matched dir label) : ∃ t, name = dumpPath label t := by
  obtain ⟨hmem, hmatch⟩ := Finset.mem_filter.mp hname
  obtain ⟨label', hlabel', t, rfl⟩ := hdir name hmem
  by_contra hother
  have hne : label ≠ label' := by
    rintro rfl
    exact hother ⟨t, rfl⟩
  exact (hapart label hlabel label' hlabel' hne).2 ⟨hstars, (fnmatch_dumpPath_iff t).mp hmatch⟩

/-- Labels that are apart have their dumps for themselves. -/
theorem perDatabase_of_apart (hapart : Apart labels) : PerDatabase labels where
  distinct := by
    intro label hlabel label' hlabel' hne dir dir' connection connection' t t' tools tools' path path'
      hpath hpath' heq
    rw [path_of_backupOne hpath, path_of_backupOne hpath'] at heq
    exact (hapart label hlabel label' hlabel' hne).1 (safeLabel_eq_of_dumpPath heq)
  own := by
    intro dir hdir label hlabel keep hkeep dir' hretained name hname hdeleted
    obtain ⟨hstars, rfl⟩ := (enforceRetention_eq_ok_iff hkeep).mp hretained
    rw [Finset.mem_filter, not_and, not_not] at hdeleted
    exact eq_of_mem_matched hapart hdir hlabel hstars (hdeleted hname).1
  recent := by
    intro dir hdir label hlabel keep hkeep dir' hretained t ht hfew
    obtain ⟨hstars, rfl⟩ := (enforceRetention_eq_ok_iff hkeep).mp hretained
    refine Finset.mem_filter.mpr ⟨ht, fun ⟨_, hmany⟩ => ?_⟩
    -- what comes after the dump by name is later
    have hlater : (matched dir label).filter (dumpPath label t < ·) ⊆ later dir label t := by
      intro name hname
      obtain ⟨hmatched, hlt⟩ := Finset.mem_filter.mp hname
      obtain ⟨t', rfl⟩ := eq_of_mem_matched hapart hdir hlabel hstars hmatched
      exact mem_later.mpr
        ⟨(Finset.mem_filter.mp hmatched).1, t', rfl, (dumpPath_lt_iff label t t').mp hlt⟩
    have hcard := Finset.card_le_card hlater
    omega

/-- The first second of a day. -/
def firstMoment : Timestamp := ⟨⟨2024, 7, 4, by decide, by decide, by decide⟩, 0, by decide, by decide⟩

/-- The second second of the day. -/
def nextMoment : Timestamp := ⟨⟨2024, 7, 4, by decide, by decide, by decide⟩, 1, by decide, by decide⟩

/-- A label that covers another has the older of two dumps of the other deleted. -/
theorem apart_of_perDatabase (h : PerDatabase labels) : Apart labels := by
  intro label hlabel label' hlabel' hne
  have hsafe : safeLabel label ≠ safeLabel label' := by
    intro hsafe
    let tools : Tools := ⟨none, false, none⟩
    exact h.distinct label hlabel label' hlabel' hne ∅ ∅ "postgres://" "postgres://" firstMoment
      firstMoment tools tools _ _ rfl rfl (dumpPath_congr hsafe firstMoment)
  refine ⟨hsafe, fun ⟨hstars, hcovers⟩ => ?_⟩
  let dir : Finset String := {dumpPath label' firstMoment, dumpPath label' nextMoment}
  have hfirst : dumpPath label' firstMoment ∈ dir := Finset.mem_insert_self _ _
  have hnext : dumpPath label' nextMoment ∈ dir :=
    Finset.mem_insert_of_mem (Finset.mem_singleton_self _)
  have hdumps : DumpsOf labels dir := by
    intro name hname
    rcases Finset.mem_insert.mp hname with rfl | hname
    · exact ⟨label', hlabel', _, rfl⟩
    · exact ⟨label', hlabel', _, Finset.mem_singleton.mp hname⟩
  have hmatched : ∀ t, dumpPath label' t ∈ dir → dumpPath label' t ∈ matched dir label :=
    fun t ht => Finset.mem_filter.mpr ⟨ht, (fnmatch_dumpPath_iff t).mpr hcovers⟩
  have hlt : dumpPath label' firstMoment < dumpPath label' nextMoment :=
    (dumpPath_lt_iff _ _ _).mpr (by decide)
  have hlater : dumpPath label' nextMoment ∈
      (matched dir label).filter (dumpPath label' firstMoment < ·) :=
    Finset.mem_filter.mpr ⟨hmatched _ hnext, hlt⟩
  have hmany : (1 : Int) ≤ ((matched dir label).filter (dumpPath label' firstMoment < ·)).card := by
    have hpos := Finset.card_pos.mpr ⟨_, hlater⟩
    omega
  obtain ⟨t, ht⟩ := h.own dir hdumps label hlabel 1 (le_refl 1) _
    ((enforceRetention_eq_ok_iff (le_refl 1)).mpr ⟨hstars, rfl⟩) _ hfirst
    fun hkept => (Finset.mem_filter.mp hkept).2 ⟨hmatched _ hfirst, hmany⟩
  exact hsafe (safeLabel_eq_of_dumpPath ht).symm

/-- **Backups are per database** exactly where the labels are told apart. -/
theorem perDatabase_iff (labels : List String) : PerDatabase labels ↔ Apart labels :=
  ⟨apart_of_perDatabase, perDatabase_of_apart⟩

end

/-- One database is named as another, with more after two underscores. -/
theorem not_perDatabase_underscores :
    letI := Python.ascii
    ¬ ∀ (config : Dict Json) (includeReplicas : Bool) (targets : List Target),
      targetUrls config includeReplicas = .ok targets → (targets.map Prod.fst).Nodup →
        PerDatabase (targets.map Prod.fst) := by
  let _ := Python.ascii
  intro h
  let bindings : Dict Json :=
    [("sales", .str "postgresql://db/sales"), ("sales__eu", .str "postgresql://db/eu")]
  have hconfig : sortedItems [("acme", Json.obj bindings)] = [("acme", .obj bindings)] :=
    List.mergeSort_singleton _
  have hbindings : sortedItems bindings = bindings :=
    List.mergeSort_of_pairwise (by decide)
  have htargets : targetUrls [("acme", .obj bindings)] false =
      .ok [("acme/sales", "postgresql://db/sales"), ("acme/sales__eu", "postgresql://db/eu")] := by
    rw [targetUrls, hconfig]
    simp only [List.mapM_cons, List.mapM_nil, hbindings]
    rfl
  have hapart := apart_of_perDatabase (h _ _ _ htargets (by decide))
  refine (hapart "acme/sales" (by decide) "acme/sales__eu" (by decide) (by decide)).2 ⟨by decide, ?_⟩
  exact ⟨"acme__sales".toList, "eu__".toList, by decide,
    (Glob.fnmatch_literal (by decide)).mpr (by decide)⟩

end DbGateway.Backups
