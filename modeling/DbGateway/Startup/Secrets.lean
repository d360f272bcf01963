import DbGateway.Fallible
import DbGateway.Python

/-!
# DbGateway.Startup.Secrets

`shared_secrets`: what a process reads of its environment when it starts.

A secret is a variable, or the text of a file that a variable names.  The
environment and the files do not change while the process starts.  Warnings are
left out.
-/

namespace DbGateway.Startup

open Fallible (bind_eq_ok_iff)

/-- What comes of reading a file. -/
inductive FileText where
  | missing
  /-- an `OSError` -/
  | failed
  /-- a `UnicodeDecodeError` -/
  | undecodable
  | text (content : String)

/-- What a process finds when it starts. -/
structure Host where
  getenv : String → Option String
  open_ : String → FileText

/-- What keeps a process from starting. -/
inductive StartupError where
  /-- `MissingSecretError` -/
  | missingSecret (message : String)
  | runtimeError (message : String)
  | valueError (message : String)
  | unicodeDecodeError
  | attributeError
  | overflowError
  /-- What a library raises. -/
  | raised (name : String)
deriving DecidableEq

namespace Host

variable [Python] (self : Host)

/-- `os.getenv(name, default)` -/
def getenvOr (name default : String) : String := (self.getenv name).getD default

/-- `os.getenv(name, "").strip().lower()` -/
def setting (name : String) : String := lower (strip (self.getenvOr name ""))

/-- `is_environment_production`.  A deployment is one unless it says otherwise. -/
def isEnvironmentProduction : Bool :=
  ["production", "prod"].contains (lower (self.getenvOr "ENVIRONMENT" "production"))

/-- `in {"true", "1", "yes"}` -/
def isTrue (value : String) : Bool := ["true", "1", "yes"].contains value

/-- `is_ci` -/
def isCi : Bool :=
  ["GITHUB_ACTIONS", "CI", "CONTINUOUS_INTEGRATION", "BUILD_NUMBER"].any fun name =>
    isTrue (self.setting name)

/-- `".." in path` -/
def hasTraversal (path : String) : Bool := decide (['.', '.'] <:+: path.toList)

/-- `_source_file` -/
def sourceFile (name : String) : Option String :=
  let path := strip (self.getenvOr (name ++ "_FILE") "")
  if path = "" || hasTraversal path then none else some path

/-- `_read_file` -/
def readFile (path name : String) : Except StartupError String :=
  match self.open_ path with
  | .missing => .ok ""
  | .failed => .error (.runtimeError
      ("Unable to read secret file for '" ++ name ++ "' at " ++ path ++ "."))
  | .undecodable => .error .unicodeDecodeError
  | .text content => .ok content

/-- `read_secret(name, required=False)` -/
def readSecret (name : String) : Except StartupError String :=
  match self.getenv name with
  | some value => if strip value ≠ "" then .ok (strip value) else fromFile
  | none => fromFile
where
  /-- The text of the file, or the default. -/
  fromFile : Except StartupError String :=
    match self.sourceFile name with
    | none => .ok ""
    | some path => (self.readFile path name).map strip

/-- `read_secret(name, required=True, error_message=message)` -/
def requireSecret (name message : String) : Except StartupError String :=
  (self.readSecret name).bind fun value =>
    if value = "" then .error (.missingSecret message) else .ok value

omit [Python] in
theorem requireSecret_ok {self : Host} {name message value : String}
    (h : self.requireSecret name message = .ok value) :
    self.readSecret name = .ok value ∧ value ≠ "" := by
  obtain ⟨found, hfound, h⟩ := bind_eq_ok_iff.mp h
  split at h
  · exact nomatch h
  · next hvalue =>
    obtain rfl := Except.ok.inj h
    exact ⟨hfound, hvalue⟩

/-- A production deployment outside of CI, for which the process refuses to start
rather than to serve without its controls. -/
def Guarded : Prop := self.isEnvironmentProduction = true ∧ self.isCi = false

theorem guarded_iff : self.Guarded ↔ (self.isEnvironmentProduction && !self.isCi) = true := by
  rw [Guarded, Bool.and_eq_true, Bool.not_eq_true']

end Host

end DbGateway.Startup
