import DbGateway.Tenant.Credentials

/-!
# DbGateway.Tenant.Services

`dependencies/tenant_service_provider.py`: one container of services for each
organisation and database, set up at the first request and kept.

Credentials are rotated underneath it.  A container is set up from the
connection string of the moment and never again, so a request is served the
current one exactly as long as nothing writes to the file of a binding whose
container is kept (`resolve_current`).  The container is always the caller's
own.
-/

namespace DbGateway.Tenant

open Json (PythonFloat)

/-! ## The provider -/

/-- `effective_target` -/
def TenantDatabaseConfig.effectiveTarget (self : TenantDatabaseConfig) : String :=
  match self.credentialMode with
  | .static =>
      match self.replicaConnectionString with
      | some replica => if self.useReadReplica && replica ≠ "" then "replica" else "primary"
      | none => "primary"
  | .rotated => "rotated"

/-- A container: what `setup_container` was given. -/
structure Container where
  connectionString : String
  dataSchema : String
  metadataSchema : String
  tenantOrgId : String
  tenantDatabaseId : String
  databaseTarget : String
  poolSize : Option Int
  maxOverflow : Option Int
  poolTimeout : Option Rat
  poolRecycle : Option Int

/-- The container of a binding. -/
def Container.ofBinding (binding : TenantDatabaseConfig) (connectionString : String) :
    Container where
  connectionString
  dataSchema := binding.dataSchema
  metadataSchema := binding.metadataSchema
  tenantOrgId := binding.orgId
  tenantDatabaseId := binding.databaseId
  databaseTarget := binding.effectiveTarget
  poolSize := binding.poolSize
  maxOverflow := binding.maxOverflow
  poolTimeout := binding.poolTimeout
  poolRecycle := binding.poolRecycle

/-- What `resolve` can raise. -/
inductive ResolveError where
  /-- `TenantDatabaseResolutionError` -/
  | resolution (message : String)
  | credentials (error : LoadError)
  /-- `setup_container` -/
  | setup (message : String)

/-- `_containers`, by organisation and database. -/
abbrev Containers := String × String → Option Container

/-- The process: its `CREDS_DIR`, its bindings, and what `setup_container`
raises for what it is given. -/
structure Process where
  credsDir : String
  bindings : List TenantDatabaseConfig
  setupFails : Container → Option String

section

variable [Python] [PythonFloat]

/-- `TenantServiceProvider.resolve` -/
def Process.resolve (self : Process) (files : Directory) (containers : Containers)
    (principal : Option Principal) (databaseId : Option String) :
    Except ResolveError (TenantDatabaseConfig × Container) × Containers :=
  match (TenantDatabaseResolver.ofBindings self.bindings).resolve principal databaseId with
  | .error message => (.error (.resolution message), containers)
  | .ok binding =>
      let cacheKey := (binding.orgId, binding.databaseId)
      match containers cacheKey with
      | some container => (.ok (binding, container), containers)
      | none =>
          match binding.effectiveConnectionString self.credsDir files with
          | .error e => (.error (.credentials e), containers)
          | .ok connectionString =>
              let container := Container.ofBinding binding connectionString
              match self.setupFails container with
              | some message => (.error (.setup message), containers)
              | none =>
                  (.ok (binding, container), Function.update containers cacheKey (some container))

/-! ## Runs -/

/-- The credentials on disk and the containers in memory. -/
structure World where
  files : Directory
  containers : Containers

/-- Before anything is rotated or resolved. -/
def World.initial : World := ⟨fun _ => none, fun _ => none⟩

/-- A rotation, or a request. -/
inductive Event where
  | rotate (call : Rotation)
  | resolve (principal : Option Principal) (databaseId : Option String)

def Process.step (self : Process) (world : World) : Event → World
  | .rotate call => { world with files := (rotateTenant world.files call).2 }
  | .resolve principal databaseId =>
      { world with
        containers := (self.resolve world.files world.containers principal databaseId).2 }

/-- The world after some events. -/
def Process.after (self : Process) (run : List Event) : World :=
  Runs.after self.step World.initial run

/-- The call writes to no file of a binding whose container is kept. -/
def Process.Undisturbed (self : Process) (world : World) (call : Rotation) : Prop :=
  call.writes = true → ∀ binding ∈ self.bindings, binding.credentialMode = .rotated →
    world.containers (binding.orgId, binding.databaseId) ≠ none →
      call.file ≠ credsFile binding.orgId binding.roleName

/-- No rotation of the run disturbs a container kept at its time. -/
def Process.Steady (self : Process) (run : List Event) : Prop :=
  Runs.Throughout (fun before event => ∀ call, event = .rotate call →
    self.Undisturbed (self.after before) call) run

/-! ## What is kept -/

/-- A connection string depends on the binding's own file only. -/
theorem effectiveConnectionString_congr {binding : TenantDatabaseConfig} (credsDir : String)
    {files files' : Directory}
    (h : binding.credentialMode = .rotated →
      files (credsFile binding.orgId binding.roleName) =
        files' (credsFile binding.orgId binding.roleName)) :
    binding.effectiveConnectionString credsDir files =
      binding.effectiveConnectionString credsDir files' := by
  cases hmode : binding.credentialMode with
  | static => rw [TenantDatabaseConfig.effectiveConnectionString, hmode,
      TenantDatabaseConfig.effectiveConnectionString, hmode]
  | rotated =>
      have hload : RotatedCredentialLoader.loadFile files binding.orgId binding.roleName =
          RotatedCredentialLoader.loadFile files' binding.orgId binding.roleName := by
        rw [RotatedCredentialLoader.loadFile, h hmode, ← RotatedCredentialLoader.loadFile]
      simp only [TenantDatabaseConfig.effectiveConnectionString,
        RotatedCredentialLoader.getCredentials, hload]

/-- The one binding of an organisation's database. -/
def Process.Binds (self : Process) (key : String × String) (binding : TenantDatabaseConfig) : Prop :=
  (TenantDatabaseResolver.own key.1 self.bindings).filter (fun b => b.databaseId = key.2) = [binding]

omit [Python] [PythonFloat] in
theorem Process.Binds.unique {self : Process} {key : String × String}
    {binding binding' : TenantDatabaseConfig} (h : self.Binds key binding)
    (h' : self.Binds key binding') : binding = binding' :=
  List.head_eq_of_cons_eq (h.symm.trans h')

omit [Python] [PythonFloat] in
theorem Process.Binds.mem {self : Process} {key : String × String} {binding : TenantDatabaseConfig}
    (h : self.Binds key binding) :
    binding ∈ self.bindings ∧ (binding.orgId, binding.databaseId) = key := by
  have hmem : binding ∈ (TenantDatabaseResolver.own key.1 self.bindings).filter
      (fun b => b.databaseId = key.2) := by
    rw [h]
    exact List.mem_singleton_self binding
  obtain ⟨hown, hid⟩ := List.mem_filter.mp hmem
  obtain ⟨hbinding, horg⟩ := List.mem_filter.mp hown
  exact ⟨hbinding, Prod.ext (of_decide_eq_true horg) (of_decide_eq_true hid)⟩

/-- Every container kept is one its binding was once given, with something
said about the connection string it was given. -/
def Process.Keeps (self : Process) (containers : Containers)
    (holds : TenantDatabaseConfig → String → Prop) : Prop :=
  ∀ key container, containers key = some container →
    ∃ binding connectionString, self.Binds key binding ∧
      container = Container.ofBinding binding connectionString ∧ holds binding connectionString

/-- A container kept is served again. -/
theorem Process.resolve_kept {self : Process} {files : Directory} {containers : Containers}
    {principal : Option Principal} {databaseId : Option String} {binding : TenantDatabaseConfig}
    {container : Container}
    (hresolve : (TenantDatabaseResolver.ofBindings self.bindings).resolve principal databaseId =
      .ok binding)
    (hkept : containers (binding.orgId, binding.databaseId) = some container) :
    self.resolve files containers principal databaseId = (.ok (binding, container), containers) := by
  simp only [resolve, hresolve, hkept]

/-- The first container of a binding is set up from its connection string. -/
theorem Process.resolve_first {self : Process} {files : Directory} {containers : Containers}
    {principal : Option Principal} {databaseId : Option String} {binding : TenantDatabaseConfig}
    {connectionString : String}
    (hresolve : (TenantDatabaseResolver.ofBindings self.bindings).resolve principal databaseId =
      .ok binding)
    (hkept : containers (binding.orgId, binding.databaseId) = none)
    (heffective : binding.effectiveConnectionString self.credsDir files = .ok connectionString)
    (hsetup : self.setupFails (Container.ofBinding binding connectionString) = none) :
    self.resolve files containers principal databaseId =
      (.ok (binding, Container.ofBinding binding connectionString),
        Function.update containers (binding.orgId, binding.databaseId)
          (some (Container.ofBinding binding connectionString))) := by
  simp only [resolve, hresolve, hkept, heffective, hsetup]

/-- What a request can do: fail, be served what is kept, or set a container up. -/
theorem Process.resolve_cases (self : Process) (files : Directory) (containers : Containers)
    (principal : Option Principal) (databaseId : Option String) :
    (∃ e, self.resolve files containers principal databaseId = (.error e, containers)) ∨
      ∃ caller requested binding container containers',
        principal = some caller ∧ databaseId = some requested ∧
        self.Binds (caller.orgId, strip requested) binding ∧
        self.resolve files containers principal databaseId =
          (.ok (binding, container), containers') ∧
        (containers' = containers ∧ containers (binding.orgId, binding.databaseId) = some container ∨
          ∃ connectionString, binding.effectiveConnectionString self.credsDir files =
              .ok connectionString ∧ container = Container.ofBinding binding connectionString ∧
            containers' = Function.update containers (binding.orgId, binding.databaseId)
              (some container)) := by
  cases hresolve : (TenantDatabaseResolver.ofBindings self.bindings).resolve principal databaseId with
  | error message => exact .inl ⟨_, by simp only [resolve, hresolve]; rfl⟩
  | ok binding =>
      cases principal with
      | none => simp [TenantDatabaseResolver.resolve] at hresolve
      | some caller =>
          obtain ⟨-, hvalid, hbinds⟩ := TenantDatabaseResolver.resolve_spec hresolve
          cases databaseId with
          | none => exact absurd hvalid (by decide)
          | some requested =>
              cases hkept : containers (binding.orgId, binding.databaseId) with
              | some container =>
                  exact .inr ⟨caller, requested, binding, container, containers, rfl, rfl, hbinds,
                    resolve_kept hresolve hkept, .inl ⟨rfl, hkept⟩⟩
              | none =>
                  cases heffective : binding.effectiveConnectionString self.credsDir files with
                  | error e => exact .inl ⟨_, by simp only [resolve, hresolve, hkept, heffective]; rfl⟩
                  | ok connectionString =>
                      cases hsetup : self.setupFails
                          (Container.ofBinding binding connectionString) with
                      | some message =>
                          refine .inl ⟨.setup message, ?_⟩
                          simp only [resolve, hresolve, hkept, heffective, hsetup]
                      | none =>
                          exact .inr ⟨caller, requested, binding, _, _, rfl, rfl, hbinds,
                            resolve_first hresolve hkept heffective hsetup,
                            .inr ⟨connectionString, heffective, rfl, rfl⟩⟩

theorem Process.Keeps.resolve {self : Process} {files : Directory} {containers : Containers}
    {holds : TenantDatabaseConfig → String → Prop} (hkeeps : self.Keeps containers holds)
    (hnew : ∀ binding connectionString,
      binding.effectiveConnectionString self.credsDir files = .ok connectionString →
        holds binding connectionString)
    (principal : Option Principal) (databaseId : Option String) :
    self.Keeps (self.resolve files containers principal databaseId).2 holds := by
  cases self.resolve_cases files containers principal databaseId with
  | inl herror =>
      obtain ⟨e, herror⟩ := herror
      rwa [herror]
  | inr hok =>
      obtain ⟨caller, requested, binding, container, containers', -, -, hbinds, hresolve, hhow⟩ := hok
      rw [hresolve]
      cases hhow with
      | inl hkept => rwa [hkept.1]
      | inr hfirst =>
          obtain ⟨connectionString, heffective, hof, hupdate⟩ := hfirst
          rw [hupdate]
          intro key container' (hcontainer : Function.update containers _ _ key = _)
          by_cases hkey : key = (binding.orgId, binding.databaseId)
          · subst hkey
            rw [Function.update_self] at hcontainer
            have hsame := Option.some_inj.mp hcontainer
            rw [hbinds.mem.2]
            exact ⟨binding, connectionString, hbinds, hsame ▸ hof,
              hnew binding connectionString heffective⟩
          · rw [Function.update_of_ne hkey] at hcontainer
            exact hkeeps key container' hcontainer

/-- In every run, a container kept under a key is one of its binding. -/
theorem Process.keeps_after (self : Process) (run : List Event) :
    self.Keeps (self.after run).containers fun _ _ => True := by
  refine Runs.invariant
    (I := fun _ (world : World) => self.Keeps world.containers fun _ _ => True) ?_ ?_ run
  · intro key container h
    contradiction
  · intro run event hkeeps
    cases event with
    | rotate call => exact hkeeps
    | resolve principal databaseId => exact hkeeps.resolve (fun _ _ _ => trivial) _ _

/-- In a steady run, each container kept has the connection string of the
moment. -/
theorem Process.keeps_current (self : Process) {run : List Event} (hsteady : self.Steady run) :
    self.Keeps (self.after run).containers fun binding connectionString =>
      binding.effectiveConnectionString self.credsDir (self.after run).files =
        .ok connectionString := by
  refine hsteady.invariant (I := fun _ (world : World) => self.Keeps world.containers
    fun binding connectionString =>
      binding.effectiveConnectionString self.credsDir world.files = .ok connectionString) ?_ ?_
  · intro key container h
    contradiction
  · intro run event hevent hkeeps
    cases event with
    | rotate call =>
        intro key container hcontainer
        obtain ⟨binding, connectionString, hbinds, hof, heffective⟩ := hkeeps key container hcontainer
        refine ⟨binding, connectionString, hbinds, hof, ?_⟩
        have hkept : (self.after run).containers (binding.orgId, binding.databaseId) ≠ none := by
          rw [hbinds.mem.2]
          exact ne_of_eq_of_ne hcontainer (Option.some_ne_none container)
        have hsame : binding.effectiveConnectionString self.credsDir
            (rotateTenant (self.after run).files call).2 =
              binding.effectiveConnectionString self.credsDir (self.after run).files := by
          refine effectiveConnectionString_congr self.credsDir fun hmode => ?_
          exact rotateTenant_of_ne _ call fun hwrites =>
            hevent call rfl hwrites binding hbinds.mem.1 hmode hkept
        exact hsame.trans heffective
    | resolve principal databaseId => exact hkeeps.resolve (fun _ _ h => h) _ _

/-- **Service-cache coherence**: a request is served the container of its
caller's own organisation and database; and in a steady run that container has
the connection string its binding has at that moment. -/
theorem Process.resolve_current (self : Process) (run : List Event)
    (principal : Option Principal) (databaseId : Option String) {binding : TenantDatabaseConfig}
    {container : Container}
    (h : (self.resolve (self.after run).files (self.after run).containers principal databaseId).1 =
      .ok (binding, container)) :
    (∃ caller requested, principal = some caller ∧ databaseId = some requested ∧
      binding ∈ self.bindings ∧ binding.orgId = caller.orgId ∧
        binding.databaseId = strip requested ∧
          container = Container.ofBinding binding container.connectionString) ∧
      (self.Steady run → binding.effectiveConnectionString self.credsDir (self.after run).files =
        .ok container.connectionString) := by
  cases self.resolve_cases (self.after run).files (self.after run).containers principal
      databaseId with
  | inl herror =>
      obtain ⟨e, herror⟩ := herror
      rw [herror] at h
      contradiction
  | inr hok =>
      obtain ⟨caller, requested, found, served, containers', hcaller, hrequested, hbinds, hresolve,
        hhow⟩ := hok
      rw [hresolve] at h
      obtain ⟨rfl, rfl⟩ := Prod.mk.inj (Except.ok.inj h)
      obtain ⟨hmem, hkey⟩ := hbinds.mem
      obtain ⟨horg, hid⟩ := Prod.mk.inj hkey
      cases hhow with
      | inl hkept =>
          rw [hkey] at hkept
          constructor
          · obtain ⟨binding', connectionString, hbinds', hof, -⟩ := self.keeps_after run _ _ hkept.2
            obtain rfl := hbinds.unique hbinds'
            refine ⟨caller, requested, hcaller, hrequested, hmem, horg, hid, ?_⟩
            rw [hof]
            rfl
          · intro hsteady
            obtain ⟨binding', connectionString, hbinds', hof, heffective⟩ :=
              self.keeps_current hsteady _ _ hkept.2
            obtain rfl := hbinds.unique hbinds'
            rw [hof]
            exact heffective
      | inr hfirst =>
          obtain ⟨connectionString, heffective, hof, -⟩ := hfirst
          subst hof
          exact ⟨⟨caller, requested, hcaller, hrequested, hmem, horg, hid, rfl⟩,
            fun _ => heffective⟩

/-- A container once served is served again, whatever is rotated in between. -/
theorem Process.resolve_again {self : Process} {run : List Event} {principal : Option Principal}
    {databaseId : Option String} {binding : TenantDatabaseConfig} {container : Container}
    (hresolve : (TenantDatabaseResolver.ofBindings self.bindings).resolve principal databaseId =
      .ok binding)
    (hserved : (self.resolve (self.after run).files (self.after run).containers principal
      databaseId).1 = .ok (binding, container)) (call : Rotation) :
    (self.after (run ++ [.resolve principal databaseId] ++ [.rotate call])).files =
        (rotateTenant (self.after run).files call).2 ∧
      (self.after (run ++ [.resolve principal databaseId] ++ [.rotate call])).containers
        (binding.orgId, binding.databaseId) = some container := by
  rw [after, Runs.after_concat, Runs.after_concat, ← after]
  refine ⟨rfl, ?_⟩
  show (self.resolve (self.after run).files (self.after run).containers principal databaseId).2 _ = _
  cases self.resolve_cases (self.after run).files (self.after run).containers principal
      databaseId with
  | inl herror =>
      obtain ⟨e, herror⟩ := herror
      rw [herror] at hserved
      contradiction
  | inr hok =>
      obtain ⟨-, -, found, served, containers', -, -, -, hfound, hhow⟩ := hok
      rw [hfound] at hserved ⊢
      obtain ⟨rfl, rfl⟩ := Prod.mk.inj (Except.ok.inj hserved)
      cases hhow with
      | inl hkept =>
          rw [hkept.1]
          exact hkept.2
      | inr hfirst =>
          obtain ⟨-, -, -, hupdate⟩ := hfirst
          rw [hupdate]
          exact Function.update_self ..

end

/-! ## One database, rotated twice -/

/-- A process with one rotated binding. -/
def solo : Process := ⟨"/creds", [analytics "org-a" "default" "db_a"], fun _ => none⟩

/-- The next rotation. -/
def smoothAgain : Outcome :=
  { smooth with
    random := some ⟨"9kK3c1pQx0Yt7uVwLmN4aBcDeFgHiJkLmNoPqRsTuVw=".toList,
      List.all_eq_true.mp (by decide)⟩ }

/-- What a rotation of the one binding writes is what it is served next. -/
theorem effective_analytics [Python] [PythonFloat] (files : Directory) (outcome : Outcome)
    {newPass : List Char} (hwritten : outcome.written = true)
    (hpass : (Rotation.ofBinding (analytics "org-a" "default" "db_a") outcome).newPass =
      some newPass) :
    (analytics "org-a" "default" "db_a").effectiveConnectionString "/creds"
        (rotateTenant files (.ofBinding (analytics "org-a" "default" "db_a") outcome)).2 =
      .ok ((Rotation.ofBinding (analytics "org-a" "default" "db_a") outcome).connectionString
        newPass) := by
  have hplain : Plain "org-a" "analytics" "db_a" "postgres" := .of_all (by decide) (by decide)
  have hcall : (Rotation.ofBinding (analytics "org-a" "default" "db_a") outcome).Plain := hplain
  have hmode : (analytics "org-a" "default" "db_a").credentialMode = .rotated := rfl
  have hfile := rotateTenant_file files hpass hwritten
  exact effectiveConnectionString_of_file hmode "/creds" hcall hpass hfile

/-- The request after the first rotation. -/
theorem solo_first [Python] [PythonFloat] (newPass : List Char)
    (hpass : (Rotation.ofBinding (analytics "org-a" "default" "db_a") smooth).newPass =
      some newPass) :
    let container := Container.ofBinding (analytics "org-a" "default" "db_a")
      ((Rotation.ofBinding (analytics "org-a" "default" "db_a") smooth).connectionString newPass)
    let world := solo.after [.rotate (.ofBinding (analytics "org-a" "default" "db_a") smooth)]
    solo.resolve world.files world.containers (some TenantDatabaseResolver.orgAdmin)
        (some "default") =
      (.ok (analytics "org-a" "default" "db_a", container),
        Function.update world.containers ("org-a", "default") (some container)) :=
  Process.resolve_first rfl rfl (effective_analytics _ smooth rfl hpass) rfl

/-- Two rotations with a request between them: of the one binding, and of a database of
another organisation. -/
def soloRun : List Event :=
  [.rotate (.ofBinding (analytics "org-a" "default" "db_a") smooth),
    .resolve (some TenantDatabaseResolver.orgAdmin) (some "default"),
    .rotate (.ofBinding (analytics "org-b" "default" "db_b") smoothAgain)]

/-- Nothing was kept when the first rotation came, and the second writes another file. -/
theorem solo_steady [Python] [PythonFloat] : solo.Steady soloRun := by
  intro before event rest hrun call hcall hwrites binding hmem _ hkept
  obtain rfl := List.mem_singleton.mp hmem
  subst hcall
  rcases before with _ | ⟨first, _ | ⟨second, _ | ⟨third, before⟩⟩⟩
  · exact absurd rfl hkept
  · cases hrun
  · obtain rfl : call = .ofBinding (analytics "org-b" "default" "db_b") smoothAgain := by
      cases hrun
      rfl
    decide
  · simp [soloRun] at hrun

/-- The request after both is served the container of the request before. -/
theorem solo_kept [Python] [PythonFloat] :
    ∃ container, (solo.after soloRun).containers ("org-a", "default") = some container ∧
      (solo.resolve (solo.after soloRun).files (solo.after soloRun).containers
        (some TenantDatabaseResolver.orgAdmin) (some "default")).1 =
          .ok (analytics "org-a" "default" "db_a", container) := by
  obtain ⟨newPass, hpass⟩ : ∃ newPass, (Rotation.ofBinding (analytics "org-a" "default" "db_a")
      smooth).newPass = some newPass := ⟨_, rfl⟩
  have hserved := congrArg Prod.fst (solo_first newPass hpass)
  have hkept := (Process.resolve_again rfl hserved
    (.ofBinding (analytics "org-b" "default" "db_b") smoothAgain)).2
  have hkey : ((analytics "org-a" "default" "db_a").orgId,
      (analytics "org-a" "default" "db_a").databaseId) = ("org-a", "default") := rfl
  refine ⟨_, ?_, congrArg Prod.fst (Process.resolve_kept rfl hkept)⟩
  rw [hkey] at hkept
  exact hkept

/-- It has the password of the first rotation, which is the binding's still. -/
theorem resolve_current_kept :
    letI := Json.whole
    letI := Json.wholeFloat
    let binding := analytics "org-a" "default" "db_a"
    let world := solo.after soloRun
    ∃ container, world.containers ("org-a", "default") = some container ∧
      (solo.resolve world.files world.containers
        (some TenantDatabaseResolver.orgAdmin) (some "default")).1 = .ok (binding, container) ∧
      binding.effectiveConnectionString "/creds" world.files = .ok container.connectionString := by
  obtain ⟨container, hkept, hresolve⟩ := @solo_kept Json.whole Json.wholeFloat
  exact ⟨container, hkept, hresolve, (@Process.resolve_current Json.whole Json.wholeFloat solo
    soloRun _ _ _ _ hresolve).2 (@solo_steady Json.whole Json.wholeFloat)⟩

/-- After a request and a second rotation, the container kept has the first
password still. -/
theorem solo_stale [Python] [PythonFloat] :
    let binding := analytics "org-a" "default" "db_a"
    let world := solo.after [.rotate (.ofBinding binding smooth),
      .resolve (some TenantDatabaseResolver.orgAdmin) (some "default"),
      .rotate (.ofBinding binding smoothAgain)]
    ∃ container, (solo.resolve world.files world.containers
        (some TenantDatabaseResolver.orgAdmin) (some "default")).1 = .ok (binding, container) ∧
      binding.effectiveConnectionString "/creds" world.files ≠ .ok container.connectionString := by
  intro binding world
  obtain ⟨newPass, hpass⟩ : ∃ newPass, (Rotation.ofBinding binding smooth).newPass =
      some newPass := ⟨_, rfl⟩
  obtain ⟨newPass', hpass'⟩ : ∃ newPass, (Rotation.ofBinding binding smoothAgain).newPass =
      some newPass := ⟨_, rfl⟩
  have hserved := congrArg Prod.fst (solo_first newPass hpass)
  obtain ⟨hfiles, hkept⟩ := Process.resolve_again rfl hserved (.ofBinding binding smoothAgain)
  refine ⟨_, congrArg Prod.fst (Process.resolve_kept rfl hkept), ?_⟩
  have hsecond := effective_analytics (solo.after [.rotate (.ofBinding binding smooth)]).files
    smoothAgain rfl hpass'
  rw [← hfiles] at hsecond
  intro hsame
  have hstring := Except.ok.inj (hsecond.symm.trans hsame)
  have hpasses : newPass' = newPass := Rotation.newPass_eq hstring
  rw [← hpasses, ← hpass'] at hpass
  have hhead := congrArg (fun pass => pass.bind List.head?) hpass
  exact absurd hhead (by decide)

/-- The request after the second is served the first password still. -/
theorem not_current_rotated :
    letI := Json.whole
    letI := Json.wholeFloat
    let binding := analytics "org-a" "default" "db_a"
    let world := solo.after [.rotate (.ofBinding binding smooth),
      .resolve (some TenantDatabaseResolver.orgAdmin) (some "default"),
      .rotate (.ofBinding binding smoothAgain)]
    ∃ container, (solo.resolve world.files world.containers
        (some TenantDatabaseResolver.orgAdmin) (some "default")).1 = .ok (binding, container) ∧
      binding.effectiveConnectionString "/creds" world.files ≠ .ok container.connectionString :=
  @solo_stale Json.whole Json.wholeFloat

end DbGateway.Tenant
