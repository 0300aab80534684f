import ScriptHost.CommandLine.Answer
import ScriptHost.Proofs.Lifecycle
import ScriptHost.Proofs.Rows

/-!
# Runs from the command line

A run from the command line is one evaluation in a session of its own.

* `RunOptions.permissions`, `RunOptions.limits`, `RunOptions.session`: the session that it takes place
  in;
* `RunOptions.Loads`, `RunOptions.Runnable`: whether a run has what it needs;
* `RunOptions.outcome`, `RunOptions.callsMade`: how a run ends, and the calls that it makes;
* `Answer.Reports`: whether an answer is the report on an evaluation; the report tells all of it;
* `RunOptions.Evaluates`, `RunOptions.Faithful`, `RunOptions.faithful_run`: how a run stands to its
  session.
-/

namespace ScriptHost

/-! ### Backends and tables -/

theorem Backend.calls_addFixtures {b b' : Backend} {fields : List (String × Json)}
    (added : b.addFixtures fields = .ok b') : b'.calls = b.calls := by
  induction fields generalizing b with
  | nil =>
    cases added
    rfl
  | cons field rest ih =>
    unfold addFixtures at added
    split at added
    · have kept := ih added
      exact kept
    · cases added

/-- A backend with responses from a document has got no calls. -/
theorem Backend.calls_ofFixtures {j : Json} {b : Backend} (made : ofFixtures j = .ok b) :
    b.calls = #[] := by
  cases j with
  | obj fields => exact calls_addFixtures made
  | _ => cases made

theorem Registry.methodCount_installed_le (rows : Registry) (p : Permissions) :
    (rows.installed p).methodCount ≤ rows.methodCount := by
  induction rows with
  | nil => exact Nat.le_refl _
  | cons ns rest ih =>
    cases granted : p.isGranted ns.permission with
    | true =>
      rw [installed_cons_of_granted granted]
      exact Nat.add_le_add_left ih _
    | false =>
      rw [installed_cons_of_denied granted]
      exact Nat.le_trans ih (Nat.le_add_left _ _)

/-- A session with the built-in table can start under all limits that a configuration may set. -/
theorem Sandbox.startable_of_limits {s : Sandbox} (table : s.registry = .builtin)
    (limits : s.limits.fault? = none) : s.Startable where
  valid := by
    rw [table]
    decide +kernel
  fits := by
    have rows : s.granted.methodCount ≤ Registry.builtin.methodCount :=
      table ▸ s.registry.methodCount_installed_le s.permissions
    have count : Registry.builtin.methodCount = 30 := by decide +kernel
    have memory : Limits.minMemoryBytes ≤ s.limits.memoryBytes := by
      unfold Limits.fault? at limits
      split at limits
      · cases limits
      · next enough => exact Nat.le_of_not_lt enough
    have room : functionBytes * s.granted.methodCount + Host.baseBytes ≤ s.limits.memoryBytes := by
      simp only [functionBytes, Host.baseBytes, Limits.minMemoryBytes] at memory ⊢
      omega
    exact decide_eq_false (Nat.not_lt.2 room)

theorem openSession_of_init {c : Config} {s t : Sandbox} (made : Sandbox.ofConfig c = .ok s)
    (begun : s.init = (.ok (), t)) : openSession c = .ok t := by
  simp only [openSession, made, begun]

/-! ### Names -/

theorem LogLevel.methodName_injective {k l : LogLevel} (same : k.methodName = l.methodName) :
    k = l := by
  cases k <;> cases l <;> first | rfl | exact absurd same (by decide)

theorem FaultKind.name_injective {k l : FaultKind} (same : k.name = l.name) : k = l := by
  cases k <;> cases l <;> first | rfl | exact absurd same (by decide)

theorem Json.ofOption_injective {s t : Option String} (same : ofOption s = ofOption t) : s = t := by
  cases s <;> cases t <;> simp_all [ofOption]

/-! ### What the options ask for -/

namespace CommandLine

namespace RunOptions

variable (o : RunOptions) (base : Config)

/-- Whether a permission is allowed and denied at once. -/
def Conflicting : Prop := ∃ p ∈ o.deny, p ∈ o.allow

/-- The permissions of a run: what is denied is denied, else what is allowed is granted, else the
configuration decides, else the default. -/
def permissions : Permissions where
  isGranted p :=
    if p ∈ o.deny then false
    else if p ∈ o.allow then true
    else (base.permissions.decision p).getD p.grantedByDefault

/-- The limits of a run: those of the configuration, else the default, but with the time that the
options give, if they give one. -/
def limits : Limits where
  memoryBytes := base.limits.memoryBytes.getD Limits.default.memoryBytes
  maxStackBytes := base.limits.maxStackBytes.getD Limits.default.maxStackBytes
  timeoutMs := (o.timeoutMs.or base.limits.timeoutMs).getD Limits.default.timeoutMs

/-- The session of a run, before it has begun. -/
def session (backend : Backend) : Session :=
  ⟨{ permissions := o.permissions base, limits := o.limits base }, backend⟩

/-- How the script is run. -/
def evalOptions : EvalOptions := { filename := some o.script, typed := o.typed }

/-- What holds of a configuration that the options have been laid on. -/
structure LaidOn (c : Config) : Prop where
  permissions : Permissions.defaults.withOverrides c.permissions = o.permissions base
  limits : c.limits.applyTo .default = o.limits base

variable {o base}

/-- A row of decisions of one kind. -/
theorem decision_foldl (ps : List Permission) (granted : Bool) (c : Config) (p : Permission) :
    (ps.foldl (fun c p => c.withPermission p granted) c).permissions.decision p =
      if p ∈ ps then some granted else c.permissions.decision p := by
  induction ps generalizing c with
  | nil => rfl
  | cons q rest ih =>
    rw [List.foldl_cons, ih]
    by_cases later : p ∈ rest
    · simp [later]
    · by_cases here : p = q <;> simp [later, here, Config.withPermission, Overrides.set]

theorem limits_foldl (ps : List Permission) (granted : Bool) (c : Config) :
    (ps.foldl (fun c p => c.withPermission p granted) c).limits = c.limits := by
  induction ps generalizing c with
  | nil => rfl
  | cons q rest ih => exact ih _

theorem denied_of_apart {allow deny : List Permission} (apart : ∀ p ∈ deny, p ∉ allow) (c : Config) :
    denied allow deny c = .ok (deny.foldl (fun c p => c.withPermission p false) c) := by
  induction deny generalizing c with
  | nil => rfl
  | cons p rest ih =>
    have free : ¬ allow.contains p = true := by simpa using apart p (List.mem_cons_self ..)
    rw [denied, if_neg free, ih fun q hq => apart q (List.mem_cons_of_mem _ hq)]
    rfl

theorem denied_of_both {allow deny : List Permission} (both : ∃ p ∈ deny, p ∈ allow) (c : Config) :
    ∃ message, denied allow deny c = .error message := by
  induction deny generalizing c with
  | nil => obtain ⟨p, hp, -⟩ := both; cases hp
  | cons p rest ih =>
    -- the first conflict in the list is the one that is reported
    by_cases here : allow.contains p = true
    · exact ⟨_, by rw [denied, if_pos here]⟩
    · rw [denied, if_neg here]
      refine ih ?_ _
      obtain ⟨q, hq, allowed⟩ := both
      rcases List.mem_cons.1 hq with rfl | later
      · exact absurd (List.contains_iff_mem.2 allowed) here
      · exact ⟨q, later, allowed⟩

/-- Options that do not conflict can be laid on every configuration. -/
theorem layered_of_not_conflicting (apart : ¬ o.Conflicting) (base : Config) :
    ∃ c, o.layered base = .ok c ∧ o.LaidOn base c := by
  refine ⟨_, denied_of_apart (fun p hp allowed => apart ⟨p, hp, allowed⟩) _, ?_, ?_⟩
  · -- the time, which is laid on first, decides about no permission
    have decided (p : Permission) :
        ((o.timeoutMs.map base.withTimeout).getD base).permissions.decision p =
          base.permissions.decision p := by
      cases o.timeoutMs <;> rfl
    simp only [Permissions.withOverrides, permissions, decision_foldl, decided]
    congr 1
    funext p
    by_cases denied : p ∈ o.deny
    · simp [denied]
    · by_cases allowed : p ∈ o.allow <;> simp [denied, allowed, Permissions.defaults]
  · rw [limits_foldl, limits_foldl, limits]
    cases o.timeoutMs <;> rfl

theorem layered_of_conflicting (both : o.Conflicting) (base : Config) :
    ∃ message, o.layered base = .error message := denied_of_both both _

/-! ### What a run needs -/

/-- Whether the files that the options name are there, and what they hold. -/
structure Loads (o : RunOptions) (files : Files) (source : Source) (base : Config)
    (backend : Backend) : Prop where
  script : files.script o.script = .ok source
  config : match o.config with
    | none => base = .empty
    | some name => Config.ofFile files name = .ok base
  fixtures : match o.fixtures with
    | none => backend = .empty
    | some name => ∃ text j, files.text name = .ok text ∧ Json.read .quick text = .ok j ∧
        Backend.ofFixtures j = .ok backend

/-- Whether a run has what it needs: its files, no conflict between its lists, and limits that a
session can run under. -/
structure Runnable (o : RunOptions) (files : Files) (source : Source) (base : Config)
    (backend : Backend) : Prop where
  loads : o.Loads files source base backend
  apart : ¬ o.Conflicting
  limits : (o.limits base).fault? = none

section Needs

variable {files : Files} {source : Source} {c : Config} {backend : Backend}

/-- The backend of a run has got no calls before it. -/
theorem Loads.calls (loads : o.Loads files source base backend) : backend.calls = #[] := by
  have held := loads.fixtures
  split at held
  · rw [held]
    rfl
  · obtain ⟨text, j, -, -, made⟩ := held
    exact Backend.calls_ofFixtures made

theorem loadSource_eq_ok :
    o.loadSource files = .ok source ↔ files.script o.script = .ok source := by
  unfold loadSource
  cases files.script o.script <;> simp

theorem loadConfig_eq_ok :
    o.loadConfig files = .ok c ↔
      ∃ base, (match o.config with
        | none => base = .empty
        | some name => Config.ofFile files name = .ok base) ∧ o.layered base = .ok c := by
  unfold loadConfig
  cases o.config with
  | none => simp
  | some name =>
    dsimp only
    cases Config.ofFile files name <;> simp

theorem loadBackend_eq_ok :
    o.loadBackend files = .ok backend ↔ match o.fixtures with
      | none => backend = .empty
      | some name => ∃ text j, files.text name = .ok text ∧ Json.read .quick text = .ok j ∧
          Backend.ofFixtures j = .ok backend := by
  unfold loadBackend
  cases o.fixtures with
  | none => simp [eq_comm]
  | some name =>
    dsimp only
    cases files.text name with
    | error failure => simp
    | ok text =>
      cases parsed : Json.read .quick text with
      | error fault => simp [parsed]
      | ok j => cases made : Backend.ofFixtures j <;> simp [parsed, made]

/-- What is read for a run is what the files hold, with the options laid on the configuration. -/
theorem gather_eq_ok :
    Command.gather o files = .ok (source, c, backend) ↔
      ∃ base, o.Loads files source base backend ∧ o.layered base = .ok c := by
  have parts : Command.gather o files = .ok (source, c, backend) ↔
      o.loadSource files = .ok source ∧ o.loadConfig files = .ok c ∧
        o.loadBackend files = .ok backend := by
    unfold Command.gather
    cases o.loadSource files <;> cases o.loadConfig files <;> cases o.loadBackend files <;>
      simp [bind, Except.bind, pure, Except.pure]
  rw [parts, loadSource_eq_ok, loadConfig_eq_ok, loadBackend_eq_ok]
  constructor
  · rintro ⟨script, ⟨base, config, layered⟩, fixtures⟩
    exact ⟨base, ⟨script, config, fixtures⟩, layered⟩
  · rintro ⟨base, ⟨script, config, fixtures⟩, layered⟩
    exact ⟨script, ⟨base, config, layered⟩, fixtures⟩

end Needs

/-! ### Runs -/

/-- How a run ends, and the backend that it leaves, if its files can be read and its lists do not
conflict. -/
def outcome (o : RunOptions) (files : Files) : Except String (Except SandboxError Success × Backend) :=
  (Command.gather o files).map fun (source, c, backend) => runOnce c backend source o.evalOptions

/-- The calls that a run makes. -/
def callsMade (o : RunOptions) (files : Files) : List Call :=
  match o.outcome files with
  | .ok (_, b) => b.calls.toList
  | .error _ => []

/-- The answer to a run tells how it ends. -/
theorem perform_run (o : RunOptions) (files : Files) :
    (Command.run o).perform files =
      match o.outcome files with
      | .ok (.ok success, b) => .ofSuccess (successReport success b)
      | .ok (.error (.script f), b) => { exitCode := 1, printed := .document (faultReport f b) }
      | .ok (.error e, _) => .failure (e.message "")
      | .error message => .failure message := by
  simp only [outcome, Command.perform]
  cases Command.gather o files with
  | error message => rfl
  | ok gathered =>
    obtain ⟨source, c, backend⟩ := gathered
    show Command.answerRun o source c backend = _
    simp only [Command.answerRun, Except.map, evalOptions]
    rcases runOnce c backend source { filename := some o.script, typed := o.typed } with
      ⟨error | success, b⟩
    · cases error <;> rfl
    · rfl

variable {files : Files} {source : Source} {c : Config} {backend : Backend}

/-- Where limits are in order, the options give their session. -/
theorem LaidOn.ofConfig (laid : o.LaidOn base c) (backend : Backend) :
    Sandbox.ofConfig c =
      match (o.limits base).fault? with
      | some fault => .error (.invalidConfig fault.message)
      | none => .ok (o.session base backend).sandbox := by
  simp only [Sandbox.ofConfig, Config.resolve, laid.limits, laid.permissions]
  cases (o.limits base).fault? <;> rfl

/-- The session of a run once it is ready. -/
def ready (o : RunOptions) (base : Config) (backend : Backend) : Session :=
  { o.session base backend with
    sandbox :=
      { (o.session base backend).sandbox with
        state := .ready (o.session base backend).sandbox.firstVm } }

/-- The evaluation that a run is: its reply, and the session after it. -/
def evaluated (o : RunOptions) (source : Source) (base : Config) (backend : Backend) :
    Reply × Session :=
  (o.ready base backend).perform (.eval source o.evalOptions)

/-- The session of a run can be made ready. -/
theorem perform_init_session (limits : (o.limits base).fault? = none) (backend : Backend) :
    (o.session base backend).perform .init = (.ok none, o.ready base backend) :=
  Session.perform_init_start (Sandbox.startable_of_limits rfl limits) rfl

/-- A run that has what it needs is one evaluation in its session. -/
theorem Runnable.outcome (run : o.Runnable files source base backend) :
    ∃ result, o.outcome files = .ok (result, (o.evaluated source base backend).2.backend) ∧
      result.map some = (o.evaluated source base backend).1 := by
  obtain ⟨c, layered, laid⟩ := layered_of_not_conflicting run.apart base
  have gathered : Command.gather o files = .ok (source, c, backend) :=
    gather_eq_ok.2 ⟨base, run.loads, layered⟩
  have startable : (o.session base backend).sandbox.Startable :=
    Sandbox.startable_of_limits rfl run.limits
  have begun : (o.session base backend).sandbox.init = (.ok (), (o.ready base backend).sandbox) := by
    rw [Sandbox.init_of_waits rfl, Sandbox.start_eq startable]
    rfl
  have made : Sandbox.ofConfig c = .ok (o.session base backend).sandbox := by
    rw [laid.ofConfig backend, run.limits]
  have opened : openSession c = .ok (o.ready base backend).sandbox := openSession_of_init made begun
  refine ⟨((o.ready base backend).sandbox.eval backend source o.evalOptions).result, ?_, ?_⟩
  · simp only [RunOptions.outcome, gathered, Except.map, runOnce, opened, evaluated, Session.perform]
    rfl
  · rfl

/-- A run that lacks something does not get as far as its script. -/
theorem outcome_of_not_runnable
    (lacks : ¬ ∃ source base backend, o.Runnable files source base backend) :
    (∃ message, o.outcome files = .error message) ∨
      ∃ reason b, o.outcome files = .ok (.error (.invalidConfig reason), b) ∧ b.calls = #[] := by
  cases gathered : Command.gather o files with
  | error message => exact .inl ⟨message, by rw [RunOptions.outcome, gathered]; rfl⟩
  | ok needs =>
    obtain ⟨source, c, backend⟩ := needs
    obtain ⟨base, loads, layered⟩ := gather_eq_ok.1 gathered
    have apart : ¬ o.Conflicting := fun both => by
      obtain ⟨message, refused⟩ := layered_of_conflicting both base
      rw [refused] at layered
      cases layered
    obtain ⟨c', layered', laid⟩ := layered_of_not_conflicting apart base
    obtain rfl : c = c' := Except.ok.inj (layered.symm.trans layered')
    cases limits : (o.limits base).fault? with
    | none => exact absurd ⟨source, base, backend, loads, apart, limits⟩ lacks
    | some fault =>
      refine .inr ⟨fault.message, backend, ?_, loads.calls⟩
      simp only [RunOptions.outcome, gathered, Except.map, runOnce, openSession,
        laid.ofConfig backend, limits]

end RunOptions

/-! ### Reports -/

theorem logsToJson_injective {ls ls' : List LogEntry} (same : logsToJson ls = logsToJson ls') :
    ls = ls' := by
  refine (List.map_inj_right fun e e' h => ?_).1 (Json.arr.inj same)
  obtain ⟨level, args⟩ := e
  obtain ⟨level', args'⟩ := e'
  simp only [Json.obj.injEq, List.cons.injEq, Prod.mk.injEq, Json.arr.injEq, Json.str.injEq,
    true_and, and_true] at h
  rw [h.1, LogLevel.methodName_injective h.2]

theorem callsToJson_injective {b b' : Backend} (same : callsToJson b = callsToJson b') :
    b.calls = b'.calls := by
  refine Array.toList_inj.1 ((List.map_inj_right fun c c' h => ?_).1 (Json.arr.inj same))
  obtain ⟨ns, method, args⟩ := c
  obtain ⟨ns', method', args'⟩ := c'
  simp only [Json.obj.injEq, List.cons.injEq, Prod.mk.injEq, Json.arr.injEq, Json.str.injEq,
    true_and, and_true] at h
  rw [h.1, h.2.1, h.2.2]

/-- A report on a success tells all of it. -/
theorem successReport_injective {s s' : Success} {b b' : Backend}
    (same : successReport s b = successReport s' b') : s = s' ∧ b.calls = b'.calls := by
  obtain ⟨value, logs⟩ := s
  obtain ⟨value', logs'⟩ := s'
  simp only [successReport, Json.obj.injEq, List.cons.injEq, Prod.mk.injEq, true_and,
    and_true] at same
  obtain ⟨calls, logged, rfl⟩ := same
  rw [logsToJson_injective logged]
  exact ⟨rfl, callsToJson_injective calls⟩

/-- So does a report on a fault. -/
theorem faultReport_injective {f f' : ScriptFault} {b b' : Backend}
    (same : faultReport f b = faultReport f' b') : f = f' ∧ b.calls = b'.calls := by
  obtain ⟨kind, message, name, hasStack, filename, logs⟩ := f
  obtain ⟨kind', message', name', hasStack', filename', logs'⟩ := f'
  simp only [faultReport, Json.obj.injEq, List.cons.injEq, Prod.mk.injEq, Json.str.injEq,
    Json.bool.injEq, true_and, and_true] at same
  obtain ⟨calls, file, rfl, named, logged, rfl, called⟩ := same
  rw [Json.ofOption_injective file, FaultKind.name_injective named, logsToJson_injective logged,
    Json.ofOption_injective called]
  exact ⟨rfl, callsToJson_injective calls⟩

/-- Whether an answer is the report on an evaluation: on its reply, and on the calls of the backend
that it has left. -/
inductive Answer.Reports : Answer → Reply → Backend → Prop
  | success (s : Success) (b : Backend) :
    Reports (.ofSuccess (successReport s b)) (.ok (some s)) b
  | fault (f : ScriptFault) (b : Backend) :
    Reports { exitCode := 1, printed := .document (faultReport f b) } (.error (.script f)) b

namespace Answer.Reports

variable {a : Answer} {reply reply' : Reply} {b b' : Backend}

/-- A report tells the whole reply and all calls. -/
theorem unique (first : a.Reports reply b) (second : a.Reports reply' b') :
    reply' = reply ∧ b'.calls = b.calls := by
  generalize same : a = a' at second
  cases first with
  | success s =>
    cases second with
    | success s' =>
      have reports := successReport_injective (Printed.document.inj (Answer.mk.inj same).2.1)
      exact ⟨by rw [reports.1], reports.2.symm⟩
    | fault f' => exact absurd (Answer.mk.inj same).1 (by decide)
  | fault f =>
    cases second with
    | success s' => exact absurd (Answer.mk.inj same).1 (by decide)
    | fault f' =>
      have reports := faultReport_injective (Printed.document.inj (Answer.mk.inj same).2.1)
      exact ⟨by rw [reports.1], reports.2.symm⟩

theorem exitCode_eq_zero (reports : a.Reports reply b) :
    a.exitCode = 0 ↔ ∃ success, reply = .ok (some success) := by
  cases reports with
  | success s => exact ⟨fun _ => ⟨s, rfl⟩, fun _ => rfl⟩
  | fault f => exact ⟨fun h => absurd h Nat.one_ne_zero, fun ⟨_, h⟩ => nomatch h⟩

theorem exitCode_eq_one (reports : a.Reports reply b) :
    a.exitCode = 1 ↔ ∃ fault, reply = .error (.script fault) := by
  cases reports with
  | success s => exact ⟨fun h => absurd h Nat.zero_ne_one, fun ⟨_, h⟩ => nomatch h⟩
  | fault f => exact ⟨fun _ => ⟨f, rfl⟩, fun _ => rfl⟩

end Answer.Reports

/-! ### Runs and sessions -/

namespace RunOptions

/-- What holds of a run that has what it needs. -/
structure Evaluates (o : RunOptions) (files : Files) (source : Source) (base : Config)
    (backend : Backend) : Prop where
  /-- Its session can be made ready. -/
  begins : (o.session base backend).perform .init = (.ok none, o.ready base backend)
  /-- The run reports on one evaluation there. -/
  reports : ((Command.run o).perform files).Reports (o.evaluated source base backend).1
    (o.evaluated source base backend).2.backend
  /-- It could be a report on no other reply, and on no other calls. -/
  tells : ∀ reply b, ((Command.run o).perform files).Reports reply b →
    reply = (o.evaluated source base backend).1 ∧
      b.calls = (o.evaluated source base backend).2.backend.calls
  /-- The backend has got no calls before the evaluation. -/
  unused : backend.calls = #[]
  /-- So the calls of the run are those of the evaluation. -/
  calls : o.callsMade files = (o.evaluated source base backend).2.backend.calls.toList
  /-- The exit code tells whether the script came to its end. -/
  success : ((Command.run o).perform files).exitCode = 0 ↔
    ∃ success, (o.evaluated source base backend).1 = .ok (some success)
  /-- And it tells whether the script was stopped. -/
  fault : ((Command.run o).perform files).exitCode = 1 ↔
    ∃ fault, (o.evaluated source base backend).1 = .error (.script fault)

/-- How a run from the command line stands to the session that its options ask for. -/
structure Faithful (o : RunOptions) (files : Files) : Prop where
  /-- A run that lacks something is answered with a complaint, and makes no calls. -/
  refused : (¬ ∃ source base backend, o.Runnable files source base backend) →
    (∃ complaint, (Command.run o).perform files =
      { exitCode := 2, printed := .text "", complaint }) ∧ o.callsMade files = []
  /-- Any other is one evaluation. -/
  ran : ∀ source base backend, o.Runnable files source base backend →
    o.Evaluates files source base backend

variable {o : RunOptions} {base : Config} {files : Files} {source : Source} {backend : Backend}

/-- A run that has what it needs reports on its evaluation. -/
theorem Runnable.reports (run : o.Runnable files source base backend) :
    ((Command.run o).perform files).Reports (o.evaluated source base backend).1
      (o.evaluated source base backend).2.backend := by
  obtain ⟨result, ended, same⟩ := run.outcome
  have hs : (o.ready base backend).sandbox.state =
    .ready (o.session base backend).sandbox.firstVm := rfl
  have scripted : (∃ success, (o.evaluated source base backend).1 = .ok (some success)) ∨
      ∃ fault, (o.evaluated source base backend).1 = .error (.script fault) :=
    ((Session.step _ (.eval source o.evalOptions)).eval_ready hs).2
  rw [perform_run, ended]
  rcases scripted with ⟨success, reply⟩ | ⟨fault, reply⟩
  · rw [reply] at same ⊢
    cases result <;> cases same
    exact .success success _
  · rw [reply] at same ⊢
    cases result <;> cases same
    exact .fault fault _

theorem Runnable.evaluates (run : o.Runnable files source base backend) :
    o.Evaluates files source base backend where
  begins := perform_init_session run.limits backend
  reports := run.reports
  tells _ _ reports := run.reports.unique reports
  unused := run.loads.calls
  calls := by
    obtain ⟨result, ended, -⟩ := run.outcome
    rw [callsMade, ended]
  success := run.reports.exitCode_eq_zero
  fault := run.reports.exitCode_eq_one

/-- A run from the command line is refused or is one evaluation in its session, whatever the files
hold and whatever the options are. -/
theorem faithful_run (o : RunOptions) (files : Files) : o.Faithful files where
  refused lacks := by
    rw [perform_run, callsMade]
    rcases outcome_of_not_runnable lacks with ⟨message, refused⟩ | ⟨reason, b, refused, unused⟩
    · rw [refused]
      exact ⟨⟨_, rfl⟩, rfl⟩
    · rw [refused]
      exact ⟨⟨_, rfl⟩, congrArg Array.toList unused⟩
  ran _ _ _ run := run.evaluates

/-- Files that all hold a script that does nothing. -/
def blankFiles : Files where
  text _ := .ok ""
  script _ := .ok (.program none { body := [] })

/-- A run with lists that repeat a permission but do not conflict. -/
def blankRun : RunOptions where
  script := "job.js"
  timeoutMs := some 10
  deny := [.viewer]
  allow := [.mutate, .mutate]
  typed := some false

/-- A run that has what it needs and comes to its end. -/
theorem faithful_run_blank :
    blankRun.Runnable blankFiles (.program none { body := [] }) .empty .empty ∧
      blankRun.Faithful blankFiles ∧ ((Command.run blankRun).perform blankFiles).exitCode = 0 := by
  have apart : ¬ blankRun.Conflicting := by
    simp [Conflicting, blankRun]
  exact ⟨⟨⟨rfl, rfl, rfl⟩, apart, by decide +kernel⟩, faithful_run blankRun blankFiles, by decide +kernel⟩

end RunOptions

end CommandLine

end ScriptHost
