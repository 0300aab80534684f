import ScriptHost.Proofs.Session

/-!
# The life of a session

* `Phase`: where a session stands, as its history of operations and answers tells;
* `Phase.Describes`: the states of a session in a phase;
* `Phase.Answers`: the answers that an operation may get in a phase;
* `Session.Lifecycle`: what holds of a session after a row of operations;
* `Session.lifecycle`: it holds after every row of them.
-/

namespace ScriptHost

/-- Where a session stands. -/
inductive Phase
  | fresh
  | ready
  | poisoned
  | disposed
  deriving DecidableEq

namespace Phase

/-- The phase after an operation with its answer. -/
def next : Phase → Operation × Reply → Phase
  | disposed, _ => disposed
  | _, (.dispose, _) => disposed
  | _, (.init, _) => ready
  | ready, (.eval .., .error (.script fault)) =>
    if fault.kind = .outOfMemory then poisoned else ready
  | phase, (.eval .., _) => phase

/-- The phase to which a history leads. -/
def of (past : List (Operation × Reply)) : Phase := past.foldl next fresh

/-- The answers that an operation may get in a phase. -/
def Answers : Phase → Operation → Reply → Prop
  | _, .dispose, reply => reply = .ok none
  | disposed, _, reply => reply = .error .disposed
  | _, .init, reply => reply = .ok none
  | fresh, .eval .., reply => reply = .error .notInitialized
  | poisoned, .eval .., reply => reply = .error (.poisoned .outOfMemory)
  | ready, .eval .., reply =>
    (∃ success, reply = .ok (some success)) ∨ ∃ fault, reply = .error (.script fault)

/-- The states of a session in a phase, where its scripts find the given namespaces. -/
def Describes (names : List String) : Phase → SessionState → Prop
  | fresh, .uninitialized => True
  | ready, .ready vm => vm.namespaces = names
  | poisoned, .poisoned vm kind => vm.namespaces = names ∧ kind = .outOfMemory
  | disposed, .disposed => True
  | _, _ => False

end Phase

/-- The phase that a state is of. -/
def SessionState.phase : SessionState → Phase
  | uninitialized => .fresh
  | ready _ => .ready
  | poisoned .. => .poisoned
  | disposed => .disposed

theorem SessionState.waits_iff {state : SessionState} :
    state.waits = true ↔ state.phase = .fresh ∨ state.phase = .poisoned := by
  cases state <;> simp [waits, phase]

theorem Phase.eq_of_describes {names : List String} {phase : Phase} {state : SessionState}
    (hs : phase.Describes names state) : phase = state.phase := by
  cases state <;> cases phase <;> first | rfl | cases hs

/-! ### Single operations -/

namespace Sandbox

/-- A sandbox whose table keeps the rules and whose heap holds its capabilities. -/
structure Startable (s : Sandbox) : Prop where
  valid : s.registry.fault? = none
  fits : s.host.exceeds (functionBytes * s.granted.methodCount) = false

variable {s t : Sandbox}

theorem Like.startable (like : s.Like t) (hs : s.Startable) : t.Startable where
  valid := by rw [like.registry, hs.valid]
  fits := by rw [like.host, like.granted, hs.fits]

theorem start_eq (hs : s.Startable) : s.start = (.ok (), { s with state := .ready s.firstVm }) := by
  rw [start, hs.valid, makeVm_of_fits hs.fits]

/-- The state that a fault leaves. -/
def stateAfterFault (kind : FaultKind) (vm : Vm) : SessionState :=
  if kind = .outOfMemory then .poisoned vm .outOfMemory else .ready vm

theorem state_conclude_error (s : Sandbox) (vm : Vm) (filename : String) (fault : ScriptFault)
    (m : Machine) :
    (s.conclude vm filename (.error fault) m).sandbox.state =
      stateAfterFault fault.kind { vm with heap := m.heap } := by
  by_cases full : fault.kind = .outOfMemory <;>
    simp [conclude, stateAfterFault, FaultKind.poisons, full]

/-- An evaluation ends with something, or with a fault that decides about the state. -/
def Ends (o : Outcome) (names : List String) : Prop :=
  ∃ vm : Vm, vm.namespaces = names ∧
    ((∃ success, o.result = .ok success ∧ o.sandbox.state = .ready vm) ∨
      ∃ fault, o.result = .error (.script fault) ∧
        o.sandbox.state = stateAfterFault fault.kind vm)

/-- The run of a prepared source ends so. -/
theorem evalReady_ends (s : Sandbox) (vm : Vm) (b : Backend) (plain : Source) (filename : String) :
    Ends (s.evalReady vm b plain filename) vm.namespaces := by
  unfold evalReady
  generalize runSource s.host plain (s.machine vm b) = ran
  obtain ⟨result, m⟩ := ran
  dsimp only
  refine ⟨{ vm with heap := m.heap }, rfl, ?_⟩
  cases settle result m.expired with
  | ok value => exact .inl ⟨_, rfl, rfl⟩
  | error fault => exact .inr ⟨_, rfl, state_conclude_error ..⟩

end Sandbox

namespace Session

variable {s t : Session} {op : Operation} {reply : Reply}

/-- A sandbox that is neither ready nor disposed of gets the machine that it always starts with. -/
theorem perform_init_start (startable : s.sandbox.Startable)
    (waits : s.sandbox.state.waits = true) :
    s.perform .init =
      (.ok none, { s with sandbox := { s.sandbox with state := .ready s.sandbox.firstVm } }) := by
  rw [perform, Sandbox.init_of_waits waits, Sandbox.start_eq startable]
  rfl

/-- An evaluation that a fault ends answers with it, but if the time is up it says that.  What it says
decides about the state. -/
theorem perform_eval_of_fault {vm : Vm} (hs : s.sandbox.state = .ready vm) {source plain : Source}
    {options : EvalOptions} {asked : Bool}
    (prepared : prepareSource s.sandbox.transpiler source options = (.ok plain, asked))
    {fault : ScriptFault} {m : Machine}
    (ran : runSource s.sandbox.host plain (s.sandbox.machine vm s.backend) = (.error fault, m)) :
    ∃ told : ScriptFault, (s.perform (.eval source options)).1 = .error (.script told) ∧
      told.kind = (if m.expired then .timeout else fault.kind) ∧ told.name = fault.name ∧
      told.message = fault.message ∧
      (s.perform (.eval source options)).2.sandbox.state =
        Sandbox.stateAfterFault told.kind { vm with heap := m.heap } := by
  simp only [perform_eval_eq hs prepared, Sandbox.evalReady, ran]
  cases m.expired with
  | true => exact ⟨_, rfl, rfl, rfl, rfl, Sandbox.state_conclude_error ..⟩
  | false => exact ⟨_, rfl, rfl, rfl, rfl, Sandbox.state_conclude_error ..⟩

/-- The history tells the state that a fault leaves. -/
theorem describes_stateAfterFault (source : Source) (options : EvalOptions) (fault : ScriptFault)
    (vm : Vm) :
    (Phase.ready.next (.eval source options, .error (.script fault))).Describes vm.namespaces
      (Sandbox.stateAfterFault fault.kind vm) := by
  by_cases full : fault.kind = .outOfMemory
  · simp only [Phase.next, Sandbox.stateAfterFault, if_pos full]
    exact ⟨rfl, rfl⟩
  · simp only [Phase.next, Sandbox.stateAfterFault, if_neg full]
    exact rfl

/-- An evaluation on a ready session leaves it ready or poisoned, as its answer tells. -/
theorem Step.eval_ready {source : Source} {options : EvalOptions}
    (step : s.Step (.eval source options) reply t) {vm : Vm} (hs : s.sandbox.state = .ready vm) :
    (Phase.ready.next (.eval source options, reply)).Describes vm.namespaces t.sandbox.state ∧
      Phase.ready.Answers (.eval source options) reply := by
  cases step with
  | misused misuse =>
    rw [hs] at misuse
    cases misuse
  | unprepared =>
    refine ⟨?_, .inr ⟨_, rfl⟩⟩
    show Phase.ready.Describes vm.namespaces s.sandbox.state
    rw [hs]
    exact rfl
  | @ran before _ plain _ _ ready =>
    obtain rfl : vm = before := SessionState.ready.inj (hs.symm.trans ready)
    obtain ⟨vm', names, ⟨success, result, state⟩ | ⟨fault, result, state⟩⟩ :=
      s.sandbox.evalReady_ends vm s.backend plain options.filenameOrDefault
    · rw [result, state]
      exact ⟨names, .inl ⟨success, rfl⟩⟩
    · rw [result, state, ← names]
      exact ⟨describes_stateAfterFault .., .inr ⟨fault, rfl⟩⟩

/-- After an operation the phase still describes the session, and the answer is one of those that
the phase before allows. -/
theorem Step.describes (step : s.Step op reply t) (startable : s.sandbox.Startable) {phase : Phase}
    (hs : phase.Describes s.sandbox.installedNames s.sandbox.state) :
    (phase.next (op, reply)).Describes s.sandbox.installedNames t.sandbox.state ∧
      phase.Answers op reply := by
  obtain rfl : phase = s.sandbox.state.phase := Phase.eq_of_describes hs
  have names {vm : Vm} (ready : s.sandbox.state = .ready vm) :
      vm.namespaces = s.sandbox.installedNames := by
    rw [ready] at hs
    exact hs
  have phase {vm : Vm} (ready : s.sandbox.state = .ready vm) : s.sandbox.state.phase = .ready := by
    rw [ready]
    rfl
  cases step with
  | misused misuse =>
    cases hstate : s.sandbox.state <;> rw [hstate] at misuse hs <;> cases op <;> cases misuse
    case misused.poisoned.eval.refl vm kind source options =>
      obtain ⟨names, rfl⟩ := hs
      exact ⟨⟨names, rfl⟩, rfl⟩
    all_goals exact ⟨trivial, rfl⟩
  | again ready =>
    rw [phase ready, ready]
    exact ⟨names ready, rfl⟩
  | failed waits start =>
    rw [Sandbox.start_eq startable] at start
    cases start
  | started waits =>
    cases hstate : s.sandbox.state <;> rw [hstate] at waits <;> cases waits <;> exact ⟨rfl, rfl⟩
  | unprepared ready prepared =>
    rw [phase ready, ← names ready]
    exact (Step.unprepared ready prepared).eval_ready ready
  | ran ready prepared =>
    rw [phase ready, ← names ready]
    exact (Step.ran ready prepared).eval_ready ready
  | disposed => cases s.sandbox.state <;> exact ⟨trivial, rfl⟩

/-! ### Rows of operations -/

/-- What holds of a session after a row of operations, which began with a sandbox that was never
used. -/
structure Lifecycle (start : Session) (ops : List Operation) : Prop where
  /-- The history tells the state. -/
  state : (Phase.of (start.events ops)).Describes start.sandbox.installedNames
    (start.after ops).sandbox.state
  /-- The history tells the answers. -/
  answers : ∀ op, (Phase.of (start.events ops)).Answers op ((start.after ops).perform op).1
  /-- A second `init` changes nothing. -/
  again : Phase.of (start.events ops) = .ready →
    ((start.after ops).perform .init).2 = start.after ops
  /-- A first `init`, and one after a fault that fills the heap, give the same new machine. -/
  rebuilt : Phase.of (start.events ops) = .fresh ∨ Phase.of (start.events ops) = .poisoned →
    ((start.after ops).perform .init).2 = { start.after ops with
      sandbox := { (start.after ops).sandbox with state := .ready start.sandbox.firstVm } }
  /-- Only a fault that fills the heap of a ready session poisons it. -/
  poisoning : ∀ op vm kind, ((start.after ops).perform op).2.sandbox.state = .poisoned vm kind →
    kind = .outOfMemory ∧
      (Phase.of (start.events ops) = .ready ∨ ((start.after ops).perform op).2 = start.after ops)
  /-- Misuse changes neither the sandbox nor the backend. -/
  misuse : ∀ op e, ((start.after ops).perform op).1 = .error e → e.isMisuse = true →
    ((start.after ops).perform op).2 = start.after ops
  /-- To dispose of a session again changes nothing. -/
  disposal : (((start.after ops).perform .dispose).2.perform .dispose).2 =
    ((start.after ops).perform .dispose).2
  /-- Nothing leads out of a session that was disposed of. -/
  final : Phase.of (start.events ops) = .disposed → ∀ more,
    (start.after ops).after more = start.after ops
  /-- The settings stay. -/
  settings : start.sandbox.Like (start.after ops).sandbox

/-- The phase describes a session after every row of operations.  The induction is on the row, from
a session in any phase. -/
theorem describes_after {phase : Phase} (startable : s.sandbox.Startable)
    (hs : phase.Describes s.sandbox.installedNames s.sandbox.state) (ops : List Operation) :
    ((s.events ops).foldl Phase.next phase).Describes s.sandbox.installedNames
      (s.after ops).sandbox.state := by
  induction ops generalizing s phase with
  | nil => exact hs
  | cons op ops ih =>
    have like := s.perform_like op
    have names : (s.perform op).2.sandbox.installedNames = s.sandbox.installedNames :=
      like.installedNames
    have next := ((s.step op).describes startable hs).1
    rw [← names] at next ⊢
    exact ih (like.startable startable) next

/-- An answer that says a session was misused changes nothing. -/
theorem Step.eq_of_misuse {e : SandboxError} (step : s.Step op (.error e) t)
    (misuse : e.isMisuse = true) : t = s := by
  generalize answer : (.error e : Reply) = reply at step
  cases step with
  | misused | failed | again => rfl
  | started | disposed => cases answer
  | unprepared =>
    cases answer
    cases misuse
  | @ran vm _ plain options =>
    obtain ⟨vm', -, ⟨success, result, -⟩ | ⟨fault, result, -⟩⟩ :=
      s.sandbox.evalReady_ends vm s.backend plain options.filenameOrDefault
    · rw [result] at answer
      cases answer
    · rw [result] at answer
      cases answer
      cases misuse

/-- Only a fault that fills the heap of a ready session poisons it. -/
theorem Step.poisoned (step : s.Step op reply t) (startable : s.sandbox.Startable) {phase : Phase}
    (hs : phase.Describes s.sandbox.installedNames s.sandbox.state) {vm : Vm} {kind : FaultKind}
    (after : t.sandbox.state = .poisoned vm kind) :
    kind = .outOfMemory ∧ (phase = .ready ∨ t = s) := by
  have next := (step.describes startable hs).1
  rw [after] at next
  have kind_eq : kind = .outOfMemory := by
    cases h : phase.next (op, reply) <;> rw [h] at next <;>
      simp_all [Phase.Describes]
  refine ⟨kind_eq, ?_⟩
  obtain rfl : phase = s.sandbox.state.phase := Phase.eq_of_describes hs
  cases step with
  | misused | failed | again => exact .inr rfl
  | started | disposed => cases after
  | unprepared ready | ran ready =>
    rw [ready]
    exact .inl rfl

/-- Nothing leads out of a session that was disposed of. -/
theorem after_of_disposed (hs : s.sandbox.state = .disposed) (ops : List Operation) :
    s.after ops = s := by
  have stays (op : Operation) : (s.perform op).2 = s := by
    cases op with
    | init | eval => rw [perform_misused (e := .disposed) (by rw [hs]; rfl)]
    | dispose =>
      show { s with sandbox := { s.sandbox with state := .disposed } } = s
      rw [← hs]
  induction ops with
  | nil => rfl
  | cons op ops ih => rw [after_cons, stays, ih]

/-- The life of a session: for every row of operations on a sandbox that was never used, whose table
keeps the rules and whose heap holds its capabilities. -/
theorem lifecycle (start : Session) (fresh : start.sandbox.state = .uninitialized)
    (startable : start.sandbox.Startable) (ops : List Operation) : Lifecycle start ops := by
  have settings := start.after_like ops
  have ready := settings.startable startable
  have here : (Phase.of (start.events ops)).Describes start.sandbox.installedNames
      (start.after ops).sandbox.state :=
    describes_after startable (by rw [fresh]; trivial) ops
  have names : (start.after ops).sandbox.installedNames = start.sandbox.installedNames :=
    settings.installedNames
  have now := here
  rw [← names] at now
  have phase_eq := Phase.eq_of_describes here
  exact {
    state := here
    answers := fun op => ((Session.step _ op).describes ready now).2
    again := fun hp => by
      cases hstate : (start.after ops).sandbox.state <;> rw [hstate, hp] at phase_eq
      case ready vm => rw [perform_init_ready hstate]
      all_goals cases phase_eq
    rebuilt := fun hp => by
      rw [perform_init_start ready (SessionState.waits_iff.2 (phase_eq ▸ hp)), settings.firstVm]
    poisoning := fun op vm kind => (Session.step _ op).poisoned ready now
    misuse := fun op e answer misuse => by
      have step := Session.step (start.after ops) op
      rw [answer] at step
      exact step.eq_of_misuse misuse
    disposal := rfl
    final := fun hp more => by
      cases hstate : (start.after ops).sandbox.state <;> rw [hstate, hp] at phase_eq
      case disposed => exact after_of_disposed hstate more
      all_goals cases phase_eq
    settings }

/-- The life of a session with the default settings that is made ready, runs an empty text, and is
disposed of twice. -/
theorem lifecycle_ofDefaults :
    Sandbox.ofDefaults.state = .uninitialized ∧ Sandbox.ofDefaults.Startable ∧
      Lifecycle ⟨.ofDefaults, {}⟩ [.init, .eval (.text "") {}, .dispose, .dispose] :=
  have startable : Sandbox.ofDefaults.Startable := ⟨by decide +kernel, by decide +kernel⟩
  ⟨rfl, startable, lifecycle ⟨.ofDefaults, {}⟩ rfl startable _⟩

end Session

end ScriptHost
