import ScriptHost.Proofs.Calls
import ScriptHost.Sandbox

/-!
# Runs of operations

* `Operation`, `Reply`: what can be asked of a sandbox, and what it answers;
* `Session.perform`, `Session.after`, `Session.events`: one operation, and rows of them;
* `Sandbox.granted`: the namespaces that the permissions of a sandbox let through;
* `Sandbox.Like`: sandboxes with the same settings; no operation changes these;
* `SessionState.misuse?`: what an operation is refused with in a state that does not allow it;
* `Session.Step`, `Session.step`: what an operation does, in all cases;
* `runSource_preserves`: what holds across all calls holds across an evaluation;
* `runSource_of_thrown`: what is left of a value that nothing catches;
* `Host.trail`: the spots that the run of a source depends on.
-/

namespace ScriptHost

/-- What can be asked of a sandbox. -/
inductive Operation
  | init
  | eval (source : Source) (options : EvalOptions)
  | dispose

/-- The answer to an operation.  Only an evaluation gives something. -/
abbrev Reply := Except SandboxError (Option Success)

/-- A sandbox and the backend that serves it. -/
structure Session where
  sandbox : Sandbox
  backend : Backend

namespace Session

/-- The answer to an operation, and the session after it. -/
def perform (s : Session) : Operation → Reply × Session
  | .init => (s.sandbox.init.1.map fun _ => none, { s with sandbox := s.sandbox.init.2 })
  | .eval source options =>
    let o := s.sandbox.eval s.backend source options
    (o.result.map some, ⟨o.sandbox, o.backend⟩)
  | .dispose => (.ok none, { s with sandbox := s.sandbox.dispose })

/-- The session after a row of operations. -/
def after (s : Session) (ops : List Operation) : Session :=
  ops.foldl (fun s op => (s.perform op).2) s

/-- The operations of a row with their answers. -/
def events : Session → List Operation → List (Operation × Reply)
  | _, [] => []
  | s, op :: ops => (op, (s.perform op).1) :: (s.perform op).2.events ops

@[simp] theorem after_nil (s : Session) : s.after [] = s := rfl

theorem after_cons (s : Session) (op : Operation) (ops : List Operation) :
    s.after (op :: ops) = (s.perform op).2.after ops := rfl

/-- What an operation preserves holds after every row of them. -/
theorem after_induction {P : Session → Prop} (step : ∀ s op, P s → P (s.perform op).2)
    (ops : List Operation) {s : Session} (hs : P s) : P (s.after ops) := by
  induction ops generalizing s with
  | nil => exact hs
  | cons op ops ih => exact ih (step s op hs)

end Session

/-! ### Settings -/

/-- The namespaces that the permissions of a sandbox let through. -/
def Sandbox.granted (s : Sandbox) : Registry := s.registry.installed s.permissions

/-- The names of the namespaces that the scripts of a sandbox find. -/
def Sandbox.installedNames (s : Sandbox) : List String := s.granted.map Namespace.name

/-- Sandboxes with the same settings. -/
structure Sandbox.Like (s t : Sandbox) : Prop where
  id : t.id = s.id
  permissions : t.permissions = s.permissions
  limits : t.limits = s.limits
  registry : t.registry = s.registry
  transpiler : t.transpiler = s.transpiler

namespace Sandbox

variable {s t u : Sandbox}

theorem Like.refl : s.Like s := ⟨rfl, rfl, rfl, rfl, rfl⟩

theorem Like.trans (first : s.Like t) (second : t.Like u) : s.Like u where
  id := second.id.trans first.id
  permissions := second.permissions.trans first.permissions
  limits := second.limits.trans first.limits
  registry := second.registry.trans first.registry
  transpiler := second.transpiler.trans first.transpiler

theorem Like.host (like : s.Like t) : t.host = s.host := by
  rw [Sandbox.host, Sandbox.host, like.registry, like.limits]

theorem Like.granted (like : s.Like t) : t.granted = s.granted := by
  rw [Sandbox.granted, Sandbox.granted, like.registry, like.permissions]

theorem Like.installedNames (like : s.Like t) : t.installedNames = s.installedNames := by
  rw [Sandbox.installedNames, Sandbox.installedNames, like.granted]

theorem conclude_like (s : Sandbox) (vm : Vm) (filename : String)
    (result : Except ScriptFault Json) (m : Machine) :
    s.Like (s.conclude vm filename result m).sandbox := by
  cases result <;> exact ⟨rfl, rfl, rfl, rfl, rfl⟩

end Sandbox

/-! ### Machines -/

namespace Sandbox

variable {s t : Sandbox}

/-- The machine that a sandbox starts with. -/
def firstVm (s : Sandbox) : Vm := ⟨.install s.registry s.permissions, s.installedNames⟩

theorem Like.firstVm (like : s.Like t) : t.firstVm = s.firstVm := by
  simp only [Sandbox.firstVm, like.registry, like.permissions, like.installedNames]

theorem makeVm_of_fits (fits : s.host.exceeds (functionBytes * s.granted.methodCount) = false) :
    s.makeVm = .ok s.firstVm := by
  rw [granted] at fits
  simp only [makeVm, fits, Bool.false_eq_true, if_false, firstVm, installedNames, granted]

theorem makeVm_of_exceeds (exceeds : s.host.exceeds (functionBytes * s.granted.methodCount) = true) :
    s.makeVm = .error (.initializationFailed "null") := by
  rw [granted] at exceeds
  simp only [makeVm, exceeds, if_true]

/-- A start fails and changes nothing, or gives the first machine. -/
theorem start_cases (s : Sandbox) :
    (∃ e, s.start = (.error e, s)) ∨ s.start = (.ok (), { s with state := .ready s.firstVm }) := by
  cases hf : s.registry.fault? with
  | some fault =>
    rw [start, hf]
    exact .inl ⟨_, rfl⟩
  | none =>
    cases fits : s.host.exceeds (functionBytes * s.granted.methodCount) with
    | false =>
      rw [start, hf, makeVm_of_fits fits]
      exact .inr rfl
    | true =>
      rw [start, hf, makeVm_of_exceeds fits]
      exact .inl ⟨_, rfl⟩

end Sandbox

/-! ### Misuse -/

/-- What an operation is refused with in a state that does not allow it. -/
def SessionState.misuse? : SessionState → Operation → Option SandboxError
  | disposed, .init | disposed, .eval .. => some .disposed
  | uninitialized, .eval .. => some .notInitialized
  | poisoned _ kind, .eval .. => some (.poisoned kind)
  | _, _ => none

/-- Whether an `init` is to make a new machine. -/
def SessionState.waits : SessionState → Bool
  | uninitialized | poisoned .. => true
  | ready _ | disposed => false

/-- Evaluations are for sessions that are ready. -/
theorem SessionState.exists_ready {state : SessionState} {source : Source} {options : EvalOptions}
    (allowed : state.misuse? (.eval source options) = none) : ∃ vm, state = .ready vm := by
  cases state with
  | ready vm => exact ⟨vm, rfl⟩
  | uninitialized | poisoned | disposed => cases allowed

theorem Sandbox.init_of_waits {s : Sandbox} (waits : s.state.waits = true) : s.init = s.start := by
  unfold init
  cases hs : s.state with
  | uninitialized | poisoned => rfl
  | ready | disposed =>
    rw [hs] at waits
    cases waits

/-- An operation that is refused changes nothing. -/
theorem Session.perform_misused {s : Session} {op : Operation} {e : SandboxError}
    (misuse : s.sandbox.state.misuse? op = some e) : s.perform op = (.error e, s) := by
  cases hs : s.sandbox.state <;> rw [hs] at misuse <;> cases op <;> cases misuse <;>
    simp only [perform, Sandbox.init, Sandbox.eval, hs] <;> rfl

/-! ### Evaluations on a ready session -/

section Ready

variable {vm : Vm} {source : Source} {o : EvalOptions} {asked : Bool}

theorem Sandbox.eval_of_prepared {s : Sandbox} (hs : s.state = .ready vm) {b : Backend}
    {plain : Source} (prepared : prepareSource s.transpiler source o = (.ok plain, asked)) :
    s.eval b source o =
      { s.evalReady vm b plain o.filenameOrDefault with transpiled := asked } := by
  simp only [eval, hs, prepared]

theorem Sandbox.eval_of_unprepared {s : Sandbox} (hs : s.state = .ready vm) {b : Backend}
    {message : String} (unprepared : prepareSource s.transpiler source o = (.error message, asked)) :
    s.eval b source o =
      { result := .error (.script
          { kind := .transpile, message, filename := some o.filenameOrDefault })
        sandbox := { s with logs := s.logs.cleared }, backend := b, transpiled := asked } := by
  simp only [eval, hs, unprepared]

theorem Session.perform_eval_eq {s : Session} (hs : s.sandbox.state = .ready vm) {plain : Source}
    (prepared : prepareSource s.sandbox.transpiler source o = (.ok plain, asked)) :
    s.perform (.eval source o) =
      let ran := s.sandbox.evalReady vm s.backend plain o.filenameOrDefault
      (ran.result.map some, ⟨ran.sandbox, ran.backend⟩) := by
  rw [perform, Sandbox.eval_of_prepared hs prepared]

end Ready

/-! ### Steps -/

namespace Session

variable {s t : Session} {op : Operation} {reply : Reply}

theorem perform_init_ready {vm : Vm} (hs : s.sandbox.state = .ready vm) :
    s.perform .init = (.ok none, s) := by
  simp only [perform, Sandbox.init, hs]
  rfl

/-- What an operation does: its answer, and the session that it leaves. -/
inductive Step (s : Session) : Operation → Reply → Session → Prop
  | misused {op : Operation} {e : SandboxError} (misuse : s.sandbox.state.misuse? op = some e) :
    Step s op (.error e) s
  /-- What is ready stays as it is. -/
  | again {vm : Vm} (ready : s.sandbox.state = .ready vm) : Step s .init (.ok none) s
  | failed {e : SandboxError} (waits : s.sandbox.state.waits = true)
      (start : s.sandbox.start = (.error e, s.sandbox)) : Step s .init (.error e) s
  | started (waits : s.sandbox.state.waits = true) (start : s.sandbox.start.1 = .ok ()) :
    Step s .init (.ok none)
      { s with sandbox := { s.sandbox with state := .ready s.sandbox.firstVm } }
  /-- A source that cannot be prepared is a fault of the script. -/
  | unprepared {vm : Vm} {source : Source} {options : EvalOptions} {message : String} {asked : Bool}
      (ready : s.sandbox.state = .ready vm)
      (prepared : prepareSource s.sandbox.transpiler source options = (.error message, asked)) :
    Step s (.eval source options)
      (.error (.script
        { kind := .transpile, message, filename := some options.filenameOrDefault }))
      { s with sandbox := { s.sandbox with logs := s.sandbox.logs.cleared } }
  | ran {vm : Vm} {source plain : Source} {options : EvalOptions} {asked : Bool}
      (ready : s.sandbox.state = .ready vm)
      (prepared : prepareSource s.sandbox.transpiler source options = (.ok plain, asked)) :
    Step s (.eval source options)
      ((s.sandbox.evalReady vm s.backend plain options.filenameOrDefault).result.map some)
      ⟨(s.sandbox.evalReady vm s.backend plain options.filenameOrDefault).sandbox,
        (s.sandbox.evalReady vm s.backend plain options.filenameOrDefault).backend⟩
  | disposed : Step s .dispose (.ok none) { s with sandbox := s.sandbox.dispose }

theorem step_init (allowed : s.sandbox.state.misuse? .init = none) :
    s.Step .init (s.perform .init).1 (s.perform .init).2 := by
  by_cases waits : s.sandbox.state.waits = true
  · rw [perform, Sandbox.init_of_waits waits]
    rcases s.sandbox.start_cases with ⟨e, start⟩ | start
    · rw [start]
      exact .failed waits start
    · have able : s.sandbox.start.1 = .ok () := by rw [start]
      rw [start]
      exact .started waits able
  · cases hs : s.sandbox.state with
    | ready vm =>
      rw [perform_init_ready hs]
      exact .again hs
    | disposed =>
      rw [hs] at allowed
      cases allowed
    | uninitialized | poisoned =>
      rw [hs] at waits
      exact absurd rfl waits

theorem step_eval {source : Source} {options : EvalOptions}
    (allowed : s.sandbox.state.misuse? (.eval source options) = none) :
    s.Step (.eval source options) (s.perform (.eval source options)).1
      (s.perform (.eval source options)).2 := by
  obtain ⟨vm, ready⟩ := SessionState.exists_ready allowed
  cases prepared : prepareSource s.sandbox.transpiler source options with
  | mk plain asked =>
    cases plain with
    | error message =>
      rw [perform, Sandbox.eval_of_unprepared ready prepared]
      exact .unprepared ready prepared
    | ok plain =>
      rw [perform_eval_eq ready prepared]
      exact .ran ready prepared

/-- Each operation does one of these. -/
theorem step (s : Session) (op : Operation) : s.Step op (s.perform op).1 (s.perform op).2 := by
  cases misuse : s.sandbox.state.misuse? op with
  | some e =>
    rw [perform_misused misuse]
    exact .misused misuse
  | none =>
    cases op with
    | init => exact step_init misuse
    | eval source options => exact step_eval misuse
    | dispose => exact .disposed

theorem Step.like (step : s.Step op reply t) : s.sandbox.Like t.sandbox := by
  cases step with
  | misused | again | failed => exact .refl
  | started | unprepared | disposed => exact ⟨rfl, rfl, rfl, rfl, rfl⟩
  | ran => exact Sandbox.conclude_like ..

/-- No operation changes the settings of a sandbox. -/
theorem perform_like (s : Session) (op : Operation) : s.sandbox.Like (s.perform op).2.sandbox :=
  (s.step op).like

theorem after_like (s : Session) (ops : List Operation) :
    s.sandbox.Like (s.after ops).sandbox :=
  after_induction (P := fun t => s.sandbox.Like t.sandbox)
    (fun t op like => like.trans (t.perform_like op)) ops .refl

end Session

/-! ### Evaluations -/

/-- The machine of a state, if it has one. -/
def SessionState.vm? : SessionState → Option Vm
  | ready vm | poisoned vm _ => some vm
  | _ => none

namespace Sandbox

variable (s : Sandbox) (vm : Vm) (filename : String) (result : Except ScriptFault Json)
  (m : Machine)

theorem vm?_conclude :
    (s.conclude vm filename result m).sandbox.state.vm? = some { vm with heap := m.heap } := by
  cases result with
  | ok value => rfl
  | error fault =>
    simp only [conclude]
    split <;> rfl

theorem namespaces_of_vm? {s : Sandbox} {vm : Vm} (hvm : s.state.vm? = some vm) :
    s.namespaces = vm.namespaces := by
  unfold namespaces
  cases hstate : s.state <;> simp_all [SessionState.vm?]

theorem backend_conclude : (s.conclude vm filename result m).backend = m.backend := by
  cases result <;> rfl

end Sandbox

/-- What holds across all calls holds across the run of a source, with all that follows it. -/
theorem runSource_preserves {P : Machine → Machine → Prop} (hP : Stepwise P) (host : Host)
    (calls : ∀ f how args m, P m (stateAfter (callAt host host.callDepth f how args m)))
    (source : Source) (m : Machine) : P m (runSource host source m).2 := by
  have ran := Computation.preserves hP calls (source.evaluate host) m
  unfold runSource runSourceBy
  split
  · next h => rwa [h] at ran
  · next e _ _ => exact nomatch e

/-- What is left when a script throws a value that nothing catches. -/
theorem runSource_of_thrown {host : Host} {source : Source} {m m₁ : Machine} {v : Value}
    (noNul : source.nulIndex? = none)
    (threw : (source.run host).run (callAt host host.callDepth) m = .error (.thrown v) m₁) :
    runSource host source m =
      match (thrownFault host.budget v).run (callAt host host.callDepth) m₁ with
      | .ok fault m₂ => (.error fault, m₂)
      | .error _ m₂ => (.error interruptedFault, m₂) := by
  unfold runSource runSourceBy Source.evaluate
  rw [noNul]
  simp only [Computation.run_sequel, threw]
  cases (thrownFault host.budget v).run (callAt host host.callDepth) m₁ <;> rfl

/-! ### Trails -/

/-- The spots that the run of a source depends on, with all that follows it. -/
def Host.trail (host : Host) (source : Source) (m : Machine) : List Spot :=
  (source.evaluate host).action.trail (callAt host host.callDepth) (callTrail host host.callDepth) m

end ScriptHost
