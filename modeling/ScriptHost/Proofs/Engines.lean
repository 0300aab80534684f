import ScriptHost.Proofs.Session

/-!
# Engines with a ceiling

Scripts run on an engine whose heap has a ceiling.  What counts towards it the engine alone knows:
what is alive, what is still to be collected, what a call needs for a moment.  So an engine is taken
as it comes, and only one thing is asked of it: that it does what a source says unless its heap gets
full.

* `Engine`, `Engine.Faithful`: engines, and what is asked of them;
* `Demand`, `Session.demand?`: what an operation needs the engine for;
* `Session.spots`: the spots that an operation depends on;
* `Running`, `Running.perform`, `Running.run`: sessions on an engine, one operation, and rows of them;
* `Running.trail`: the spots that a row of operations depends on;
* `Engine.estimating`, `Running.perform_estimating`: `Session.perform` is what an operation does on an
  engine that compares single pieces with the ceiling;
* `Engine.counting`: an engine that counts what is alive.
-/

namespace ScriptHost

/-! ### Engines -/

/-- What an evaluation comes to on an engine. -/
structure Evaluation (Memory : Type) where
  result : Except ScriptFault Json
  machine : Machine
  memory : Memory
  /-- Whether the heap got full on the way, or so full that a single piece did not fit by
  `Host.exceeds`. -/
  full : Bool

/-- What runs scripts, with an account of its heap. -/
structure Engine where
  /-- The account: all that takes room, alive or not. -/
  Memory : Type
  /-- The account of a new machine for scripts that find some namespaces, if the heap holds it. -/
  create : Host → Registry → Option Memory
  evaluate : Host → Memory → Source → Machine → Evaluation Memory

/-- Unless its heap gets full, an engine does what a source says. -/
def Engine.Faithful (e : Engine) : Prop :=
  ∀ host memory source m, (e.evaluate host memory source m).full = false →
    (e.evaluate host memory source m).result = (runSource host source m).1 ∧
      (e.evaluate host memory source m).machine = (runSource host source m).2

/-! ### What operations need an engine for -/

/-- What is asked of an engine. -/
inductive Demand
  /-- A machine. -/
  | create
  /-- The evaluation of a source that is prepared, on a machine. -/
  | evaluate (vm : Vm) (source : Source) (filename : String)

/-- What an operation asks of the engine, if anything. -/
def Session.demand? (s : Session) : Operation → Option Demand
  | .init => if s.sandbox.state.waits && s.sandbox.registry.fault?.isNone then some .create else none
  | .eval source options =>
    match s.sandbox.state with
    | .ready vm =>
      match (prepareSource s.sandbox.transpiler source options).1 with
      | .ok plain => some (.evaluate vm plain options.filenameOrDefault)
      | .error _ => none
    | _ => none
  | .dispose => none

/-- The spots that an operation depends on. -/
def Session.spots (s : Session) (op : Operation) : List Spot :=
  match s.demand? op with
  | some (.evaluate vm source _) => s.sandbox.host.trail source (s.sandbox.machine vm s.backend)
  | _ => []

section Demands

variable {s : Session} {op : Operation}

theorem Session.demand?_init (waits : s.sandbox.state.waits = true)
    (valid : s.sandbox.registry.fault? = none) : s.demand? .init = some .create := by
  simp [demand?, waits, valid]

theorem Session.demand?_eval {source plain : Source} {options : EvalOptions} {asked : Bool} {vm : Vm}
    (ready : s.sandbox.state = .ready vm)
    (prepared : prepareSource s.sandbox.transpiler source options = (.ok plain, asked)) :
    s.demand? (.eval source options) = some (.evaluate vm plain options.filenameOrDefault) := by
  simp [demand?, ready, prepared]

/-- A machine is asked for by an `init` that is to make one, under a table that keeps the rules. -/
theorem Session.eq_init_of_create (demand : s.demand? op = some .create) :
    op = .init ∧ s.sandbox.state.waits = true ∧ s.sandbox.registry.fault? = none := by
  cases op with
  | init =>
    simp only [demand?] at demand
    split at demand
    · next both =>
      rw [Bool.and_eq_true, Option.isNone_iff_eq_none] at both
      exact ⟨rfl, both⟩
    · cases demand
  | eval source options =>
    simp only [demand?] at demand
    split at demand
    · split at demand <;> cases demand
    · cases demand
  | dispose => cases demand

/-- An evaluation is asked for on a ready session, once the source is prepared. -/
theorem Session.exists_eval_of_evaluate {vm : Vm} {plain : Source} {filename : String}
    (demand : s.demand? op = some (.evaluate vm plain filename)) :
    ∃ source options asked, op = .eval source options ∧ s.sandbox.state = .ready vm ∧
      prepareSource s.sandbox.transpiler source options = (.ok plain, asked) ∧
      options.filenameOrDefault = filename := by
  cases op with
  | init =>
    simp only [demand?] at demand
    split at demand <;> cases demand
  | eval source options =>
    cases hs : s.sandbox.state with
    | ready vm' =>
      cases prepared : prepareSource s.sandbox.transpiler source options with
      | mk result asked =>
        cases result with
        | error message => simp [demand?, hs, prepared] at demand
        | ok plain' =>
          rw [demand?_eval hs prepared] at demand
          cases demand
          exact ⟨source, options, asked, rfl, rfl, prepared, rfl⟩
    | uninitialized | poisoned | disposed => simp [demand?, hs] at demand
  | dispose => cases demand

end Demands

/-! ### Sessions on an engine -/

/-- A session, and the account of its machine that an engine keeps. -/
structure Running (e : Engine) where
  session : Session
  memory : e.Memory

/-- The answer to an operation, and what it leaves. -/
structure Performed (e : Engine) where
  reply : Reply
  left : Running e
  /-- Whether the heap got full in an evaluation. -/
  full : Bool := false

/-- The session once it has its first machine. -/
def Session.opened (s : Session) : Session :=
  { s with sandbox := { s.sandbox with state := .ready s.sandbox.firstVm } }

namespace Running

variable {e : Engine}

/-- Asks the engine for a new machine. -/
def create (r : Running e) : Performed e :=
  match e.create r.session.sandbox.host r.session.sandbox.granted with
  | none => ⟨.error (.initializationFailed "null"), r, false⟩
  | some memory => ⟨.ok none, ⟨r.session.opened, memory⟩, false⟩

/-- Asks the engine for an evaluation. -/
def evaluate (r : Running e) (vm : Vm) (source : Source) (filename : String) : Performed e :=
  let s := r.session.sandbox
  let ran := e.evaluate s.host r.memory source (s.machine vm r.session.backend)
  let o := s.conclude vm filename (settle ran.result ran.machine.expired) ran.machine
  ⟨o.result.map some, ⟨⟨o.sandbox, o.backend⟩, ran.memory⟩, ran.full⟩

/-- What an operation does on an engine. -/
def perform (r : Running e) (op : Operation) : Performed e :=
  match r.session.demand? op with
  | none => ⟨(r.session.perform op).1, ⟨(r.session.perform op).2, r.memory⟩, false⟩
  | some .create => r.create
  | some (.evaluate vm source filename) => r.evaluate vm source filename

theorem perform_init {r : Running e} (waits : r.session.sandbox.state.waits = true)
    (valid : r.session.sandbox.registry.fault? = none) {memory : e.Memory}
    (fits : e.create r.session.sandbox.host r.session.sandbox.granted = some memory) :
    r.perform .init = ⟨.ok none, ⟨r.session.opened, memory⟩, false⟩ := by
  rw [perform, Session.demand?_init waits valid, create, fits]

theorem perform_eval {r : Running e} {vm : Vm} (ready : r.session.sandbox.state = .ready vm)
    {source plain : Source} {options : EvalOptions} {asked : Bool}
    (prepared : prepareSource r.session.sandbox.transpiler source options = (.ok plain, asked)) :
    r.perform (.eval source options) = r.evaluate vm plain options.filenameOrDefault := by
  rw [perform, Session.demand?_eval ready prepared]

/-- No operation changes the settings of the sandbox. -/
theorem perform_like (r : Running e) (op : Operation) :
    r.session.sandbox.Like (r.perform op).left.session.sandbox := by
  unfold perform
  cases r.session.demand? op with
  | none => exact r.session.perform_like op
  | some d =>
    cases d with
    | create =>
      simp only [create]
      split
      · exact .refl
      · exact ⟨rfl, rfl, rfl, rfl, rfl⟩
    | evaluate vm source filename => exact Sandbox.conclude_like ..

/-- What a row of operations does, one after the other. -/
def run : Running e → List Operation → List (Performed e)
  | _, [] => []
  | r, op :: ops => r.perform op :: (r.perform op).left.run ops

/-- The spots that a row of operations depends on. -/
def trail : Running e → List Operation → List Spot
  | _, [] => []
  | r, op :: ops => r.session.spots op ++ (r.perform op).left.trail ops

end Running

/-! ### An engine that compares single pieces -/

theorem Sandbox.evalReady_eq (s : Sandbox) (vm : Vm) (backend : Backend) (source : Source)
    (filename : String) :
    s.evalReady vm backend source filename =
      s.conclude vm filename
        (settle (runSource s.host source (s.machine vm backend)).1
          (runSource s.host source (s.machine vm backend)).2.expired)
        (runSource s.host source (s.machine vm backend)).2 := by
  unfold evalReady
  cases runSource s.host source (s.machine vm backend)
  rfl

/-- The engine of `Session.perform`: it compares single pieces with the ceiling, and the functions of
the capabilities only when they are made. -/
def Engine.estimating : Engine where
  Memory := Unit
  create host granted :=
    if host.exceeds (Sandbox.functionBytes * granted.methodCount) then none else some ()
  evaluate host _ source m := ⟨(runSource host source m).1, (runSource host source m).2, (), false⟩

theorem Engine.create_estimating_of_fits {host : Host} {granted : Registry}
    (fits : host.exceeds (Sandbox.functionBytes * granted.methodCount) = false) :
    estimating.create host granted = (some () : Option Unit) := by
  simp only [estimating, fits, Bool.false_eq_true, if_false]

theorem Engine.faithful_estimating : estimating.Faithful := fun _ _ _ _ _ => ⟨rfl, rfl⟩

namespace Running

/-- A session on this engine. -/
def estimated (s : Session) : Running .estimating := ⟨s, ()⟩

/-- Sessions on this engine do what `Session.perform` says. -/
theorem perform_estimating (r : Running .estimating) (op : Operation) :
    (r.perform op).reply = (r.session.perform op).1 ∧
      (r.perform op).left.session = (r.session.perform op).2 ∧ (r.perform op).full = false := by
  cases demand : r.session.demand? op with
  | none =>
    rw [perform, demand]
    exact ⟨rfl, rfl, rfl⟩
  | some d =>
    cases d with
    | create =>
      rw [perform, demand]
      obtain ⟨rfl, waits, valid⟩ := Session.eq_init_of_create demand
      rw [Session.perform, Sandbox.init_of_waits waits, create]
      cases exceeds : r.session.sandbox.host.exceeds
          (Sandbox.functionBytes * r.session.sandbox.granted.methodCount) with
      | true =>
        have refused : Engine.estimating.create r.session.sandbox.host r.session.sandbox.granted =
          none := if_pos exceeds
        rw [refused, Sandbox.start, valid, Sandbox.makeVm_of_exceeds exceeds]
        exact ⟨rfl, rfl, rfl⟩
      | false =>
        rw [Engine.create_estimating_of_fits exceeds, Sandbox.start, valid,
          Sandbox.makeVm_of_fits exceeds]
        exact ⟨rfl, rfl, rfl⟩
    | evaluate vm plain filename =>
      rw [perform, demand]
      obtain ⟨source, options, asked, rfl, ready, prepared, rfl⟩ :=
        Session.exists_eval_of_evaluate demand
      have ran (host : Host) (m : Machine) : Engine.estimating.evaluate host r.memory plain m =
        ⟨(runSource host plain m).1, (runSource host plain m).2, (), false⟩ := rfl
      rw [Session.perform_eval_eq ready prepared, Sandbox.evalReady_eq]
      simp only [evaluate, ran, and_self]

/-- The same of a row of operations, by induction on it. -/
theorem run_estimating (r : Running .estimating) (ops : List Operation) :
    (r.run ops).map Performed.reply = (r.session.events ops).map Prod.snd ∧
      ∀ a ∈ r.run ops, a.full = false := by
  induction ops generalizing r with
  | nil => simp [run, Session.events]
  | cons op ops ih =>
    obtain ⟨reply, left, roomy⟩ := perform_estimating r op
    obtain ⟨replies, later⟩ := ih (r.perform op).left
    rw [left] at replies
    constructor
    · simp only [run, Session.events, List.map_cons, reply, replies]
    · exact List.forall_mem_cons.2 ⟨roomy, later⟩

end Running

/-! ### An engine that counts what is alive -/

/-- The bytes of heap that an object takes. -/
def objectBytes : Nat := 64

/-- An engine that counts the functions of the capabilities, which stay alive, and every object that
scripts make.  A heap that gets full ends the evaluation. -/
def Engine.counting : Engine where
  Memory := Nat
  create host granted :=
    let taken := Sandbox.functionBytes * granted.methodCount
    if host.exceeds taken then none else some taken
  evaluate host taken source m :=
    let (result, n) := runSource host source m
    let taken := taken + objectBytes * (n.heap.objects.size - m.heap.objects.size)
    if host.exceeds taken then
      ⟨.error { kind := .outOfMemory, message := "out of memory" }, n, taken, true⟩
    else ⟨result, n, taken, false⟩

theorem Engine.create_counting_of_fits {host : Host} {granted : Registry}
    (fits : host.exceeds (Sandbox.functionBytes * granted.methodCount) = false) :
    counting.create host granted =
      (some (Sandbox.functionBytes * granted.methodCount) : Option Nat) := by
  simp only [counting, fits, Bool.false_eq_true, if_false]

section Counting

variable {host : Host} {source : Source} {m n : Machine} {result : Except ScriptFault Json}
  (ran : runSource host source m = (result, n))

include ran

theorem Engine.evaluate_counting_of_fits {taken : Nat}
    (fits : host.exceeds (taken + objectBytes * (n.heap.objects.size - m.heap.objects.size)) =
      false) :
    counting.evaluate host taken source m =
      ⟨result, n, taken + objectBytes * (n.heap.objects.size - m.heap.objects.size), false⟩ := by
  simp only [counting, ran, fits, Bool.false_eq_true, if_false]

theorem Engine.evaluate_counting_of_exceeds {taken : Nat}
    (exceeds : host.exceeds (taken + objectBytes * (n.heap.objects.size - m.heap.objects.size)) =
      true) :
    counting.evaluate host taken source m =
      ⟨.error { kind := .outOfMemory, message := "out of memory" }, n,
        taken + objectBytes * (n.heap.objects.size - m.heap.objects.size), true⟩ := by
  simp only [counting, ran, exceeds, if_true]

end Counting

theorem Engine.faithful_counting : counting.Faithful := by
  intro host (taken : Nat) source m roomy
  obtain ⟨result, n, ran⟩ : ∃ result n, runSource host source m = (result, n) := ⟨_, _, rfl⟩
  cases exceeds : host.exceeds
      (taken + objectBytes * (n.heap.objects.size - m.heap.objects.size)) with
  | true =>
    rw [evaluate_counting_of_exceeds ran exceeds] at roomy
    cases roomy
  | false =>
    rw [evaluate_counting_of_fits ran exceeds, ran]
    exact ⟨rfl, rfl⟩

end ScriptHost
