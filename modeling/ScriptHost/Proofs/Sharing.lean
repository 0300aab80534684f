import Mathlib.Logic.Function.Basic
import ScriptHost.Proofs.Alike
import ScriptHost.Proofs.Routes

/-!
# Sandboxes that share a backend

A backend answers from what it was given, not from the calls that it has got.  So sandboxes that use
the same backend in turns do not notice each other, and its calls are those that each of them would
have made alone.

* `Backend.AnswersAs`, `Backend.InStep`: backends that differ in their calls, and how they go on;
* `Capability.Oblivious`, `Registry.Oblivious`: actions to which the calls so far make no difference;
* `callAt_inStep`, `Session.perform_inStep`: calls and operations make none then either;
* `Session.callRows`: the calls that each operation of a row makes;
* `Party`: sandboxes with one backend, and rows of operations on them;
* `Party.Isolated`, `Party.isolated`: what each sandbox of a party answers, and the calls it makes.
-/

namespace ScriptHost

/-! ### Backends -/

namespace Backend

/-- Backends with the same responses and failures. -/
structure AnswersAs (b c : Backend) : Prop where
  responses : c.responses = b.responses
  failures : c.failures = b.failures

/-- The backend after some more calls. -/
def adding (b : Backend) (more : List Call) : Backend :=
  { b with calls := b.calls ++ more.toArray }

/-- Two backends have got the same calls since they were `b` and `c`. -/
def InStep (b c b' c' : Backend) : Prop := ∃ more, b' = b.adding more ∧ c' = c.adding more

variable {b c b' c' b'' c'' : Backend}

@[simp] theorem adding_nil (b : Backend) : b.adding [] = b := by simp [adding]

@[simp] theorem adding_adding (b : Backend) (first second : List Call) :
    (b.adding first).adding second = b.adding (first ++ second) := by
  simp [adding]

theorem AnswersAs.refl (b : Backend) : b.AnswersAs b := ⟨rfl, rfl⟩

theorem AnswersAs.adding (same : b.AnswersAs c) (first second : List Call) :
    (b.adding first).AnswersAs (c.adding second) := ⟨same.responses, same.failures⟩

namespace InStep

theorem refl (b c : Backend) : InStep b c b c := ⟨[], by simp, by simp⟩

theorem trans (first : InStep b c b' c') (second : InStep b' c' b'' c'') : InStep b c b'' c'' := by
  obtain ⟨more, rfl, rfl⟩ := first
  obtain ⟨still, rfl, rfl⟩ := second
  exact ⟨more ++ still, by simp, by simp⟩

theorem answersAs (inStep : InStep b c b' c') (same : b.AnswersAs c) : b'.AnswersAs c' := by
  obtain ⟨more, rfl, rfl⟩ := inStep
  exact same.adding more more

end InStep

end Backend

/-! ### Tables -/

/-- Whether the calls so far make no difference to an action: it answers the same whatever they are,
and makes the same calls after them. -/
def Capability.Oblivious {α : Type} (x : Capability α) : Prop :=
  ∀ b c : Backend, b.AnswersAs c → Alike (Backend.InStep b c) (x b) (x c)

/-- To an action that only asks the backend the calls so far make no difference. -/
theorem Capability.Asks.oblivious {α : Type} {ns method : String} {x : Capability α}
    (asks : x.Asks ns method) : x.Oblivious := by
  induction asks with
  | pure a => exact fun b c _ => .ok a (.refl b c)
  | throw e => exact fun b c _ => .error e (.refl b c)
  | respond args default =>
    intro b c same
    have asked : Backend.InStep b c { b with calls := b.calls.push ⟨ns, method, args⟩ }
        { c with calls := c.calls.push ⟨ns, method, args⟩ } :=
      ⟨[⟨ns, method, args⟩], by simp [Backend.adding], by simp [Backend.adding]⟩
    simp only [Capability.respond, same.failures, same.responses] at asked ⊢
    cases b.failures.lookup (qualifiedName ns method) with
    | some e => exact .error e asked
    | none => exact .ok _ asked
  | @bind _ _ x next _ _ first rest =>
    intro b c same
    have begun := first b c same
    simp only [Bind.bind, EStateM.bind]
    generalize x b = left at begun
    generalize x c = right at begun
    cases begun with
    | error e met => exact .error e met
    | @ok b' c' a met =>
      have ended := rest a b' c' (met.answersAs same)
      show Alike _ (next a b') (next a c')
      generalize next a b' = left at ended
      generalize next a c' = right at ended
      cases ended with
      | ok d further => exact .ok d (met.trans further)
      | error e further => exact .error e (met.trans further)

/-- Whether the calls so far make no difference to any action of a table. -/
def Registry.Oblivious (rows : Registry) : Prop :=
  ∀ ns ∈ rows, ∀ m ∈ ns.methods, ∀ given, (m.invoke.call given).Oblivious

theorem Registry.oblivious_builtin : Registry.builtin.Oblivious := fun ns hns m hm given =>
  (Registry.asks_builtin ns hns m hm given).oblivious

/-! ### Calls -/

/-- Machines whose backends have got the same calls since they were `b` and `c`, and that differ in
nothing else. -/
structure Machine.InStep (b c : Backend) (m n : Machine) : Prop where
  seen : n = { m with backend := n.backend }
  backends : b.InStep c m.backend n.backend

section Calls

variable {b c : Backend}

theorem hidden_inStep (b c : Backend) : Hidden (Machine.InStep b c) where
  seen h := by rw [h.seen]
  step h _ _ _ _ := ⟨by rw [h.seen], h.backends⟩

/-- What a console does has nothing to do with the backend. -/
theorem logCall_inStep {apply : Apply} {trails : CallTrail}
    (calls : ∀ f how args m n, Machine.InStep b c m n →
      Clear (fun _ => False) (trails f how args m) →
      Alike (Machine.InStep b c) (apply f how args m) (apply f how args n))
    (budget : Budget) (level : LogLevel) (args : List Value) {m n : Machine}
    (hmn : Machine.InStep b c m n) :
    Alike (Machine.InStep b c) (logCall budget level args apply m)
      (logCall budget level args apply n) := by
  have logs {m n : Machine} (hmn : Machine.InStep b c m n) : n.logs = m.logs := by rw [hmn.seen]
  unfold logCall
  simp only [Service.run_bind, Service.run_readLogs, logs hmn]
  cases m.logs.remaining? with
  | none => exact .ok _ hmn
  | some room =>
    refine .bind (Computation.alike (hidden_inStep b c).blind calls _ hmn)
      (fun js m' n' hmn' _ => .ok _ ⟨?_, hmn'.backends⟩) (.nothing _)
    rw [hmn'.seen]

/-- Where the calls so far make no difference to the rows, they make none to a call of any function.
The induction is on how deep calls may nest. -/
theorem callAt_inStep (host : Host) (oblivious : host.registry.Oblivious) (same : b.AnswersAs c)
    (depth : Nat) (f : Value) (how : Invocation) (args : List Value) {m n : Machine}
    (hmn : Machine.InStep b c m n) :
    Alike (Machine.InStep b c) (callAt host depth f how args m) (callAt host depth f how args n) := by
  have blind := (hidden_inStep b c).blind
  induction depth generalizing f how args m n with
  | zero => exact Computation.alike_none blind stackExceeded hmn (.nothing _)
  | succ depth ih =>
    have calls (f how args) (m n : Machine) (hmn : Machine.InStep b c m n)
        (_ : Clear (fun _ => False) (callTrail host depth f how args m)) :
        Alike (Machine.InStep b c) (callAt host depth f how args m)
          (callAt host depth f how args n) := ih f how args hmn
    have heap : n.heap = m.heap := (hidden_inStep b c).heap hmn
    show Alike _ (callValue host f how args (callAt host depth) m)
      (callValue host f how args (callAt host depth) n)
    rcases callValue_cases host how args f m.heap with ⟨s, run⟩ |
      ⟨name, method, row, -, found, run⟩ | ⟨level, this, -, -, run⟩
    · rw [run _ m rfl, run _ n heap]
      exact Computation.alike blind calls s hmn (.nothing _)
    · rw [run _ m rfl, run _ n heap]
      obtain ⟨ns, hns, -, hrow, -⟩ := Registry.mem_of_row? found
      refine dispatch_alike blind calls _ name row args (fun m n given hmn => ?_) hmn (.nothing _)
      -- the backends hold different calls by now, but the same ones since the start
      have acted := oblivious ns hns row hrow given _ _ (hmn.backends.answersAs same)
      generalize row.invoke.call given m.backend = left at acted
      generalize row.invoke.call given n.backend = right at acted
      cases acted with
      | ok j met => exact .ok j ⟨by rw [hmn.seen], hmn.backends.trans met⟩
      | error e met => exact .error e ⟨by rw [hmn.seen], hmn.backends.trans met⟩
    · rw [run _ m rfl, run _ n heap]
      exact logCall_inStep calls _ level args hmn

/-- Evaluations end the same way. -/
theorem runSource_inStep (host : Host) (oblivious : host.registry.Oblivious) (same : b.AnswersAs c)
    (source : Source) {m n : Machine} (hmn : Machine.InStep b c m n) :
    (runSource host source m).1 = (runSource host source n).1 ∧
      Machine.InStep b c (runSource host source m).2 (runSource host source n).2 := by
  have calls (f how args) (m n : Machine) (hmn : Machine.InStep b c m n)
      (_ : Clear (fun _ => False) (callTrail host host.callDepth f how args m)) :=
    callAt_inStep host oblivious same host.callDepth f how args hmn
  exact runSourceBy_alike (hidden_inStep b c).blind calls host source hmn (.nothing _)

end Calls

/-! ### Operations -/

namespace Session

variable {s t : Session}

/-- One sandbox with two backends that give the same answers. -/
structure Twins (s t : Session) : Prop where
  sandbox : t.sandbox = s.sandbox
  backend : s.backend.AnswersAs t.backend
  oblivious : s.sandbox.registry.Oblivious

/-- What an operation on each of two twins comes to: the same answer, the same sandbox, and the same
calls. -/
structure Abreast (s t : Session) (left right : Reply × Session) : Prop where
  reply : right.1 = left.1
  sandbox : right.2.sandbox = left.2.sandbox
  backend : s.backend.InStep t.backend left.2.backend right.2.backend

theorem abreast_of_sandbox (s t : Session) (reply : Reply) (box : Sandbox) :
    Abreast s t (reply, { s with sandbox := box }) (reply, { t with sandbox := box }) :=
  ⟨rfl, rfl, .refl _ _⟩

theorem abreast_conclude {m n : Machine} (hmn : Machine.InStep s.backend t.backend m n)
    (box : Sandbox) (vm : Vm) (filename : String) (result : Except ScriptFault Json) :
    Abreast s t
      ((box.conclude vm filename result m).result.map some,
        ⟨(box.conclude vm filename result m).sandbox, (box.conclude vm filename result m).backend⟩)
      ((box.conclude vm filename result n).result.map some,
        ⟨(box.conclude vm filename result n).sandbox, (box.conclude vm filename result n).backend⟩) := by
  obtain ⟨seen, backends⟩ := hmn
  rw [seen]
  cases result with
  | ok value => exact ⟨rfl, rfl, backends⟩
  | error fault => exact ⟨rfl, rfl, backends⟩

theorem abreast_eval (twins : s.Twins t) (source : Source) (options : EvalOptions) :
    Abreast s t (s.perform (.eval source options)) (t.perform (.eval source options)) := by
  have same := twins.sandbox
  cases misuse : s.sandbox.state.misuse? (.eval source options) with
  | some e =>
    rw [perform_misused misuse, perform_misused (same ▸ misuse)]
    exact ⟨rfl, same, .refl _ _⟩
  | none =>
    obtain ⟨vm, hs⟩ := SessionState.exists_ready misuse
    simp only [perform, Sandbox.eval, same, hs]
    generalize prepareSource s.sandbox.transpiler source options = prepared
    obtain ⟨plain, asked⟩ := prepared
    cases plain with
    | error message => exact ⟨rfl, rfl, .refl _ _⟩
    | ok plain =>
      have start : Machine.InStep s.backend t.backend (s.sandbox.machine vm s.backend)
          (s.sandbox.machine vm t.backend) := ⟨rfl, .refl _ _⟩
      obtain ⟨result, met⟩ :=
        runSource_inStep s.sandbox.host twins.oblivious twins.backend plain start
      have expired : (runSource s.sandbox.host plain (s.sandbox.machine vm t.backend)).2.expired =
          (runSource s.sandbox.host plain (s.sandbox.machine vm s.backend)).2.expired := by
        rw [met.seen]
      simp only [Sandbox.evalReady, ← result, expired]
      exact abreast_conclude met _ vm _ _

/-- What any operation on twins comes to. -/
theorem abreast_perform (twins : s.Twins t) (op : Operation) :
    Abreast s t (s.perform op) (t.perform op) := by
  cases op with
  | init =>
    simp only [perform, twins.sandbox]
    exact abreast_of_sandbox s t _ _
  | eval source options => exact abreast_eval twins source options
  | dispose =>
    simp only [perform, twins.sandbox]
    exact abreast_of_sandbox s t _ _

/-! ### Rows of operations -/

/-- The calls that an operation makes. -/
def newCalls (s : Session) (op : Operation) : List Call :=
  (s.perform op).2.backend.calls.toList.drop s.backend.calls.size

/-- The calls that each operation of a row makes. -/
def callRows : Session → List Operation → List (List Call)
  | _, [] => []
  | s, op :: ops => s.newCalls op :: (s.perform op).2.callRows ops

/-- The calls of an operation are all that it does to the backend. -/
theorem backend_perform (oblivious : s.sandbox.registry.Oblivious) (op : Operation) :
    (s.perform op).2.backend = s.backend.adding (s.newCalls op) := by
  obtain ⟨more, made, -⟩ := (abreast_perform ⟨rfl, .refl s.backend, oblivious⟩ op).backend
  have new : s.newCalls op = more := by simp [newCalls, made, Backend.adding]
  rw [new, made]

/-- Twins make the same calls. -/
theorem newCalls_twins (twins : s.Twins t) (op : Operation) : t.newCalls op = s.newCalls op := by
  obtain ⟨more, left, right⟩ := (abreast_perform twins op).backend
  simp [newCalls, left, right, Backend.adding]

/-- Twins stay twins, also when only one of them gets on. -/
theorem Twins.next (twins : s.Twins t) (op : Operation) :
    (s.perform op).2.Twins (t.perform op).2 :=
  have met := abreast_perform twins op
  ⟨met.sandbox, met.backend.answersAs twins.backend,
    (s.perform_like op).registry ▸ twins.oblivious⟩

theorem events_twins (twins : s.Twins t) (ops : List Operation) : t.events ops = s.events ops := by
  induction ops generalizing s t with
  | nil => rfl
  | cons op ops ih => simp only [events, (abreast_perform twins op).reply, ih (twins.next op)]

theorem callRows_twins (twins : s.Twins t) (ops : List Operation) :
    t.callRows ops = s.callRows ops := by
  induction ops generalizing s t with
  | nil => rfl
  | cons op ops ih => simp only [callRows, newCalls_twins twins op, ih (twins.next op)]

theorem sandbox_after_twins (twins : s.Twins t) (ops : List Operation) :
    (t.after ops).sandbox = (s.after ops).sandbox := by
  induction ops generalizing s t with
  | nil => exact twins.sandbox
  | cons op ops ih => exact ih (twins.next op)

/-- The calls of a row of operations are all that it does to the backend. -/
theorem backend_after (oblivious : s.sandbox.registry.Oblivious) (ops : List Operation) :
    (s.after ops).backend = s.backend.adding (s.callRows ops).flatten := by
  induction ops generalizing s with
  | nil => simp [callRows]
  | cons op ops ih =>
    rw [after_cons, ih ((s.perform_like op).registry ▸ oblivious), backend_perform oblivious,
      Backend.adding_adding]
    rfl

end Session

/-! ### Parties -/

/-- The items of a row that belong to `i`, in their order. -/
def shareOf {ι α : Type} [DecidableEq ι] (i : ι) (row : List (ι × α)) : List α :=
  row.filterMap fun x => if x.1 = i then some x.2 else none

section Shares

variable {ι α : Type} [DecidableEq ι] {i j : ι} (a : α) (row : List (ι × α))

theorem shareOf_cons_self : shareOf i ((i, a) :: row) = a :: shareOf i row :=
  List.filterMap_cons_some (if_pos rfl)

theorem shareOf_cons_of_ne (other : j ≠ i) : shareOf i ((j, a) :: row) = shareOf i row :=
  List.filterMap_cons_none (if_neg other)

end Shares

/-- Sandboxes with one backend for all. -/
structure Party (ι : Type) where
  sandbox : ι → Sandbox
  backend : Backend

namespace Party

variable {ι : Type} [DecidableEq ι]

/-- One of the sandboxes alone, with a copy of the backend. -/
def alone (p : Party ι) (i : ι) : Session := ⟨p.sandbox i, p.backend⟩

/-- The answer to an operation on one of the sandboxes, and the party after it. -/
def perform (p : Party ι) (i : ι) (op : Operation) : Reply × Party ι :=
  let (reply, s) := (p.alone i).perform op
  (reply, ⟨Function.update p.sandbox i s.sandbox, s.backend⟩)

/-- The party after a row of operations. -/
def after (p : Party ι) (steps : List (ι × Operation)) : Party ι :=
  steps.foldl (fun p step => (p.perform step.1 step.2).2) p

/-- The operations of a row with their answers. -/
def events : Party ι → List (ι × Operation) → List (ι × Operation × Reply)
  | _, [] => []
  | p, (i, op) :: steps => (i, op, (p.perform i op).1) :: (p.perform i op).2.events steps

/-- The calls that each operation of a row makes. -/
def callRows : Party ι → List (ι × Operation) → List (ι × List Call)
  | _, [] => []
  | p, (i, op) :: steps => (i, (p.alone i).newCalls op) :: (p.perform i op).2.callRows steps

/-- What holds of a party after a row of operations on its sandboxes. -/
structure Isolated (start : Party ι) (steps : List (ι × Operation)) : Prop where
  /-- Each sandbox answers as if it were alone. -/
  answers : ∀ i, shareOf i (start.events steps) = (start.alone i).events (shareOf i steps)
  /-- Each is then as if it had been alone. -/
  sandboxes : ∀ i, (start.after steps).sandbox i = ((start.alone i).after (shareOf i steps)).sandbox
  /-- Each operation of a sandbox makes the calls that it would have made alone. -/
  calls : ∀ i, shareOf i (start.callRows steps) = (start.alone i).callRows (shareOf i steps)
  /-- Alone, a sandbox leaves nothing on the backend but these. -/
  own : ∀ i, ((start.alone i).after (shareOf i steps)).backend =
    start.backend.adding ((start.alone i).callRows (shareOf i steps)).flatten
  /-- All calls, one operation after the other, are what the party leaves there. -/
  shared : (start.after steps).backend =
    start.backend.adding ((start.callRows steps).map Prod.snd).flatten

variable {p : Party ι}

/-- A sandbox that does an operation gets on as if it were alone. -/
theorem alone_perform_self (i : ι) (op : Operation) :
    (p.perform i op).2.alone i = ((p.alone i).perform op).2 := by
  simp [perform, alone]

/-- To all the others, only some calls are new. -/
theorem twins_alone_perform {i j : ι} (other : j ≠ i)
    (oblivious : ∀ i, (p.sandbox i).registry.Oblivious) (op : Operation) :
    (p.alone j).Twins ((p.perform i op).2.alone j) where
  sandbox := by simp [perform, alone, Function.update_of_ne other]
  backend := by
    have made := Session.backend_perform (s := p.alone i) (oblivious i) op
    show p.backend.AnswersAs ((p.alone i).perform op).2.backend
    rw [made]
    exact ⟨rfl, rfl⟩
  oblivious := oblivious j

theorem oblivious_perform (oblivious : ∀ i, (p.sandbox i).registry.Oblivious) (i : ι)
    (op : Operation) (j : ι) : ((p.perform i op).2.sandbox j).registry.Oblivious := by
  by_cases self : j = i
  · subst self
    have kept := ((p.alone j).perform_like op).registry
    rw [← alone_perform_self] at kept
    exact kept ▸ oblivious j
  · have same : (p.perform i op).2.sandbox j = p.sandbox j :=
      (twins_alone_perform self oblivious op).sandbox
    exact same ▸ oblivious j

theorem after_cons (p : Party ι) (i : ι) (op : Operation) (steps : List (ι × Operation)) :
    p.after ((i, op) :: steps) = (p.perform i op).2.after steps := rfl

/-- One operation more, before all others, on one of the sandboxes. -/
theorem Isolated.cons (oblivious : ∀ i, (p.sandbox i).registry.Oblivious) {i : ι} {op : Operation}
    {steps : List (ι × Operation)} (later : (p.perform i op).2.Isolated steps) :
    p.Isolated ((i, op) :: steps) where
  answers j := by
    have rest := later.answers j
    by_cases self : i = j
    · subst self
      rw [alone_perform_self] at rest
      rw [events, shareOf_cons_self, shareOf_cons_self, rest]
      rfl
    · -- the others go on from where they were, but with calls on the backend that are not theirs
      rw [events, shareOf_cons_of_ne _ _ self, shareOf_cons_of_ne _ _ self, rest]
      exact Session.events_twins (twins_alone_perform (Ne.symm self) oblivious op) _
  sandboxes j := by
    have rest := later.sandboxes j
    by_cases self : i = j
    · subst self
      rw [alone_perform_self] at rest
      rw [after_cons, shareOf_cons_self, rest]
      rfl
    · rw [after_cons, shareOf_cons_of_ne _ _ self, rest]
      exact Session.sandbox_after_twins (twins_alone_perform (Ne.symm self) oblivious op) _
  calls j := by
    have rest := later.calls j
    by_cases self : i = j
    · subst self
      rw [alone_perform_self] at rest
      rw [callRows, shareOf_cons_self, shareOf_cons_self, rest]
      rfl
    · rw [callRows, shareOf_cons_of_ne _ _ self, shareOf_cons_of_ne _ _ self, rest]
      exact Session.callRows_twins (twins_alone_perform (Ne.symm self) oblivious op) _
  own j := Session.backend_after (oblivious j) _
  shared := by
    have made : (p.perform i op).2.backend = p.backend.adding ((p.alone i).newCalls op) :=
      Session.backend_perform (s := p.alone i) (oblivious i) op
    rw [after_cons, later.shared, made, Backend.adding_adding, callRows, List.map_cons,
      List.flatten_cons]

/-- Sandboxes that share a backend are isolated from each other, however their operations are mixed,
if the calls so far make no difference to their tables; to the built-in table, which every
configuration gives, they make none.  The induction is on the row of operations. -/
theorem isolated :
    (∀ c s, Sandbox.ofConfig c = .ok s → s.registry.Oblivious) ∧
      ∀ {ι : Type} [DecidableEq ι] (start : Party ι),
        (∀ i, (start.sandbox i).registry.Oblivious) → ∀ steps, start.Isolated steps := by
  refine ⟨fun c s made => ?_, fun {ι} _ start oblivious steps => ?_⟩
  · unfold Sandbox.ofConfig at made
    split at made
    · cases made
      exact Registry.oblivious_builtin
    · cases made
  · induction steps generalizing start with
    | nil =>
      exact ⟨fun _ => rfl, fun _ => rfl, fun _ => rfl, fun i => Session.backend_after (oblivious i) _,
        by simp [after, callRows]⟩
    | cons step steps ih =>
      obtain ⟨i, op⟩ := step
      exact .cons oblivious (ih _ (oblivious_perform oblivious i op))

/-- Two sandboxes with different permissions.  The scripts of each find one capability, and that of
the second fails. -/
def pair : Party Bool where
  sandbox second :=
    { Sandbox.ofDefaults with
      permissions := if second then .full else .defaults
      state := .ready ⟨heapWith (if second then "active" else "list"), ["model"]⟩ }
  backend := Backend.empty.withFailure "model.active" (.backend "gone")
where
  /-- A heap with a capability under a global name. -/
  heapWith (method : String) : Heap :=
    ((do
      let f ← Building.add (functionObject (.capability "model" method) (.unicode method) 0)
      Building.define globalRef "ask" (.plain (.object f))) : Building Unit).run Heap.bare |>.2

/-- An evaluation that calls the capability. -/
def askOnce : Operation :=
  .eval (.program none { body := [.eval (.invoke (.variable "ask") [])] }) {}

/-- The second sandbox fails and is disposed of between two evaluations of the first. -/
theorem isolated_pair :
    (∀ i, (pair.sandbox i).registry.Oblivious) ∧
      pair.Isolated [(false, askOnce), (true, askOnce), (true, .dispose), (true, askOnce), (false, askOnce)] ∧
      (pair.callRows [(false, askOnce), (true, askOnce), (true, .dispose), (true, askOnce),
          (false, askOnce)]).map (fun row => (row.1, row.2.map Call.method)) =
        [(false, ["list"]), (true, ["active"]), (true, []), (true, []), (false, ["list"])] :=
  have oblivious (i : Bool) : (pair.sandbox i).registry.Oblivious := Registry.oblivious_builtin
  ⟨oblivious, isolated.2 pair oblivious _, by decide +kernel⟩

end Party

end ScriptHost
