import ScriptHost.Proofs.ConsoleCalls
import ScriptHost.Proofs.Inert
import ScriptHost.Proofs.InStep
import ScriptHost.Proofs.Transcript

/-!
# Logs that scripts cannot see

Sessions whose consoles have other caps convert more or less of what is logged.  As long as that is
read in silence, their scripts cannot tell.

* `Watch`, `watchedAt`: a check of the arguments of console calls, and calls that are stopped by it;
* `paired_watchedAt`: under such a check, calls keep in step whatever the consoles hold;
* `Session.relogged`: the session that differs only in its console;
* `Session.inTime`: whether all evaluations of a row of operations come to their end in time;
* `Session.Unseen`, `Session.unseen`: rows of operations on such sessions have the same answers and
  effects;
* `Session.message_is_seen`: an error whose message is made when it is read gives the console away.
-/

namespace ScriptHost

/-! ### Calls -/

/-- A check of the arguments of console calls, where calls may nest so deep.  What passes is read in
silence; whether it is makes such a check itself. -/
structure Watch where
  passes : Host → Nat → Heap → List Value → Bool
  sound : ∀ host depth h args, passes host depth h args = true → h.Silent (callAt host depth) args

/-- Values pass that lead to inert objects only. -/
def Watch.data : Watch where
  passes _ _ h args := h.keepsData args
  sound _ _ _ _ passes _ := Scene.steady_of_keepsData passes

/-- Calls a value, where calls may nest so deep.  Time is up at a call of the console whose
arguments do not pass. -/
def watchedAt (watch : Watch) (host : Host) : Nat → Apply
  | 0, _, _, _ => (stackExceeded : Script Value).run .none
  | depth + 1, f, how, args => fun m =>
    match m.heap.console? f, how with
    | some _, .plain _ =>
      if watch.passes host depth m.heap args then callAt host (depth + 1) f how args m
      else .ok .undefined { m with expired := true }
    | _, _ => callValue host f how args (watchedAt watch host depth) m

section Calls

variable {m n : Machine}

theorem lasting_callValue (host : Host) (f : Value) (how : Invocation) (args : List Value) :
    (callValue host f how args).Lasting := by
  intro apply calls m late
  rcases callValue_cases host how args f m.heap with ⟨s, run⟩ | ⟨ns, method, row, -, -, run⟩ |
    ⟨level, this, -, -, run⟩
  · rw [run apply m rfl]
    exact s.composed.lasting apply calls m late
  · rw [run apply m rfl]
    exact (even_dispatch _ ns row args).lasting apply calls m late
  · rw [run apply m rfl]
    exact lasting_logCall _ level args apply calls m late

theorem lasting_callAt (host : Host) (depth : Nat) : (callAt host depth).Lasting := by
  induction depth with
  | zero =>
    exact fun _ _ _ m late => (Computation.composed stackExceeded).lasting .none lasting_none m late
  | succ depth ih => exact fun f how args m late => lasting_callValue host f how args _ ih m late

/-- Calls of the console keep in step if their arguments are read in silence. -/
theorem logCall_abreast {first second : Apply} (budget : Budget) (level : LogLevel)
    {args : List Value} (hmn : InStep m n) (left : m.heap.Silent first args)
    (right : n.heap.Silent second args) :
    Abreast (logCall budget level args first m) (logCall budget level args second n) := by
  obtain ⟨m', called, absorbed⟩ := ConsoleCall.absorbed budget level args first m
  obtain ⟨n', called', absorbed'⟩ := ConsoleCall.absorbed budget level args second n
  have same := (absorbed.silent left).1
  have same' := (absorbed'.silent right).1
  rw [called, called']
  cases late : m'.expired with
  | true => exact .left late
  | false =>
    cases late' : n'.expired with
    | true => exact .right late'
    | false =>
      refine .same (.ok _ ⟨late, ?_⟩)
      rw [same', hmn.same, same, late, late']

/-- Calls keep in step with those that a check stops.  The induction is on how deep calls may
nest. -/
theorem paired_watchedAt (watch : Watch) (host : Host) (depth : Nat) :
    (watchedAt watch host depth).Paired (callAt host depth) := by
  induction depth with
  | zero =>
    have even : (Computation.action (stackExceeded : Script Value)).Even := Computation.even _
    exact ⟨fun _ _ _ m late => even.lasting .none lasting_none m late, lasting_callAt host 0,
      fun _ _ _ m n hmn => even.abreast .none .none paired_none m n hmn⟩
  | succ depth ih =>
    refine ⟨fun f how args m late => ?_, lasting_callAt host (depth + 1),
      fun f how args m n hmn => ?_⟩
    · unfold watchedAt
      split
      · split
        · exact lasting_callAt host (depth + 1) f _ args m late
        · rfl
      · exact lasting_callValue host f _ args _ ih.left m late
    · show Abreast _ (callValue host f how args (callAt host depth) n)
      unfold watchedAt
      split
      · next level this found =>
        -- what passes is silent on both sides, since they have one heap; what does not is late
        split
        · next passes =>
          have silent := watch.sound host depth m.heap args passes
          have holds := holds_of_console? found
          show Abreast (callValue host f (.plain this) args (callAt host depth) m) _
          rw [callValue_console host holds, callValue_console host (hmn.heap ▸ holds)]
          exact logCall_abreast _ level hmn silent (hmn.heap ▸ silent)
        · exact .left rfl
      · next how _ _ other =>
        rcases callValue_cases host how args f m.heap with ⟨s, run⟩ |
          ⟨ns, method, row, -, -, run⟩ | ⟨level, this, holds, plain, -⟩
        · rw [run _ m rfl, run _ n hmn.heap]
          exact s.even.abreast _ _ ih m n hmn
        · rw [run _ m rfl, run _ n hmn.heap]
          exact (even_dispatch _ ns row args).abreast _ _ ih m n hmn
        · exact (other level this (console?_of_holds holds) plain).elim

end Calls

/-- How scripts call functions from the outermost level. -/
def Host.calls (host : Host) : Apply := callAt host host.callDepth

/-- The same, under a check of what is logged. -/
def Watch.calls (watch : Watch) (host : Host) : Apply := watchedAt watch host host.callDepth

/-! ### Sessions -/

/-- The answer without the logs in it. -/
def Reply.unlogged : Reply → Reply
  | .ok (some success) => .ok (some { success with logs := [] })
  | .error (.script fault) => .error (.script { fault with logs := [] })
  | reply => reply

/-- The value in the answer to an evaluation that ended well. -/
def Reply.value? : Reply → Option Json
  | .ok (some success) => some success.value
  | _ => none

/-- The sandbox with another console buffer. -/
def Sandbox.relogged (s : Sandbox) (b : LogBuffer) : Sandbox := { s with logs := b }

namespace Session

/-- The session with another console buffer. -/
def relogged (s : Session) (b : LogBuffer) : Session := { s with sandbox := s.sandbox.relogged b }

/-- The source that an operation runs, with the machine that it begins on, if it runs one. -/
def run? (s : Session) : Operation → Option (Source × Machine)
  | .eval source options =>
    match s.sandbox.state with
    | .ready vm =>
      match (prepareSource s.sandbox.transpiler source options).1 with
      | .ok plain => some (plain, s.sandbox.machine vm s.backend)
      | .error _ => none
    | _ => none
  | _ => none

/-- Whether an operation comes to its end in time, where functions are called so. -/
def endsInTime (s : Session) (calls : Host → Apply) (op : Operation) : Bool :=
  match s.run? op with
  | some (plain, m) => !(runSourceBy (calls s.sandbox.host) s.sandbox.host plain m).2.expired
  | none => true

/-- Whether all operations of a row do. -/
def inTime (calls : Host → Apply) : Session → List Operation → Bool
  | _, [] => true
  | s, op :: ops => s.endsInTime calls op && (s.perform op).2.inTime calls ops

/-- What a session has in common with the one that has another console buffer, when a row of
operations is over. -/
structure Unseen (s : Session) (b : LogBuffer) (ops : List Operation) : Prop where
  /-- All answers are the same but for the logs. -/
  replies : ((s.relogged b).events ops).map (fun e => e.2.unlogged) =
    (s.events ops).map fun e => e.2.unlogged
  /-- So is all that they leave behind but the buffer: the state, with the heap and its globals, and
  the backend with the calls that it has served. -/
  leaves : ∃ b', (s.relogged b).after ops = (s.after ops).relogged b'
  /-- A call of the console gives undefined, whatever its arguments are and whatever the buffer
  holds, and adds no more than one entry. -/
  console : ∀ depth level f this args m, m.heap.Holds f (.console level) →
    ∃ m', callAt s.sandbox.host (depth + 1) f (.plain this) args m = .ok .undefined m' ∧
      ConsoleCall.Absorbed s.sandbox.host.budget level args (callAt s.sandbox.host depth) m m'
  /-- Arguments that lead to inert objects only are read in silence, whatever their shape is. -/
  inert : ∀ depth (h : Heap) (rs : List Ref) (args : List Value), h.isClosed rs = true →
    (∀ v ∈ args, ∀ r, v = .object r → r ∈ rs) → h.Silent (callAt s.sandbox.host depth) args

end Session

theorem Sandbox.start_relogged (s : Sandbox) (b : LogBuffer) :
    (s.relogged b).start = (s.start.1, s.start.2.relogged b) := by
  have registry : (s.relogged b).registry = s.registry := rfl
  have made : (s.relogged b).makeVm = s.makeVm := rfl
  rw [start, start, registry, made]
  cases s.registry.fault? with
  | some fault => rfl
  | none => cases s.makeVm <;> rfl

theorem Sandbox.init_relogged (s : Sandbox) (b : LogBuffer) :
    (s.relogged b).init = (s.init.1, s.init.2.relogged b) := by
  have state : (s.relogged b).state = s.state := rfl
  rw [init, init, state, start_relogged]
  cases s.state <;> rfl

/-- Machines in step leave the same behind, but for the logs. -/
theorem Sandbox.conclude_relogged (s : Sandbox) (b : LogBuffer) (vm : Vm) (filename : String)
    (result : Except ScriptFault Json) {m n : Machine} (hmn : InStep m n) :
    Reply.unlogged (((s.relogged b).conclude vm filename result n).result.map some) =
        Reply.unlogged ((s.conclude vm filename result m).result.map some) ∧
      (∃ b', ((s.relogged b).conclude vm filename result n).sandbox =
        (s.conclude vm filename result m).sandbox.relogged b') ∧
      ((s.relogged b).conclude vm filename result n).backend =
        (s.conclude vm filename result m).backend := by
  rw [hmn.same]
  cases result with
  | ok value => exact ⟨rfl, ⟨_, rfl⟩, rfl⟩
  | error fault => exact ⟨rfl, ⟨_, rfl⟩, rfl⟩

/-- Runs that come to their end in time, one of them under a check, keep in step. -/
theorem Sandbox.runSource_relogged (watch : Watch) (s : Sandbox) (b : LogBuffer) (vm : Vm)
    (backend : Backend) (plain : Source)
    (watched :
      (runSourceBy (watch.calls s.host) s.host plain (s.machine vm backend)).2.expired = false)
    (first : (runSource s.host plain (s.machine vm backend)).2.expired = false)
    (second : (runSource s.host plain ((s.relogged b).machine vm backend)).2.expired = false) :
    (runSource s.host plain (s.machine vm backend)).1 =
        (runSource s.host plain ((s.relogged b).machine vm backend)).1 ∧
      InStep (runSource s.host plain (s.machine vm backend)).2
        (runSource s.host plain ((s.relogged b).machine vm backend)).2 := by
  have paired := paired_watchedAt watch s.host s.host.callDepth
  obtain ⟨same, step⟩ := runSourceBy_abreast paired s.host plain
    (.refl (m := s.machine vm backend) rfl) watched first
  obtain ⟨same', step'⟩ := runSourceBy_abreast paired s.host plain
    (n := (s.relogged b).machine vm backend) ⟨rfl, rfl⟩ watched second
  exact ⟨same.symm.trans same', step.symm.trans step'⟩

/-- The run of a prepared source. -/
theorem Sandbox.evalReady_relogged (watch : Watch) (s : Sandbox) (b : LogBuffer) (vm : Vm)
    (backend : Backend) (plain : Source) (filename : String)
    (watched :
      (runSourceBy (watch.calls s.host) s.host plain (s.machine vm backend)).2.expired = false)
    (first : (runSource s.host plain (s.machine vm backend)).2.expired = false)
    (second : (runSource s.host plain ((s.relogged b).machine vm backend)).2.expired = false) :
    Reply.unlogged (((s.relogged b).evalReady vm backend plain filename).result.map some) =
        Reply.unlogged ((s.evalReady vm backend plain filename).result.map some) ∧
      (∃ b', ((s.relogged b).evalReady vm backend plain filename).sandbox =
        (s.evalReady vm backend plain filename).sandbox.relogged b') ∧
      ((s.relogged b).evalReady vm backend plain filename).backend =
        (s.evalReady vm backend plain filename).backend := by
  obtain ⟨same, step⟩ := runSource_relogged watch s b vm backend plain watched first second
  have host : (s.relogged b).host = s.host := rfl
  simp only [evalReady, host, ← same, first, second]
  exact conclude_relogged s b vm filename _ step

namespace Session

/-- One operation that comes to its end in time. -/
theorem perform_relogged (watch : Watch) (s : Session) (b : LogBuffer) (op : Operation)
    (watched : s.endsInTime watch.calls op = true) (first : s.endsInTime Host.calls op = true)
    (second : (s.relogged b).endsInTime Host.calls op = true) :
    ((s.relogged b).perform op).1.unlogged = (s.perform op).1.unlogged ∧
      ∃ b', ((s.relogged b).perform op).2 = (s.perform op).2.relogged b' := by
  cases op with
  | dispose => exact ⟨rfl, b, rfl⟩
  | init =>
    have sandbox : (s.relogged b).sandbox = s.sandbox.relogged b := rfl
    simp only [perform, sandbox, Sandbox.init_relogged]
    exact ⟨trivial, b, rfl⟩
  | eval source options =>
    cases misuse : s.sandbox.state.misuse? (.eval source options) with
    | some e =>
      rw [perform_misused misuse, perform_misused (s := s.relogged b) misuse]
      exact ⟨rfl, b, rfl⟩
    | none =>
      obtain ⟨vm, hstate⟩ := SessionState.exists_ready misuse
      have hstate' : (s.relogged b).sandbox.state = .ready vm := hstate
      have transpiler : (s.relogged b).sandbox.transpiler = s.sandbox.transpiler := rfl
      simp only [endsInTime, run?, hstate, hstate', transpiler] at watched first second
      simp only [perform, Sandbox.eval, hstate, hstate', transpiler]
      generalize prepareSource s.sandbox.transpiler source options = prepared at *
      obtain ⟨plain, asked⟩ := prepared
      cases plain with
      | error message => exact ⟨rfl, _, rfl⟩
      | ok plain =>
        simp only [Bool.not_eq_true'] at watched first second
        obtain ⟨reply, ⟨b', left⟩, backend⟩ := s.sandbox.evalReady_relogged watch b vm s.backend
          plain options.filenameOrDefault watched first second
        exact ⟨reply, b', congrArg₂ Session.mk left backend⟩

/-- Rows of operations that come to their end in time.  The induction is on the row: after each
operation the sessions differ only in their buffers, whatever these have come to be. -/
theorem events_relogged (watch : Watch) (s : Session) (b : LogBuffer) (ops : List Operation)
    (watched : s.inTime watch.calls ops = true) (first : s.inTime Host.calls ops = true)
    (second : (s.relogged b).inTime Host.calls ops = true) :
    ((s.relogged b).events ops).map (fun e => e.2.unlogged) =
        (s.events ops).map (fun e => e.2.unlogged) ∧
      ∃ b', (s.relogged b).after ops = (s.after ops).relogged b' := by
  induction ops generalizing s b with
  | nil => exact ⟨rfl, b, rfl⟩
  | cons op ops ih =>
    simp only [inTime, Bool.and_eq_true] at watched first second
    obtain ⟨reply, b', left⟩ := perform_relogged watch s b op watched.1 first.1 second.1
    rw [left] at second
    obtain ⟨replies, last⟩ := ih (s.perform op).2 b' watched.2 first.2 second.2
    simp only [events, after_cons, List.map_cons, left, reply, replies]
    exact ⟨trivial, last⟩

/-- If all that is logged passes a check, and all evaluations come to their end in time, the console
cannot be seen. -/
theorem unseen (watch : Watch) (s : Session) (b : LogBuffer) (ops : List Operation)
    (watched : s.inTime watch.calls ops = true) (first : s.inTime Host.calls ops = true)
    (second : (s.relogged b).inTime Host.calls ops = true) : s.Unseen b ops where
  replies := (events_relogged watch s b ops watched first second).1
  leaves := (events_relogged watch s b ops watched first second).2
  console depth level f this args m holds := by
    show ∃ m', callValue s.sandbox.host f (.plain this) args (callAt s.sandbox.host depth) m = _ ∧ _
    rw [callValue_console _ holds]
    exact ConsoleCall.absorbed ..
  inert _ _ _ _ closed covers v hv := Scene.steady_of_isClosed closed (covers v hv)

end Session

/-! ### Two scripts -/

/-- No object of the heap is a proxy or has a getter. -/
def Heap.isGetterless (h : Heap) : Bool :=
  h.objects.all fun o => !o.isProxy && o.elements.all (fun p => !p.any Property.isAccessor) &&
    o.properties.all fun e => !e.2.isAccessor

namespace Session

/-- The heap of a session, while it has one. -/
def heap? (s : Session) : Option Heap := s.sandbox.state.vm?.map Vm.heap

/-- A buffer without room for any entry. -/
def fullBuffer : LogBuffer := { maxEntries := 0 }

/-- A script that logs what does not convert, and an error.  Its first call of the console ends the
log if there is no room. -/
def loggingScript : Source :=
  .program none
    { body := [.log "log" [], .declare "o" (.cycle .object),
        .log "log" [.variable "o", .undefined, .function],
        .tryCatch [.eval (.variable "missing")] "e" [.log "error" [.variable "e"]]]
      result := some (.typeof (.variable "o")) }

/-- All that this script logs passes the check for data, so nothing tells whether there is room. -/
theorem unseen_withConsole :
    withConsole.inTime Watch.data.calls [.eval loggingScript {}, .eval failingScript {}] = true ∧
      withConsole.inTime Host.calls [.eval loggingScript {}, .eval failingScript {}] = true ∧
      (withConsole.relogged fullBuffer).inTime Host.calls
        [.eval loggingScript {}, .eval failingScript {}] = true ∧
      withConsole.Unseen fullBuffer [.eval loggingScript {}, .eval failingScript {}] := by
  have watched : withConsole.inTime Watch.data.calls
      [.eval loggingScript {}, .eval failingScript {}] = true := by decide +kernel
  have first : withConsole.inTime Host.calls
      [.eval loggingScript {}, .eval failingScript {}] = true := by decide +kernel
  have second : (withConsole.relogged fullBuffer).inTime Host.calls
      [.eval loggingScript {}, .eval failingScript {}] = true := by decide +kernel
  exact ⟨watched, first, second, unseen Watch.data _ _ _ watched first second⟩

/-- A heap with the console, and one function that sets properties. -/
def setterHeap : Heap :=
  ((do
    Building.addConsole
    let f ← Building.add (functionObject (.builtin (.reflect .set)) (.unicode "set") 3)
    let r ← Building.add { kind := .plain, prototype := none }
    Building.define r "set" (.plain (.object f))
    Building.define globalRef "Reflect" (.plain (.object r)) : Building Unit) Heap.bare).2

/-- A session whose scripts find these. -/
def withSetter : Session where
  sandbox := { Sandbox.ofDefaults with state := .ready ⟨setterHeap, []⟩ }
  backend := {}

/-- A script that logs an error.  The message of the error is an object, and making a text of it
sets a variable. -/
def spyingScript : Source :=
  .program none
    { body := [.log "log" [],
        .tryCatch [.eval (.variable "missing")] "e"
          [.assign (.variable "e") "message" (.object
            [("toString", .returning (.reflectSet .globalObject "seen" (.bool true)))]),
          .log "log" [.variable "e"]]]
      result := some (.typeof (.variable "seen")) }

/-- The variable tells whether the error was converted, so whether there was room.  Both runs come
to their end in time, and nothing on the heap that they leave has a getter. -/
theorem message_is_seen :
    withSetter.inTime Host.calls [.eval spyingScript {}] = true ∧
      (withSetter.relogged fullBuffer).inTime Host.calls [.eval spyingScript {}] = true ∧
      (withSetter.after [.eval spyingScript {}]).heap?.any Heap.isGetterless = true ∧
      ((withSetter.relogged fullBuffer).after [.eval spyingScript {}]).heap?.any
        Heap.isGetterless = true ∧
      (withSetter.perform (.eval spyingScript {})).1.value?.map Json.plainText = some "boolean" ∧
      ((withSetter.relogged fullBuffer).perform (.eval spyingScript {})).1.value?.map
        Json.plainText = some "undefined" :=
  ⟨by decide +kernel, by decide +kernel, by decide +kernel, by decide +kernel, by decide +kernel,
    by decide +kernel⟩

end Session

end ScriptHost
