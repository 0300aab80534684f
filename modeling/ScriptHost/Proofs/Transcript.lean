import ScriptHost.Proofs.Alike

/-!
# Transcripts of the console

The console buffer forgets what it has no room for.  To tell what it should keep, an evaluation is
run with a console that forgets nothing, but that ends its log when the buffer does.

* `LogBuffer.kept`: what an empty buffer keeps of a row of entries;
* `LogBuffer.record`, `recordCall`, `recordedAt`: calls with a console that forgets nothing;
* `LogBuffer.Follows`: how the buffer and that console stand to each other;
* `Sandbox.runSource_eq`: but for the buffer, both consoles make the same evaluation;
* `Session.transcript?`: the console calls during an evaluation;
* `Session.LogsExactly`, `Session.logs_exact`: answers carry what the buffer keeps of these.
-/

namespace ScriptHost

/-! ### Consoles that forget nothing -/

namespace LogBuffer

/-- A buffer after a row of entries. -/
def pushAll (b : LogBuffer) (es : List LogEntry) : LogBuffer := es.foldl push b

/-- What an empty buffer with the caps of this one keeps of a row of entries. -/
def kept (b : LogBuffer) (es : List LogEntry) : List LogEntry := (b.cleared.pushAll es).entries.toList

/-- The buffer with one more entry, whether there is room for it or not.  What room is left is
counted as `push` does. -/
def record (b : LogBuffer) (e : LogEntry) : LogBuffer :=
  { b.push e with entries := b.entries.push e }

end LogBuffer

/-- What a method of a console does that forgets nothing.  As on the real one, a call that comes
when the log has ended converts no arguments, so nothing but its level is there to be recorded. -/
def recordCall (budget : Budget) (level : LogLevel) (args : List Value) : Service Value := do
  match (← Action.readLogs).remaining? with
  | none =>
    Action.modifyLogs fun b => b.record ⟨level, []⟩
    return .undefined
  | some room =>
    let js ← logArguments (budget.capped room) args
    Action.modifyLogs fun b => b.record ⟨level, js⟩
    return .undefined

/-- The method of the console that a value is, if it is one. -/
def Heap.console? (h : Heap) (f : Value) : Option LogLevel :=
  match f with
  | .object r =>
    match (h.object r).kind with
    | .function (.console level) => some level
    | _ => none
  | _ => none

/-- Calls a value, where calls may nest so deep and the console forgets nothing. -/
def recordedAt (host : Host) : Nat → Apply
  | 0, _, _, _ => (stackExceeded : Script Value).run .none
  | depth + 1, f, how, args => fun m =>
    match m.heap.console? f, how with
    | some level, .plain _ => recordCall host.budget level args (recordedAt host depth) m
    | _, _ => callValue host f how args (recordedAt host depth) m

/-! ### Buffers -/

namespace LogBuffer

variable {c b r : LogBuffer}

@[simp] theorem cleared_cleared (b : LogBuffer) : b.cleared.cleared = b.cleared := rfl

@[simp] theorem cleared_push (b : LogBuffer) (e : LogEntry) : (b.push e).cleared = b.cleared := by
  unfold push
  split
  · rfl
  · split <;> rfl

/-- Once the log has ended nothing is added. -/
theorem push_of_truncated (ended : b.truncated = true) (e : LogEntry) : b.push e = b := by
  rw [push, if_pos ended]

@[simp] theorem cleared_pushAll (b : LogBuffer) (es : List LogEntry) :
    (b.pushAll es).cleared = b.cleared := by
  induction es generalizing b with
  | nil => rfl
  | cons e es ih => exact (ih (b.push e)).trans (cleared_push b e)

theorem pushAll_concat (b : LogBuffer) (es : List LogEntry) (e : LogEntry) :
    b.pushAll (es ++ [e]) = (b.pushAll es).push e := by
  rw [pushAll, List.foldl_append]
  rfl

/-- A buffer that was `c` has come to be `b`, while one that forgets nothing has come to be `r`. -/
structure Follows (c b r : LogBuffer) : Prop where
  replayed : b = c.pushAll r.entries.toList
  /-- Both have as much room left, or none. -/
  counted : r = { b with entries := r.entries }
  /-- Until the log ends, both hold the same. -/
  whole : b.truncated = false → r.entries = b.entries

theorem Follows.start (b : LogBuffer) : Follows b.cleared b.cleared b.cleared := ⟨rfl, rfl, fun _ => rfl⟩

theorem Follows.remaining (follows : Follows c b r) : r.remaining? = b.remaining? := by
  rw [follows.counted]
  rfl

/-- They go on so with every entry. -/
theorem Follows.push (follows : Follows c b r) (e : LogEntry) : Follows c (b.push e) (r.record e) := by
  have replayed : b.push e = c.pushAll (r.entries.push e).toList := by
    rw [Array.toList_push, pushAll_concat, ← follows.replayed]
  by_cases ended : b.truncated = true
  · have ended' : r.truncated = true := by rw [follows.counted]; exact ended
    have still : b.push e = b := push_of_truncated ended e
    have still' : r.push e = r := push_of_truncated ended' e
    refine ⟨replayed, ?_, fun opened => ?_⟩
    · rw [still, record, still']
      exact congrArg (fun x : LogBuffer => { x with entries := r.entries.push e }) follows.counted
    · rw [still, ended] at opened
      cases opened
  · -- before its end both are the same buffer
    have whole := follows.whole (by simpa using ended)
    obtain rfl : r = b := by rw [follows.counted, whole]
    refine ⟨replayed, rfl, fun opened => ?_⟩
    unfold record LogBuffer.push at *
    rw [if_neg ended] at opened ⊢
    split at opened
    · cases opened
    · next room => rw [if_neg room]

/-- A call that comes when the log has ended leaves the buffer as it is. -/
theorem push_of_ended (ended : b.remaining? = none) (e : LogEntry) : b.push e = b := by
  unfold remaining? at ended
  split at ended
  · next h => exact push_of_truncated h e
  · cases ended

end LogBuffer

/-! ### Calls -/

/-- Machines that differ in their consoles: that of the first was `c`, and that of the second
forgets nothing. -/
structure Recorded (c : LogBuffer) (m n : Machine) : Prop where
  seen : n = { m with logs := n.logs }
  follows : c.Follows m.logs n.logs

theorem hidden_recorded (c : LogBuffer) : Hidden (Recorded c) where
  seen h := by rw [h.seen]
  step h _ _ _ _ := ⟨by rw [h.seen], h.follows⟩

section Calls

variable {c : LogBuffer} {m n : Machine}

/-- Both consoles do the same, but for what they keep. -/
theorem logCall_recordCall {first second : Apply} {trails : CallTrail}
    (calls : ∀ f how args m n, Recorded c m n → Clear (fun _ => False) (trails f how args m) →
      Alike (Recorded c) (first f how args m) (second f how args n))
    (budget : Budget) (level : LogLevel) (args : List Value) (hmn : Recorded c m n) :
    Alike (Recorded c) (logCall budget level args first m)
      (recordCall budget level args second n) := by
  have logged {m n : Machine} (js : List Json) (hmn : Recorded c m n) :
      Recorded c { m with logs := m.logs.push ⟨level, js⟩ }
        { n with logs := n.logs.record ⟨level, js⟩ } :=
    ⟨by rw [hmn.seen], hmn.follows.push _⟩
  unfold logCall recordCall
  simp only [Service.run_bind, Service.run_readLogs, hmn.follows.remaining]
  cases room : m.logs.remaining? with
  | none =>
    have next := logged [] hmn
    rw [LogBuffer.push_of_ended room] at next
    exact .ok _ next
  | some bytes =>
    exact .bind (Computation.alike (hidden_recorded c).blind calls _ hmn)
      (fun js m' n' hmn' _ => .ok _ (logged js hmn')) (.nothing _)

theorem console?_of_holds {h : Heap} {f : Value} {level : LogLevel}
    (holds : h.Holds f (.console level)) : h.console? f = some level := by
  obtain ⟨r, rfl, hk⟩ := holds
  rw [Heap.console?, hk]

theorem holds_of_console? {h : Heap} {f : Value} {level : LogLevel}
    (found : h.console? f = some level) : h.Holds f (.console level) := by
  unfold Heap.console? at found
  split at found
  · next r =>
    split at found
    · next hk =>
      cases found
      exact ⟨r, rfl, hk⟩
    · cases found
  · cases found

/-- A call of a method of the console. -/
theorem callValue_console (host : Host) {f : Value} {level : LogLevel}
    (holds : m.heap.Holds f (.console level)) (this : Value) (args : List Value) (apply : Apply) :
    callValue host f (.plain this) args apply m = logCall host.budget level args apply m := by
  obtain ⟨r, rfl, hk⟩ := holds
  simp only [callValue, Service.run_bind, Service.run_lift, Computation.run_readObject,
    Object.kind_frame, hk, callFunction]

/-- All calls run alike with both consoles.  The induction is on how deep calls may nest. -/
theorem callAt_recordedAt (host : Host) (depth : Nat) (f : Value) (how : Invocation)
    (args : List Value) (hmn : Recorded c m n) :
    Alike (Recorded c) (callAt host depth f how args m) (recordedAt host depth f how args n) := by
  induction depth generalizing f how args m n with
  | zero => exact Computation.alike_none (hidden_recorded c).blind stackExceeded hmn (.nothing _)
  | succ depth ih =>
    have calls (f how args) (m n : Machine) (hmn : Recorded c m n)
        (_ : Clear (fun _ => False) (callTrail host depth f how args m)) :
        Alike (Recorded c) (callAt host depth f how args m) (recordedAt host depth f how args n) :=
      ih f how args hmn
    have blind := (hidden_recorded c).blind
    have heap : n.heap = m.heap := (hidden_recorded c).heap hmn
    show Alike (Recorded c) (callValue host f how args (callAt host depth) m)
      (match n.heap.console? f, how with
      | some level, .plain _ => recordCall host.budget level args (recordedAt host depth) n
      | _, _ => callValue host f how args (recordedAt host depth) n)
    rw [heap]
    split
    · next level this found =>
      rw [callValue_console host (holds_of_console? found)]
      exact logCall_recordCall calls _ _ _ hmn
    · next how _ _ other =>
      -- no other call is one of the console
      rcases callValue_cases host how args f m.heap with ⟨s, run⟩ |
        ⟨ns, method, row, -, -, run⟩ | ⟨level, this, holds, plain, -⟩
      · rw [run _ m rfl, run _ n heap]
        exact Computation.alike blind calls s hmn (.nothing _)
      · rw [run _ m rfl, run _ n heap]
        refine dispatch_alike blind calls _ ns row args (fun m n given hmn => ?_) hmn (.nothing _)
        rw [hmn.seen]
        cases row.invoke.call given m.backend with
        | ok j b => exact .ok j ⟨rfl, hmn.follows⟩
        | error e b => exact .error e ⟨rfl, hmn.follows⟩
      · exact (other level this (console?_of_holds holds) plain).elim

end Calls

/-! ### Evaluations -/

namespace Sandbox

/-- The run of a prepared source with a console that forgets nothing: how it ends, and what machine
it leaves. -/
def recordedRun (s : Sandbox) (vm : Vm) (backend : Backend) (source : Source) :
    Except ScriptFault Json × Machine :=
  runSourceBy (recordedAt s.host s.host.callDepth) s.host source (s.machine vm backend)

/-- The console calls during the run of a prepared source, in their order. -/
def transcript (s : Sandbox) (vm : Vm) (backend : Backend) (source : Source) : List LogEntry :=
  (s.recordedRun vm backend source).2.logs.entries.toList

/-- But for the buffer, the run with the console that forgets nothing is the run that takes place;
and there the buffer is what comes of the calls. -/
theorem runSource_eq (s : Sandbox) (vm : Vm) (backend : Backend) (source : Source) :
    runSource s.host source (s.machine vm backend) =
      ((s.recordedRun vm backend source).1,
        { (s.recordedRun vm backend source).2 with
          logs := s.logs.cleared.pushAll (s.transcript vm backend source) }) := by
  have start : Recorded s.logs.cleared (s.machine vm backend) (s.machine vm backend) :=
    ⟨rfl, .start s.logs⟩
  have calls (f how args) (m n : Machine) (hmn : Recorded s.logs.cleared m n)
      (_ : Clear (fun _ => False) (callTrail s.host s.host.callDepth f how args m)) :=
    callAt_recordedAt s.host s.host.callDepth f how args hmn
  obtain ⟨same, seen, follows⟩ :=
    runSourceBy_alike (hidden_recorded s.logs.cleared).blind calls s.host source start (.nothing _)
  refine Prod.ext same ?_
  rw [transcript, recordedRun, ← follows.replayed, seen]
  rfl

end Sandbox

/-! ### Sessions -/

/-- The logs in the answer to an evaluation that took place. -/
def Reply.logs? : Reply → Option (List LogEntry)
  | .ok (some success) => some success.logs
  | .error (.script fault) => some fault.logs
  | _ => none

namespace Session

/-- The console calls during an evaluation, if it takes place.  There are none if the source cannot
be prepared. -/
def transcript? (s : Session) (source : Source) (options : EvalOptions) : Option (List LogEntry) :=
  match s.sandbox.state with
  | .ready vm =>
    match (prepareSource s.sandbox.transpiler source options).1 with
    | .ok plain => some (s.sandbox.transcript vm s.backend plain)
    | .error _ => some []
  | _ => none

/-- What holds of the console when a row of operations is over. -/
structure LogsExactly (start : Session) (ops : List Operation) : Prop where
  /-- While nothing runs the buffer is empty. -/
  idle : (start.after ops).sandbox.logs = start.sandbox.logs.cleared
  /-- The next evaluation answers with what an empty buffer keeps of its calls, however it ends. -/
  answer : ∀ source options, ((start.after ops).perform (.eval source options)).1.logs? =
    ((start.after ops).transcript? source options).map start.sandbox.logs.kept
  /-- Its calls are those that the console sees: but for the buffer, a console that forgets nothing
  makes no difference. -/
  faithful : ∀ vm, (start.after ops).sandbox.state = .ready vm → ∀ plain,
    runSource (start.after ops).sandbox.host plain
        ((start.after ops).sandbox.machine vm (start.after ops).backend) =
      (((start.after ops).sandbox.recordedRun vm (start.after ops).backend plain).1,
        { ((start.after ops).sandbox.recordedRun vm (start.after ops).backend plain).2 with
          logs := start.sandbox.logs.cleared.pushAll
            ((start.after ops).sandbox.transcript vm (start.after ops).backend plain) })

variable {s : Session}

/-- The run of a prepared source answers with what the buffer keeps of its calls. -/
theorem logs?_evalReady (t : Sandbox) (vm : Vm) (backend : Backend) (plain : Source)
    (filename : String) :
    Reply.logs? ((t.evalReady vm backend plain filename).result.map some) =
      some (t.logs.kept (t.transcript vm backend plain)) := by
  have concluded (result : Except ScriptFault Json) (m : Machine) :
      Reply.logs? ((t.conclude vm filename result m).result.map some) =
        some m.logs.entries.toList := by
    cases result <;> rfl
  unfold Sandbox.evalReady
  rw [Sandbox.runSource_eq]
  exact concluded _ _

/-- The run of a prepared source leaves an empty buffer. -/
theorem logs_evalReady (t : Sandbox) (vm : Vm) (backend : Backend) (plain : Source)
    (filename : String) :
    (t.evalReady vm backend plain filename).sandbox.logs = t.logs.cleared := by
  have concluded (result : Except ScriptFault Json) (m : Machine) :
      (t.conclude vm filename result m).sandbox.logs = m.logs.cleared := by
    cases result <;> rfl
  unfold Sandbox.evalReady
  rw [Sandbox.runSource_eq]
  refine (concluded _ _).trans ?_
  rw [LogBuffer.cleared_pushAll, LogBuffer.cleared_cleared]

/-- An evaluation answers with what the buffer keeps of its calls. -/
theorem Step.logs?_eq {source : Source} {options : EvalOptions} {reply : Reply} {t : Session}
    (step : s.Step (.eval source options) reply t) :
    reply.logs? = (s.transcript? source options).map s.sandbox.logs.kept := by
  cases step with
  | misused misuse =>
    -- what is refused has no logs, and no transcript
    cases hstate : s.sandbox.state <;> rw [hstate] at misuse <;> cases misuse <;>
      rw [transcript?, hstate] <;> rfl
  | unprepared ready prepared =>
    simp only [transcript?, ready, prepared]
    rfl
  | ran ready prepared =>
    simp only [transcript?, ready, prepared]
    exact logs?_evalReady ..

/-- No operation leaves anything in the buffer, and none changes its caps. -/
theorem Step.logs_eq {op : Operation} {reply : Reply} {t : Session} (step : s.Step op reply t)
    (empty : s.sandbox.logs = s.sandbox.logs.cleared) : t.sandbox.logs = s.sandbox.logs := by
  cases step with
  | misused | again | failed | started | disposed => rfl
  | unprepared => exact empty.symm
  | ran => exact (logs_evalReady ..).trans empty.symm

/-- The console of a session, after every row of operations that began with an empty buffer. -/
theorem logs_exact (start : Session) (empty : start.sandbox.logs = start.sandbox.logs.cleared)
    (ops : List Operation) : LogsExactly start ops := by
  have idle : (start.after ops).sandbox.logs = start.sandbox.logs := by
    refine after_induction (P := fun s => s.sandbox.logs = start.sandbox.logs) ?_ ops rfl
    intro s op hs
    rw [(s.step op).logs_eq (by rw [hs, ← empty]), hs]
  refine ⟨idle.trans empty, fun source options => ?_, fun vm _ plain => ?_⟩
  · rw [(Session.step _ _).logs?_eq, idle]
  · rw [Sandbox.runSource_eq, idle]

/-- A session whose scripts find nothing but the console. -/
def withConsole : Session where
  sandbox :=
    { Sandbox.ofDefaults with state := .ready ⟨(Building.addConsole.run Heap.bare).2, []⟩ }
  backend := {}

/-- A script that logs a text and then fails. -/
def failingScript : Source :=
  .program none
    { body := [.log "log" [.text (.unicode "hi")], .throw (.text (.unicode "no"))] }

/-- The second fault of that script carries what was logged before it, and nothing from the first
time. -/
theorem logs_exact_withConsole :
    withConsole.sandbox.logs = withConsole.sandbox.logs.cleared ∧
      LogsExactly withConsole [.eval failingScript {}] ∧
      ((withConsole.after [.eval failingScript {}]).perform (.eval failingScript {})).1.logs?.map
        (fun es => es.map LogEntry.display) = some ["[log] hi"] :=
  ⟨rfl, logs_exact withConsole rfl _, by decide +kernel⟩

end Session

end ScriptHost
