import ScriptHost.Proofs.Lifecycle
import ScriptHost.Proofs.Reading

/-!
# Faults of evaluations

How an evaluation comes to its kind of fault, and what the kind does to the session.  An uncaught
error is told to be a ceiling by its name and its message alone, whoever made it.  Where the time is
up, nothing else counts, and only then is it decided whether the session is poisoned.

* `FaultKind.ToldBy`, `toldBy_classify`: the kind that a name and a message tell;
* `Heap.Bears`: errors that bear a name and a message;
* `ScriptFault.Tells`, `exists_tells_of_uncaught`: what the fault of an uncaught value tells of it;
* `Session.FullHeap`, `Session.fullHeap`: what a full heap does to a session, in time and late;
* `Session.Uncaught`, `Session.uncaught`: what a value does to it that nothing catches.
-/

namespace ScriptHost

/-! ### Kinds -/

/-- A text occurs in another if it is an infix of it. -/
theorem occursWithin_iff {part whole : List Char} :
    occursWithin part whole = true ↔ part <:+: whole := by
  induction whole with
  | nil => simp [occursWithin]
  | cons c rest ih => simp [occursWithin, ih, List.infix_cons_iff]

/-- Whether an error has no name, or one of those that the engine gives its own errors. -/
def EngineNamed (name : Option String) : Prop :=
  name = none ∨ name = some "InternalError" ∨ name = some "RangeError"

/-- Whether a message tells that the stack is full. -/
def TellsStack (message : String) : Prop :=
  "stack overflow".toList <:+: message.toList ∨
    "Maximum call stack size exceeded".toList <:+: message.toList

/-- Whether a kind is what a name and a message tell of an uncaught error. -/
structure FaultKind.ToldBy (kind : FaultKind) (name : Option String) (message : String) : Prop where
  thrown : kind = .thrown ↔
    ¬ (EngineNamed name ∧ (message = "out of memory" ∨ TellsStack message))
  outOfMemory : kind = .outOfMemory ↔ EngineNamed name ∧ message = "out of memory"
  stackOverflow : kind = .stackOverflow ↔ EngineNamed name ∧ TellsStack message

/-- A message about the heap is none about the stack. -/
theorem not_tellsStack : ¬ TellsStack "out of memory" := by
  simp only [TellsStack, ← occursWithin_iff]
  decide +kernel

theorem toldBy_classify (name : Option String) (message : String) :
    (classify name message).ToldBy name message := by
  by_cases named : EngineNamed name
  · have engine : (name = none || name = some "InternalError" || name = some "RangeError") = true := by
      simpa [EngineNamed, or_assoc] using named
    simp only [classify, engine, if_true, Bool.or_eq_true, occursWithin_iff]
    by_cases memory : message = "out of memory"
    · subst memory
      constructor <;> simp [named, not_tellsStack]
    · by_cases stack : TellsStack message
      · have tells := stack
        unfold TellsStack at tells
        rw [if_neg memory, if_pos tells]
        constructor <;> simp [named, memory, stack]
      · have tells := stack
        unfold TellsStack at tells
        rw [if_neg memory, if_neg tells]
        constructor <;> simp [memory, stack]
  · have other : (name = none || name = some "InternalError" || name = some "RangeError") = false := by
      simpa [EngineNamed, and_assoc] using named
    simp only [classify, other, Bool.false_eq_true, if_false]
    constructor <;> simp [named]

/-! ### Uncaught values -/

/-- Whether a value is an error object. -/
def Heap.IsError (h : Heap) (v : Value) : Prop := ∃ r, v = .object r ∧ (h.object r).isError = true

section Uncaught

variable {apply : Apply} {m : Machine}

/-- The fault of an error object has the kind that its name and its message tell. -/
theorem kind_of_errorFault {v : Value} {fault : ScriptFault} {m' : Machine}
    (told : (errorFault v).run apply m = .ok fault m') :
    fault.kind = classify fault.name fault.message := by
  obtain ⟨message, m₁, -, told⟩ := Computation.ok_bind told
  obtain ⟨stack, m₂, -, told⟩ := Computation.ok_bind told
  obtain ⟨name, m₃, -, ⟨⟩⟩ := Computation.ok_bind told
  rfl

/-- Any other value makes a fault of a script, whatever its document is. -/
theorem run_valueFault (apply : Apply) (m : Machine) (budget : Budget) (v : Value) :
    ∃ fault m', (valueFault budget v).run apply m = .ok fault m' ∧ fault.kind = .thrown := by
  rw [valueFault, Computation.run_sequel]
  cases (dump (budget.capped maxThrownBytes) v).run apply m with
  | ok j m' => exact ⟨_, m', rfl, rfl⟩
  | error e m' => exact ⟨_, m', rfl, rfl⟩

theorem thrownFault_of_isError (budget : Budget) {v : Value} (error : m.heap.IsError v) :
    (thrownFault budget v).run apply m = (errorFault v).run apply m := by
  obtain ⟨r, rfl, isError⟩ := error
  simp only [thrownFault, Computation.run_bind, Computation.run_readObject, Object.isError_frame,
    isError, if_true]

theorem thrownFault_of_not_isError (budget : Budget) {v : Value} (other : ¬ m.heap.IsError v) :
    (thrownFault budget v).run apply m = (valueFault budget v).run apply m := by
  cases v with
  | object r =>
    have isError : (m.heap.object r).isError = false := by
      simpa using fun h => other ⟨r, rfl, h⟩
    simp only [thrownFault, Computation.run_bind, Computation.run_readObject, Object.isError_frame,
      isError, Bool.false_eq_true, if_false]
  | _ => rfl

end Uncaught

/-! ### Names and messages -/

/-- At a place there is an error that bears a name and a message: the message is its own, and the name
that of what it inherits from. -/
structure Heap.Bears (h : Heap) (r : Ref) (name message : String) : Prop where
  error : (h.object r).kind = .error
  message : ∃ t attributes, t.toUnicode = .ok message ∧
    h.own? (h.object r) "message" = some ⟨.data (.string t), attributes⟩
  stack : ∃ t attributes, h.own? (h.object r) "stack" = some ⟨.data (.string t), attributes⟩
  nameless : h.own? (h.object r) "name" = none
  parent : ∃ p t attributes, (h.object r).prototype = some p ∧ (h.object p).isProxy = false ∧
    t.toUnicode = .ok name ∧ h.own? (h.object p) "name" = some ⟨.data (.string t), attributes⟩

namespace Heap

variable {h : Heap} {r : Nat}

theorem run_readableText (apply : Apply) {m : Machine} (hm : m.heap = h)
    (direct : (h.object r).isProxy = false) {key : String} {t : Text} {attributes : Attributes}
    (own : h.own? (h.object r) key = some ⟨.data (.string t), attributes⟩) :
    (readableText (.object r) key).run apply m = .ok t.toUnicode.toOption m := by
  simp only [readableText, attempt, catchThrown, Computation.run_sequel, Computation.run_bind,
    run_getProperty apply hm direct own, readContent, Computation.run_pure]
  rfl

/-- An error that has no name itself has that of what it inherits from. -/
theorem run_textProperty_name (apply : Apply) {m : Machine} (hm : m.heap = h)
    (error : (h.object r).kind = .error) (own : h.own? (h.object r) "name" = none) {p : Nat}
    (hp : (h.object r).prototype = some p) (direct : (h.object p).isProxy = false) {t : Text}
    {attributes : Attributes}
    (inherited : h.own? (h.object p) "name" = some ⟨.data (.string t), attributes⟩) :
    (textProperty (.object r) "name").run apply m = .ok t.toUnicode.toOption m := by
  have inside : r < h.objects.size := by
    refine Nat.lt_of_not_le fun outside => ?_
    rw [h.kind_of_size_le outside] at error
    cases error
  obtain ⟨size, nonempty⟩ : ∃ n, h.objects.size = n + 1 :=
    Nat.exists_eq_succ_of_ne_zero (Nat.ne_of_gt (Nat.lt_of_le_of_lt (Nat.zero_le _) inside))
  have errorDirect : (h.object r).isProxy = false := by simp [Object.isProxy, error]
  have goesOn : stopsAt (h.object r) "name" = false := by simp [stopsAt, error]
  simp only [textProperty, attempt, catchThrown, getProperty, getSettled, chainLimit,
    Computation.run_sequel, Computation.run_bind, Computation.run_look, Computation.run_pure,
    Look.ask, hm, nonempty, getFrom_of_parent apply hm errorDirect goesOn own hp,
    getFrom_of_own apply hm direct inherited, readContent]
  rfl

/-- The fault of an error bears its name and its message. -/
theorem Bears.run_errorFault {name message : String} (bears : h.Bears r name message) (apply : Apply)
    {m : Machine} (hm : m.heap = h) :
    ∃ fault, (errorFault (.object r)).run apply m = .ok fault m ∧ fault.name = some name ∧
      fault.message = message := by
  have direct : (h.object r).isProxy = false := by simp [Object.isProxy, bears.error]
  obtain ⟨t, a, spelled, own⟩ := bears.message
  obtain ⟨trace, b, stack⟩ := bears.stack
  obtain ⟨p, n, c, prototype, directParent, named, inherited⟩ := bears.parent
  simp only [errorFault, Computation.run_bind, run_readableText apply hm direct own,
    run_readableText apply hm direct stack,
    run_textProperty_name apply hm bears.error bears.nameless prototype directParent inherited,
    Computation.run_pure, spelled, named]
  exact ⟨_, rfl, rfl, rfl⟩

end Heap

/-! ### Evaluations -/

/-- What a fault tells of an uncaught value, which a script threw on some heap. -/
structure ScriptFault.Tells (fault : ScriptFault) (h : Heap) (v : Value) : Prop where
  /-- Of an error, its name and its message alone decide about the kind. -/
  error : h.IsError v → fault.kind.ToldBy fault.name fault.message
  /-- Any other value is no ceiling. -/
  other : ¬ h.IsError v → fault.kind = .thrown
  /-- If the error bears a name and a message, the fault bears them. -/
  bears : ∀ r name message, v = .object r → h.Bears r name message →
    fault.name = some name ∧ fault.message = message

theorem tells_interruptedFault (h : Heap) (v : Value)
    (unread : ∀ r name message, v = .object r → ¬ h.Bears r name message) :
    interruptedFault.Tells h v where
  error _ := by
    have kind : interruptedFault.kind = classify interruptedFault.name interruptedFault.message := by
      decide +kernel
    rw [kind]
    exact toldBy_classify _ _
  other _ := rfl
  bears r name message hv bears := absurd bears (unread r name message hv)

/-- A value that nothing catches ends the run of a source with a fault that tells of it. -/
theorem exists_tells_of_uncaught {host : Host} {source : Source} {m m₁ : Machine} {v : Value}
    (noNul : source.nulIndex? = none)
    (threw : (source.run host).run (callAt host host.callDepth) m = .error (.thrown v) m₁) :
    ∃ fault m₂, runSource host source m = (.error fault, m₂) ∧ fault.Tells m₁.heap v := by
  rw [runSource_of_thrown noNul threw]
  by_cases error : m₁.heap.IsError v
  · rw [thrownFault_of_isError _ error]
    cases told : (errorFault v).run (callAt host host.callDepth) m₁ with
    | ok fault m₂ =>
      refine ⟨fault, m₂, rfl, fun _ => kind_of_errorFault told ▸ toldBy_classify _ _,
        fun other => absurd error other, ?_⟩
      rintro r name message rfl bears
      obtain ⟨fault', same, named, spelled⟩ := bears.run_errorFault (callAt host host.callDepth) rfl
      rw [told] at same
      cases same
      exact ⟨named, spelled⟩
    | error e m₂ =>
      -- reading the error was interrupted; where it bears its texts, reading runs no script
      refine ⟨interruptedFault, m₂, rfl, tells_interruptedFault _ _ ?_⟩
      rintro r name message rfl bears
      obtain ⟨fault, same, -⟩ := bears.run_errorFault (callAt host host.callDepth) rfl
      rw [told] at same
      cases same
  · rw [thrownFault_of_not_isError _ error]
    obtain ⟨fault, m₂, told, kind⟩ := run_valueFault (callAt host host.callDepth) m₁ host.budget v
    rw [told]
    refine ⟨fault, m₂, rfl, fun error' => absurd error' error, fun _ => kind, ?_⟩
    rintro r name message rfl bears
    exact absurd ⟨r, rfl, by simp [Object.isError, bears.error]⟩ error

/-! ### Sessions -/

namespace Session

section Poisoned

variable {s : Session} {vm : Vm}

/-- A session that a full heap has poisoned. -/
structure Ruined (s : Session) (vm : Vm) : Prop where
  state : s.sandbox.state = .poisoned vm .outOfMemory
  /-- It refuses every row of evaluations, and none of them changes it. -/
  refuses : ∀ evals : List (Source × EvalOptions),
    s.after (evals.map fun e => .eval e.1 e.2) = s ∧
      ∀ e ∈ s.events (evals.map fun e => .eval e.1 e.2), e.2 = .error (.poisoned .outOfMemory)
  /-- It can be made ready again, on a new machine. -/
  rebuilt : s.sandbox.Startable → s.perform .init =
    (.ok none, { s with sandbox := { s.sandbox with state := .ready s.sandbox.firstVm } })

theorem ruined_of_state (hs : s.sandbox.state = .poisoned vm .outOfMemory) : s.Ruined vm where
  state := hs
  refuses evals := by
    induction evals with
    | nil => exact ⟨rfl, List.forall_mem_nil _⟩
    | cons eval evals ih =>
      have refused : s.perform (.eval eval.1 eval.2) = (.error (.poisoned .outOfMemory), s) :=
        perform_misused (by rw [hs]; rfl)
      constructor
      · rw [List.map_cons, after_cons, refused]
        exact ih.1
      · rw [List.map_cons, events, refused]
        exact List.forall_mem_cons.2 ⟨rfl, ih.2⟩
  rebuilt startable := perform_init_start startable (by rw [hs]; rfl)

end Poisoned

section Evaluations

variable {s : Session} {vm : Vm} {source plain : Source} {options : EvalOptions} {asked : Bool}
  (hs : s.sandbox.state = .ready vm)
  (prepared : prepareSource s.sandbox.transpiler source options = (.ok plain, asked))

include hs prepared

/-- What comes of an evaluation that an error of a full heap ends, on a machine that is `m` then. -/
structure FullHeap (s : Session) (vm : Vm) (op : Operation) (m : Machine) : Prop where
  /-- While there is time, the session is poisoned. -/
  inTime : m.expired = false →
    (∃ fault, (s.perform op).1 = .error (.script fault) ∧ fault.kind = .outOfMemory) ∧
      (s.perform op).2.Ruined { vm with heap := m.heap }
  /-- Once the time is up, it is not, and goes on with that machine. -/
  late : m.expired = true →
    (∃ fault, (s.perform op).1 = .error (.script fault) ∧ fault.kind = .timeout) ∧
      (s.perform op).2.sandbox.state = .ready { vm with heap := m.heap }

/-- A full heap poisons a session unless the time is up. -/
theorem fullHeap {fault : ScriptFault} {m : Machine}
    (ran : runSource s.sandbox.host plain (s.sandbox.machine vm s.backend) = (.error fault, m))
    (full : fault.kind = .outOfMemory) : FullHeap s vm (.eval source options) m := by
  obtain ⟨told, reply, kind, -, -, state⟩ := perform_eval_of_fault hs prepared ran
  constructor
  · intro inTime
    have kept : told.kind = .outOfMemory := by simpa [inTime, full] using kind
    exact ⟨⟨told, reply, kept⟩, ruined_of_state (by rw [state, Sandbox.stateAfterFault, if_pos kept])⟩
  · intro late
    have timeout : told.kind = .timeout := by simpa [late] using kind
    exact ⟨⟨told, reply, timeout⟩, by rw [state, timeout]; rfl⟩

end Evaluations

/-- A session whose scripts find nothing but the classes of errors. -/
def withErrors : Session where
  sandbox := { Sandbox.ofDefaults with state := .ready errorsVm }
  backend := {}
where
  errorsVm : Vm := ⟨Heap.bare.after Realm.addErrors, []⟩

/-- The kind of fault that a run ends with. -/
def faultKind? (result : Except ScriptFault Json) : Option FaultKind :=
  match result with
  | .error fault => some fault.kind
  | .ok _ => none

/-- A script that fills the heap. -/
def fillingScript : Source := .program none { body := [.hog] }

/-- A script that fills the heap in time poisons the session. -/
theorem fullHeap_withErrors :
    ∃ fault m, runSource withErrors.sandbox.host fillingScript
          (withErrors.sandbox.machine withErrors.errorsVm {}) = (.error fault, m) ∧
      fault.kind = .outOfMemory ∧ m.expired = false ∧
      FullHeap withErrors withErrors.errorsVm (.eval fillingScript {}) m := by
  have full : faultKind? (runSource withErrors.sandbox.host fillingScript
      (withErrors.sandbox.machine withErrors.errorsVm {})).1 = some .outOfMemory := by decide +kernel
  have inTime : (runSource withErrors.sandbox.host fillingScript
      (withErrors.sandbox.machine withErrors.errorsVm {})).2.expired = false := by decide +kernel
  generalize ran : runSource withErrors.sandbox.host fillingScript
    (withErrors.sandbox.machine withErrors.errorsVm {}) = r at full inTime
  obtain ⟨result, m⟩ := r
  cases result with
  | ok j => cases full
  | error fault =>
    have kind : fault.kind = .outOfMemory := Option.some.inj full
    exact ⟨fault, m, rfl, kind, inTime, fullHeap rfl rfl ran kind⟩

section Evaluations

variable {s : Session} {vm : Vm} {source plain : Source} {options : EvalOptions} {asked : Bool}
  (hs : s.sandbox.state = .ready vm)
  (prepared : prepareSource s.sandbox.transpiler source options = (.ok plain, asked))

/-- What comes of a value that a script throws on some heap and nothing catches. -/
def Uncaught (s : Session) (vm : Vm) (op : Operation) (h : Heap) (v : Value) : Prop :=
  ∃ fault heap, (s.perform op).1 = .error (.script fault) ∧ fault.Tells h v ∧
    (s.perform op).2.sandbox.state =
      if fault.kind = .outOfMemory then .poisoned { vm with heap } .outOfMemory
      else .ready { vm with heap }

include hs prepared in
/-- What a fault tells of an uncaught value decides about the session, if there is time: it goes on,
unless the value is an error that tells of a full heap, whoever made it. -/
theorem uncaught (noNul : plain.nulIndex? = none) {v : Value} {m : Machine}
    (threw : (plain.run s.sandbox.host).run (callAt s.sandbox.host s.sandbox.host.callDepth)
      (s.sandbox.machine vm s.backend) = .error (.thrown v) m)
    (inTime : (runSource s.sandbox.host plain (s.sandbox.machine vm s.backend)).2.expired = false) :
    Uncaught s vm (.eval source options) m.heap v := by
  obtain ⟨fault, m₂, ran, tells⟩ := exists_tells_of_uncaught noNul threw
  obtain ⟨told, reply, kind, name, message, state⟩ := perform_eval_of_fault hs prepared ran
  have inTime : m₂.expired = false := by rwa [ran] at inTime
  have kind : told.kind = fault.kind := by simpa [inTime] using kind
  refine ⟨told, m₂.heap, reply, ⟨?_, ?_, ?_⟩, state⟩
  · rw [kind, name, message]
    exact tells.error
  · rw [kind]
    exact tells.other
  · rw [name, message]
    exact tells.bears

end Evaluations

/-- What a run threw, and the machine that it left. -/
def thrown? {α : Type} (result : EStateM.Result Halt Machine α) : Option (Value × Machine) :=
  match result with
  | .error (.thrown v) m => some (v, m)
  | _ => none

/-- A script that throws an error of its own, which looks like one of the engine. -/
def feigningScript : Source :=
  .program none { body := [.throw (.error "RangeError" (some (.text (.unicode "out of memory"))))] }

/-- The session is poisoned although the heap is almost empty. -/
theorem uncaught_withErrors :
    ∃ v m, (feigningScript.run withErrors.sandbox.host).run
          (callAt withErrors.sandbox.host withErrors.sandbox.host.callDepth)
          (withErrors.sandbox.machine withErrors.errorsVm {}) = .error (.thrown v) m ∧
      Uncaught withErrors withErrors.errorsVm (.eval feigningScript {}) m.heap v ∧
      (withErrors.perform (.eval feigningScript {})).2.sandbox.poisonedBy? = some .outOfMemory := by
  have threw : (thrown? ((feigningScript.run withErrors.sandbox.host).run
      (callAt withErrors.sandbox.host withErrors.sandbox.host.callDepth)
      (withErrors.sandbox.machine withErrors.errorsVm {}))).isSome = true := by decide +kernel
  have inTime : (runSource withErrors.sandbox.host feigningScript
      (withErrors.sandbox.machine withErrors.errorsVm {})).2.expired = false := by decide +kernel
  have poisoned : (withErrors.perform (.eval feigningScript {})).2.sandbox.poisonedBy? =
      some .outOfMemory := by decide +kernel
  cases ran : (feigningScript.run withErrors.sandbox.host).run
      (callAt withErrors.sandbox.host withErrors.sandbox.host.callDepth)
      (withErrors.sandbox.machine withErrors.errorsVm {}) with
  | ok v m => rw [ran] at threw; cases threw
  | error halt m =>
    cases halt with
    | interrupted => rw [ran] at threw; cases threw
    | thrown v => exact ⟨v, m, rfl, uncaught rfl rfl rfl ran inTime, poisoned⟩

end Session

end ScriptHost
