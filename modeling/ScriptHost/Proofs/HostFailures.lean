import ScriptHost.Proofs.Ceilings
import ScriptHost.Proofs.Dispatch

/-!
# Failures of the host

A call of a capability that fails on the side of the host is an error of the script that made the
call, whatever the host says about it, and is never told to be a ceiling.  The host speaks with an
error of the class `Error`, a name that none of the engine's own errors has.  Where a conversion gives
up, the class may be one of the engine's, and then the words are known.

* `Object.IsComplaint`: the error that such a call throws;
* `FailsInHost`: how a call can fail so, and what the host says;
* `dispatch_of_failsInHost`: what the script gets;
* `run_tryCatch`, `run_program_of_thrown`: where the error of a statement goes;
* `Session.FailedCall`, `Session.failedCall`: all that comes of such a call.
-/

namespace ScriptHost

/-! ### Words -/

/-- A text without this letter tells nothing of the stack. -/
theorem not_tellsStack_of_not_mem {message : String} (absent : 'k' ∉ message.toList) :
    ¬ TellsStack message := by
  rintro (part | part)
  · exact absent (part.subset (by decide +kernel))
  · exact absent (part.subset (by decide +kernel))

/-- A text takes four bytes for each character at most. -/
theorem utf8Len_le (cs : List Char) : String.utf8Len cs ≤ 4 * cs.length := by
  induction cs with
  | nil => exact Nat.le_refl 0
  | cons c cs ih =>
    have one := c.utf8Size_le_four
    rw [String.utf8Len, List.length_cons]
    omega

/-- Words that leave room for the name of a capability before them and tell nothing of the stack. -/
structure IsHarmless (reason : String) : Prop where
  short : reason.utf8ByteSize ≤ 128
  plain : 'k' ∉ reason.toList

/-- Whether a conversion gave up because its value is too large or too deep. -/
def ConversionError.IsBound (e : ConversionError) : Prop :=
  e = .tooDeep ∨ ∃ n ≤ maxCount, e = .tooLarge n

/-- The words about a value that is too large are harmless. -/
theorem isHarmless_tooLarge {n : Nat} (bounded : n ≤ maxCount) :
    IsHarmless (ConversionError.tooLarge n).message := by
  have few : (Nat.toDigits 10 n).length ≤ 20 := by
    rw [Nat.length_toDigits_le_iff (by decide) (by decide)]
    exact Nat.lt_of_le_of_lt bounded (by decide +kernel)
  have spelled : (ConversionError.tooLarge n).message =
    "value exceeds the " ++ String.ofList (Nat.toDigits 10 n) ++ "-byte conversion budget" := rfl
  constructor
  · have before : ("value exceeds the ").utf8ByteSize = 18 := by decide +kernel
    have after : ("-byte conversion budget").utf8ByteSize = 23 := by decide +kernel
    have number : (String.ofList (Nat.toDigits 10 n)).utf8ByteSize ≤ 4 * (Nat.toDigits 10 n).length := by
      rw [String.utf8ByteSize_ofList]
      exact utf8Len_le _
    rw [spelled, String.utf8ByteSize_append, String.utf8ByteSize_append, before, after]
    omega
  · have before : 'k' ∉ ("value exceeds the ").toList := by decide +kernel
    have after : 'k' ∉ ("-byte conversion budget").toList := by decide +kernel
    have number : 'k' ∉ (String.ofList (Nat.toDigits 10 n)).toList := by
      rw [String.toList_ofList]
      exact fun digit =>
        absurd (Nat.isDigit_of_mem_toDigits (by decide) (by decide) digit) (by decide)
    rw [spelled, String.toList_append, String.toList_append, List.mem_append, List.mem_append]
    exact fun letter => letter.elim (fun letter => letter.elim before number) after

theorem ConversionError.IsBound.isHarmless {e : ConversionError} (bound : e.IsBound) :
    IsHarmless e.message := by
  obtain rfl | ⟨n, bounded, rfl⟩ := bound
  · exact ⟨by decide +kernel, by decide +kernel⟩
  · exact isHarmless_tooLarge bounded

/-- What a capability says about a failure: its name, and the reason. -/
def complaint (namespaceName : String) (row : Method) (reason : String) : String :=
  capabilityPath namespaceName row.name ++ ": " ++ reason

section Complaints

variable {ns : Namespace} {row : Method}

/-- The names of the built-in capabilities are short and tell nothing of the stack. -/
theorem path_builtin (hns : ns ∈ Registry.builtin) (hrow : row ∈ ns.methods) :
    (capabilityPath ns.name row.name ++ ": ").utf8ByteSize ≤ 127 ∧
      'k' ∉ (capabilityPath ns.name row.name ++ ": ").toList := by
  have all : ∀ ns ∈ Registry.builtin, ∀ row ∈ ns.methods,
      (capabilityPath ns.name row.name ++ ": ").utf8ByteSize ≤ 127 ∧
        'k' ∉ (capabilityPath ns.name row.name ++ ": ").toList := by decide +kernel
  exact all ns hns row hrow

/-- The engine does not cut what a built-in capability says about a conversion. -/
theorem clip_complaint (hns : ns ∈ Registry.builtin) (hrow : row ∈ ns.methods) {reason : String}
    (harmless : IsHarmless reason) :
    clip maxEngineMessage (complaint ns.name row reason) = complaint ns.name row reason := by
  have room := (path_builtin hns hrow).1
  have short := harmless.short
  have size : (complaint ns.name row reason).utf8ByteSize =
      (capabilityPath ns.name row.name ++ ": ").utf8ByteSize + reason.utf8ByteSize :=
    String.utf8ByteSize_append
  have fits : (complaint ns.name row reason).utf8ByteSize ≤ maxEngineMessage := by
    have all : maxEngineMessage = 255 := rfl
    omega
  rw [clip, if_pos fits]

/-- What a built-in capability says about a conversion is nothing that the engine says of a full
stack. -/
theorem not_tellsStack_complaint (hns : ns ∈ Registry.builtin) (hrow : row ∈ ns.methods)
    {reason : String} (harmless : IsHarmless reason) :
    ¬ TellsStack (complaint ns.name row reason) := by
  refine not_tellsStack_of_not_mem ?_
  rw [complaint, String.toList_append, List.mem_append, not_or]
  exact ⟨(path_builtin hns hrow).2, harmless.plain⟩

/-- What a capability says begins with the name of the root. -/
theorem complaint_ne_outOfMemory (reason : String) :
    complaint ns.name row reason ≠ "out of memory" := by
  intro same
  have first : (complaint ns.name row reason).toList.head? = some 'b' := by
    simp only [complaint, capabilityPath, String.toList_append, List.append_assoc]
    rfl
  rw [same] at first
  exact absurd first (by decide +kernel)

end Complaints

/-! ### Errors -/

/-- The error that a call throws when it fails on the side of the host: one of the engine, or one of
the class `Error` that a capability makes. -/
def Object.IsComplaint (o : Object) (c : ErrorClass) (message : String) : Prop :=
  o = errorObject c (some (.unicode message)) ∨ c = .error ∧ o = reportedError message

/-- The errors of a class have its name, unless they have one of their own. -/
def Heap.NamesErrors (h : Heap) (c : ErrorClass) : Prop :=
  (h.object (Family.error c).prototype).isProxy = false ∧
    ∃ attributes, h.own? (h.object (Family.error c).prototype) "name" =
      some ⟨.data (.ofString c.name), attributes⟩

theorem Heap.bears_of_isComplaint {h : Heap} {r : Ref} {c : ErrorClass} {message : String}
    (error : (h.object r).IsComplaint c message) (named : h.NamesErrors c) :
    h.Bears r c.name message := by
  obtain ⟨direct, attributes, name⟩ := named
  rcases error with object | ⟨rfl, object⟩
  all_goals exact
    { error := by rw [object]; rfl
      message := ⟨_, _, rfl, by rw [object]; rfl⟩
      stack := ⟨_, _, by rw [object]; rfl⟩
      nameless := by rw [object]; rfl
      parent := ⟨_, _, _, by rw [object]; rfl, direct, rfl, name⟩ }

/-! ### Calls -/

/-- How a call of a capability can fail on the side of the host, with the class of the error that
comes of it, what the host says, and the machine that it has come to. -/
inductive FailsInHost (budget : Budget) (namespaceName : String) (row : Method) (args : List Value)
    (apply : Apply) (m : Machine) : ErrorClass → String → Machine → Prop
  /-- An argument is too large or too deep. -/
  | argument {e : ConversionError} {m₁ : Machine} (bound : e.IsBound)
    (read : (convertArguments budget row.args args).run apply m = .error e m₁) :
    FailsInHost budget namespaceName row args apply m e.errorClass e.message m₁
  /-- The backend does not do what it is asked. -/
  | backend {given : List Argument} {m₁ : Machine} {e : CapabilityError} {b : Backend}
    (read : (convertArguments budget row.args args).run apply m = .ok given m₁)
    (acted : row.invoke.call given m₁.backend = .error e b) :
    FailsInHost budget namespaceName row args apply m .error e.message { m₁ with backend := b }
  /-- The result is too large or too deep. -/
  | result {given : List Argument} {m₁ m₂ : Machine} {j : Json} {b : Backend} {e : ConversionError}
    (bound : e.IsBound)
    (read : (convertArguments budget row.args args).run apply m = .ok given m₁)
    (acted : row.invoke.call given m₁.backend = .ok j b)
    (handed : (marshalResult row.returns j).run apply { m₁ with backend := b } = .error e m₂) :
    FailsInHost budget namespaceName row args apply m e.errorClass e.message m₂

section Calls

variable {budget : Budget} {ns : Namespace} {row : Method} {args : List Value} {apply : Apply}
  {m m₁ : Machine} {c : ErrorClass} {text : String}

/-- The class of the error is no class of the engine, or the words are harmless. -/
theorem FailsInHost.tame (failed : FailsInHost budget ns.name row args apply m c text m₁) :
    c = .error ∨ IsHarmless text := by
  cases failed with
  | argument bound read => exact .inr bound.isHarmless
  | backend read acted => exact .inl rfl
  | result bound read acted handed => exact .inr bound.isHarmless

/-- A conversion that gives up throws an error of the engine. -/
theorem throwConversion_of_isBound (hns : ns ∈ Registry.builtin) (hrow : row ∈ ns.methods)
    {e : ConversionError} (bound : e.IsBound) :
    (throwConversion (capabilityPath ns.name row.name) e : Script Value).run apply m =
      .error (.thrown (.object m.heap.objects.size))
        { m with heap := (m.heap.allocate
          (errorObject e.errorClass (some (.unicode (complaint ns.name row e.message))))).2 } := by
  have whole := clip_complaint hns hrow bound.isHarmless
  have threw : (throwConversion (capabilityPath ns.name row.name) e : Script Value) =
      throwNew e.errorClass (complaint ns.name row e.message) := by
    obtain rfl | ⟨n, -, rfl⟩ := bound <;> rfl
  rw [threw, throwNew, whole]
  rfl

/-- What the script gets whose call fails on the side of the host. -/
theorem dispatch_of_failsInHost (hns : ns ∈ Registry.builtin) (hrow : row ∈ ns.methods)
    (failed : FailsInHost budget ns.name row args apply m c text m₁) :
    ∃ o : Object, o.IsComplaint c (complaint ns.name row text) ∧
      dispatch budget ns.name row args apply m =
        .error (.thrown (.object m₁.heap.objects.size))
          { m₁ with heap := (m₁.heap.allocate o).2 } := by
  cases failed with
  | argument bound read =>
    refine ⟨_, .inl rfl, ?_⟩
    rw [dispatch_of_error read]
    exact throwConversion_of_isBound hns hrow bound
  | backend read acted =>
    refine ⟨_, .inr ⟨rfl, rfl⟩, ?_⟩
    simp only [dispatch, duringCall, invokeCapability, Service.run_bind, Service.run_lift,
      Service.run_act, Computation.run_sequel, Computation.run_give, read, acted]
    rfl
  | result bound read acted handed =>
    refine ⟨_, .inl rfl, ?_⟩
    rw [dispatch_of_success read acted, duringCall, Computation.run_sequel, handed]
    exact throwConversion_of_isBound hns hrow bound

end Calls

/-! ### Statements -/

section Statements

variable {host : Host} {scope : Scope} {apply : Apply} {before after : List Stmt} {e : Expr}
  {m m₀ m₁ : Machine} {v : Value}

/-- What an expression throws ends the statements that it stands in. -/
theorem run_runAll_of_thrown (first : (runAll host scope before).run apply m₀ = .ok () m)
    (threw : (e.eval host scope).run apply m = .error (.thrown v) m₁) :
    (runAll host scope (before ++ .eval e :: after)).run apply m₀ = .error (.thrown v) m₁ := by
  induction before generalizing m₀ with
  | nil =>
    obtain rfl : m₀ = m := by cases first; rfl
    simp only [List.nil_append, runAll, Stmt.run, Computation.run_bind, threw]
  | cons s before ih =>
    obtain ⟨u, m', one, first⟩ := Computation.ok_bind first
    simp only [List.cons_append, runAll, Computation.run_bind, one]
    exact ih first

/-- What a statement in a `try` throws goes to the handler. -/
theorem run_tryCatch (name : String) (handler : List Stmt)
    (first : (runAll host scope before).run apply m₀ = .ok () m)
    (threw : (e.eval host scope).run apply m = .error (.thrown v) m₁) :
    ((Stmt.tryCatch (before ++ .eval e :: after) name handler).run host scope).run apply m₀ =
      (newCell v >>= fun cell => runAll host ((name, cell) :: scope) handler).run apply m₁ := by
  simp only [Stmt.run, catchThrown, Computation.run_sequel, run_runAll_of_thrown first threw]

/-- What a statement outside of any `try` throws ends the program. -/
theorem run_program_of_thrown {p : Program} (wellFormed : p.fault? = none)
    (body : p.body = before ++ .eval e :: after) {m' : Machine}
    (declared : (declareGlobals p.declared).run apply m' = .ok () m₀)
    (first : (runAll host [] before).run apply m₀ = .ok () m)
    (threw : (e.eval host []).run apply m = .error (.thrown v) m₁) :
    (p.run host).run apply m' = .error (.thrown v) m₁ := by
  simp only [Program.run, wellFormed, Computation.run_bind, declared, body,
    run_runAll_of_thrown first threw]

end Statements

/-- A global variable that lies there as plain data is read as that. -/
theorem run_readGlobal {h : Heap} {name : String} {v : Value} {attributes : Attributes}
    (direct : (h.object globalRef).isProxy = false)
    (own : h.own? (h.object globalRef) name = some ⟨.data v, attributes⟩) {m : Machine}
    (hm : m.heap = h) : (readGlobal name).run apply m = .ok v m := by
  simp only [readGlobal, hasProperty, chainLimit, Computation.run_bind, Computation.run_look,
    Computation.run_pure, Heap.hasFrom_of_own apply hm direct own, Heap.run_getOf apply hm direct own,
    if_true, readContent]

/-! ### Sessions -/

namespace Session

/-- What is left when an error ends an evaluation on a machine. -/
structure EndsWith (s : Session) (vm : Vm) (op : Operation) (message : String) (m : Machine) :
    Prop where
  /-- The fault says what the error says.  It is no ceiling, unless the time is up. -/
  reply : ∃ fault, (s.perform op).1 = .error (.script fault) ∧ fault.message = message ∧
    fault.kind = if m.expired then .timeout else .thrown
  /-- The session goes on with the heap that the script has left. -/
  ready : (s.perform op).2.sandbox.state = .ready { vm with heap := m.heap }
  /-- The next evaluation runs. -/
  next : ∀ source options, Phase.ready.Answers (.eval source options)
    ((s.perform op).2.perform (.eval source options)).1

section Evaluations

variable {s : Session} {vm : Vm} (hs : s.sandbox.state = .ready vm) {ns : Namespace} {row : Method}
  (hns : ns ∈ Registry.builtin) (hrow : row ∈ ns.methods)

include hs hns hrow in
/-- An error of a call that failed on the side of the host, which nothing catches and no script has
changed, ends the evaluation and nothing else. -/
theorem endsWith_of_isComplaint {source plain : Source} {options : EvalOptions} {asked : Bool}
    (prepared : prepareSource s.sandbox.transpiler source options = (.ok plain, asked))
    (noNul : plain.nulIndex? = none) {r : Ref} {m : Machine}
    (threw : (plain.run s.sandbox.host).run (callAt s.sandbox.host s.sandbox.host.callDepth)
      (s.sandbox.machine vm s.backend) = .error (.thrown (.object r)) m)
    {c : ErrorClass} {text : String} (tame : c = .error ∨ IsHarmless text)
    (error : (m.heap.object r).IsComplaint c (complaint ns.name row text))
    (named : m.heap.NamesErrors c) :
    EndsWith s vm (.eval source options) (complaint ns.name row text) m := by
  have bears := Heap.bears_of_isComplaint error named
  have isError : m.heap.IsError (.object r) := ⟨r, rfl, by simp [Object.isError, bears.error]⟩
  -- the error has its texts itself, so no script runs while the host reads them
  obtain ⟨fault, read, name, message⟩ :=
    bears.run_errorFault (callAt s.sandbox.host s.sandbox.host.callDepth) rfl
  have ran : runSource s.sandbox.host plain (s.sandbox.machine vm s.backend) = (.error fault, m) := by
    rw [runSource_of_thrown noNul threw, thrownFault_of_isError _ isError, read]
  have kind : fault.kind = .thrown := by
    rw [kind_of_errorFault read, name, message, (toldBy_classify _ _).thrown]
    rintro ⟨engine, memory | stack⟩
    · exact complaint_ne_outOfMemory text memory
    · rcases tame with rfl | harmless
      · exact absurd engine (by simp [EngineNamed, ErrorClass.name])
      · exact not_tellsStack_complaint hns hrow harmless stack
  obtain ⟨told, reply, toldKind, -, toldMessage, state⟩ := perform_eval_of_fault hs prepared ran
  rw [kind] at toldKind
  have ready : (s.perform (.eval source options)).2.sandbox.state =
      .ready { vm with heap := m.heap } := by
    rw [state, Sandbox.stateAfterFault, if_neg]
    rw [toldKind]
    split <;> decide
  exact
    { reply := ⟨told, reply, toldMessage.trans message, toldKind⟩
      ready
      next := fun source options => ((Session.step _ (.eval source options)).eval_ready ready).2 }

/-- All that comes of a call that fails on the side of the host.  The call was made on the machine
`m`, and `m₁` is the machine that the failure has come to. -/
structure FailedCall (s : Session) (vm : Vm) (m m₁ : Machine) (c : ErrorClass) (message : String)
    (apply : Apply) (result : EStateM.Result Halt Machine Value) : Prop where
  /-- The call throws a new error, and nothing else has come of it. -/
  thrown : ∃ o : Object, o.IsComplaint c message ∧
    result = .error (.thrown (.object m₁.heap.objects.size))
      { m₁ with heap := (m₁.heap.allocate o).2 }
  /-- In a `try` the error goes to the handler, whatever the statements before and after. -/
  caught : ∀ scope before e after name handler m₀,
    (runAll s.sandbox.host scope before).run apply m₀ = .ok () m →
    (e.eval s.sandbox.host scope).run apply m = result →
    ((Stmt.tryCatch (before ++ .eval e :: after) name handler).run s.sandbox.host scope).run apply
        m₀ =
      (newCell (.object m₁.heap.objects.size) >>= fun cell =>
        runAll s.sandbox.host ((name, cell) :: scope) handler).run apply (stateAfter result)
  /-- Outside of any `try` it ends the program. -/
  escapes : ∀ (p : Program) before e after m' m₀, p.fault? = none → p.body = before ++ .eval e :: after →
    (declareGlobals p.declared).run apply m' = .ok () m₀ →
    (runAll s.sandbox.host [] before).run apply m₀ = .ok () m →
    (e.eval s.sandbox.host []).run apply m = result →
    (p.run s.sandbox.host).run apply m' =
      .error (.thrown (.object m₁.heap.objects.size)) (stateAfter result)
  /-- Where nothing catches it and no script has changed it or the name of its class, the evaluation
  ends with it. -/
  uncaught : ∀ source options plain asked m₂,
    prepareSource s.sandbox.transpiler source options = (.ok plain, asked) →
    plain.nulIndex? = none →
    (plain.run s.sandbox.host).run (callAt s.sandbox.host s.sandbox.host.callDepth)
        (s.sandbox.machine vm s.backend) = .error (.thrown (.object m₁.heap.objects.size)) m₂ →
    m₂.heap.object m₁.heap.objects.size =
      (stateAfter result).heap.object m₁.heap.objects.size →
    m₂.heap.NamesErrors c →
    EndsWith s vm (.eval source options) message m₂

include hs hns hrow in
/-- A call of a built-in capability that fails on the side of the host is an error of the script, on
every ready session: for all rows, arguments and machines, and whatever the host says. -/
theorem failedCall (builtin : s.sandbox.registry = .builtin) {f : Value} (this : Value)
    {args : List Value} {depth : Nat} {m m₁ : Machine} {c : ErrorClass} {text : String}
    (holds : m.heap.Holds f (.capability ns.name row.name))
    (failed : FailsInHost s.sandbox.host.budget ns.name row args (callAt s.sandbox.host depth) m c
      text m₁) :
    FailedCall s vm m m₁ c (complaint ns.name row text) (callAt s.sandbox.host (depth + 1))
      (callAt s.sandbox.host (depth + 1) f (.plain this) args m) := by
  have valid : s.sandbox.host.registry.fault? = none := by
    show s.sandbox.registry.fault? = none
    rw [builtin]
    decide +kernel
  have listed : ns ∈ s.sandbox.host.registry := by
    show ns ∈ s.sandbox.registry
    rwa [builtin]
  obtain ⟨o, complains, threw⟩ := dispatch_of_failsInHost hns hrow failed
  rw [callAt_capability valid listed hrow holds, threw]
  exact
    { thrown := ⟨o, complains, rfl⟩
      caught := fun scope before e after name handler m₀ first threw =>
        run_tryCatch name handler first threw
      escapes := fun p before e after m' m₀ wellFormed body declared first threw =>
        run_program_of_thrown wellFormed body declared first threw
      uncaught := fun source options plain asked m₂ prepared noNul threw same named => by
        have error : (m₂.heap.object m₁.heap.objects.size).IsComplaint c
            (complaint ns.name row text) := by
          rw [same]
          show ((m₁.heap.allocate o).2.object m₁.heap.objects.size).IsComplaint c _
          rwa [m₁.heap.object_allocate_self]
        exact endsWith_of_isComplaint hs hns hrow prepared noNul threw failed.tame error named }

end Evaluations

/-! ### In time and late -/

/-- A function for a capability, under a global name. -/
def addCapability (namespaceName method : String) : Building Unit := do
  let f ← Building.add (functionObject (.capability namespaceName method) (.unicode method) 0)
  Building.define globalRef method (.plain (.object f))

/-- A heap on which errors have their name, and little else. -/
def namedHeap : Heap := Heap.bare.after (Realm.addErrorName .error)

/-- A session whose scripts find one capability, of which the host says that it ran out of memory. -/
def refusing : Session where
  sandbox := { Sandbox.ofDefaults with state := .ready refusingVm }
  backend := Backend.empty.withFailure "query.all" (.backend "out of memory")
where
  refusingVm : Vm := ⟨(addCapability "query" "all" namedHeap).2, ["query"]⟩

/-- A call of that capability. -/
def callAll : Expr := .invoke (.variable "all") []

/-- A script that makes the call, and nothing else. -/
def callingScript : Source := .program none { body := [.eval callAll] }

/-- The function of the capability. -/
def allFunction : Value := .object namedHeap.objects.size

/-- The row of the capability. -/
def allRow : Method := Registry.queryNamespace.methods.get ⟨0, by decide⟩

/-- The machine on which the script makes the call. -/
def refusingMachine : Machine := refusing.sandbox.machine refusing.refusingVm refusing.backend

theorem holds_allFunction : refusingMachine.heap.Holds allFunction (.capability "query" "all") := by
  have elsewhere : namedHeap.objects.size ≠ globalRef := by decide +kernel
  have heap : refusingMachine.heap = (namedHeap.allocate
    (functionObject (.capability "query" "all") (.unicode "all") 0)).2.modify globalRef
      fun o => o.put "all" (.plain allFunction) := rfl
  refine ⟨_, rfl, ?_⟩
  rw [heap, Heap.object_modify_of_ne _ elsewhere, Heap.object_allocate_self]
  rfl

theorem eval_callAll (apply : Apply) :
    (callAll.eval refusing.sandbox.host []).run apply refusingMachine =
      apply allFunction (.plain .undefined) [] refusingMachine := by
  have own : refusingMachine.heap.own? (refusingMachine.heap.object globalRef) "all" =
    some (.plain allFunction) := by decide +kernel
  have read : (readVariable [] "all").run apply refusingMachine = .ok allFunction refusingMachine :=
    run_readGlobal (by decide +kernel) own rfl
  simp only [callAll, Expr.eval, Computation.run_bind, read, evalList, Computation.run_pure]
  rfl

/-- The call fails while there is time, and the script that makes it ends with its error. -/
theorem failedCall_refusing :
    refusing.sandbox.state = .ready refusing.refusingVm ∧
      Registry.queryNamespace ∈ Registry.builtin ∧ allRow ∈ Registry.queryNamespace.methods ∧
      refusing.sandbox.registry = .builtin ∧
      refusingMachine.heap.Holds allFunction (.capability "query" allRow.name) ∧
      ∃ m₁, FailsInHost refusing.sandbox.host.budget "query" allRow []
          (callAt refusing.sandbox.host 654) refusingMachine .error "out of memory" m₁ ∧
        FailedCall refusing refusing.refusingVm refusingMachine m₁ .error
          (complaint "query" allRow "out of memory") (callAt refusing.sandbox.host 655)
          (callAt refusing.sandbox.host 655 allFunction (.plain .undefined) [] refusingMachine) ∧
        ∃ m₂, EndsWith refusing refusing.refusingVm (.eval callingScript {})
            (complaint "query" allRow "out of memory") m₂ ∧ m₂.expired = false := by
  have listed : Registry.queryNamespace ∈ Registry.builtin := .tail _ (.head _)
  have row : allRow ∈ Registry.queryNamespace.methods := List.get_mem _ _
  have failed : FailsInHost refusing.sandbox.host.budget "query" allRow []
      (callAt refusing.sandbox.host 654) refusingMachine .error
      (CapabilityError.backend "out of memory").message _ := .backend rfl rfl
  have outcome := failedCall rfl listed row rfl .undefined holds_allFunction failed
  refine ⟨rfl, listed, row, rfl, holds_allFunction, _, failed, outcome, ?_⟩
  -- the script is nothing but the call, at the outermost level
  have depth : refusing.sandbox.host.callDepth = 654 + 1 := by decide +kernel
  have ran := outcome.escapes { body := [.eval callAll] } [] callAll [] refusingMachine
    refusingMachine (by decide +kernel) rfl rfl rfl (eval_callAll _)
  have threw : (callingScript.run refusing.sandbox.host).run
      (callAt refusing.sandbox.host refusing.sandbox.host.callDepth)
      (refusing.sandbox.machine refusing.refusingVm refusing.backend) =
        .error (.thrown (.object refusingMachine.heap.objects.size))
          (stateAfter (callAt refusing.sandbox.host (654 + 1) allFunction (.plain .undefined) []
            refusingMachine)) := by
    rw [depth]
    exact ran
  have named : (stateAfter (callAt refusing.sandbox.host (654 + 1) allFunction (.plain .undefined) []
      refusingMachine)).heap.NamesErrors .error :=
    ⟨by decide +kernel, .hidden, by decide +kernel⟩
  have inTime : (stateAfter (callAt refusing.sandbox.host (654 + 1) allFunction
      (.plain .undefined) [] refusingMachine)).expired = false := by decide +kernel
  exact ⟨_, outcome.uncaught callingScript {} callingScript false _ rfl rfl threw rfl named, inTime⟩

/-- An object that claims to be a very long list, with a property that looks through all of it, and a
console. -/
def addEndless : Building Unit := do
  let search ← Building.add (functionObject (.builtin (.array .includes)) (.unicode "includes") 1)
  let list ← Building.add
    { kind := .plain, prototype := none
      properties := [("length", .plain (.ofNat (twoTo 40))),
        ("found", ⟨.accessor (.object search) .undefined, .ordinary⟩)] }
  Building.define globalRef "list" (.plain (.object list))
  let log ← Building.add (functionObject (.console .log) (.unicode "log") 0)
  let console ← Building.add (.withProperties none [("log", .plain (.object log))])
  Building.define globalRef "console" (.plain (.object console))

/-- The same session with such an object. -/
def tardy : Session where
  sandbox := { Sandbox.ofDefaults with state := .ready tardyVm }
  backend := refusing.backend
where
  tardyVm : Vm := ⟨(addEndless refusing.refusingVm.heap).2, ["query"]⟩

/-- A script that logs the object before it makes the call.  The time runs out over that, the console
keeps the reason, and the script goes on. -/
def tardyScript : Source :=
  .program none { body := [.log "log" [.variable "list"], .eval callAll] }

/-- The kind and the words of the fault that an answer reports. -/
def told? (reply : Reply) : Option (FaultKind × String) :=
  match reply with
  | .error (.script fault) => some (fault.kind, fault.message)
  | _ => none

/-- Once the time is up, the kind tells of that: the table is the built-in one, the call gets through
to the backend, the fault says what the host said and is a timeout. -/
theorem failedCall_late :
    tardy.sandbox.state = .ready tardy.tardyVm ∧ tardy.sandbox.registry = .builtin ∧
      told? (tardy.perform (.eval tardyScript {})).1 =
        some (.timeout, "bim.query.all: out of memory") ∧
      (tardy.perform (.eval tardyScript {})).2.backend.calls.toList.map
        (fun c => (c.namespaceName, c.method)) = [("query", "all")] :=
  ⟨rfl, rfl, by decide +kernel, by decide +kernel⟩

end Session

end ScriptHost
