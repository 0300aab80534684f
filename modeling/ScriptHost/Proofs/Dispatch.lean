import Mathlib.Data.List.Forall2
import Mathlib.Data.String.Basic
import ScriptHost.Capability.Builtin
import ScriptHost.Proofs.Calls
import ScriptHost.Proofs.Objects
import ScriptHost.Proofs.Rows

/-!
# Calls of capabilities

What a script gets from a call of a capability, whatever its row, its arguments and the backend.

* `hasType_of_convertArguments`: there is an argument for each type, and it is of that type;
* `Raises`, `Refuses`, `HandsBack`: how a call can end;
* `prefix_clip_iff`: what is left of a text begins as the text does, as far as there is room;
* `Dispatched`, `dispatched`: all of what a call does;
* `dispatch_safe`: what scripts call under the names of a row, and what that does;
* `dispatch_through_scripts`: what the table does not tell of a call.
-/

namespace ScriptHost

/-! ### Arguments -/

section Arguments

variable {apply : Apply} {m m' : Machine} {budget : Budget}

/-- What is read for a type is of that type. -/
theorem hasType_of_convertArgument {type : ArgumentType} {rest : List Value} {a : Argument}
    (ok : (convertArgument budget type rest).run apply m = .ok a m') : a.hasType type = true := by
  cases type with
  | string | number | genericValue | entityRefList =>
    simp only [convertArgument] at ok
    split at ok
    · obtain ⟨s, m₁, -, ⟨⟩⟩ := Computation.ok_bind ok
      rfl
    · cases ok
      rfl
  | restStrings =>
    obtain ⟨ss, m₁, -, ⟨⟩⟩ := Computation.ok_bind ok
    rfl

/-- What is read is one argument for each type, of that type. -/
theorem hasType_of_convertArguments {types : List ArgumentType} {values : List Value}
    {given : List Argument}
    (ok : (convertArguments budget types values).run apply m = .ok given m') :
    List.Forall₂ (fun a type => a.hasType type = true) given types := by
  induction types generalizing values given m with
  | nil =>
    cases ok
    exact .nil
  | cons type types ih =>
    obtain ⟨a, m₁, first, ok⟩ := Computation.ok_bind ok
    obtain ⟨rest, m₂, later, ⟨⟩⟩ := Computation.ok_bind ok
    exact .cons (hasType_of_convertArgument first) (ih later)

end Arguments

/-! ### Complaints -/

/-- At a place there is an error of a class with a message. -/
structure Heap.ErrorAt (h : Heap) (r : Ref) (c : ErrorClass) (message : String) : Prop where
  kind : (h.object r).kind = .error
  prototype : (h.object r).prototype = some (Family.error c).prototype
  message : ∃ attributes, h.own? (h.object r) "message" = some ⟨.data (.ofString message), attributes⟩

/-- A run ends with a new error, which a script can catch; nothing else has come of it. -/
def Raises (c : ErrorClass) (message : String) (m : Machine)
    (result : EStateM.Result Halt Machine Value) : Prop :=
  ∃ r h, result = .error (.thrown (.object r)) { m with heap := h } ∧ h.ErrorAt r c message ∧
    ∃ o, h = (m.heap.allocate o).2

/-- A run ends with the complaint of a capability about a conversion: as far as that fits into a
message of the engine, the name of the capability and the reason. -/
def RaisesNamed (c : ErrorClass) (path reason : String) (m : Machine)
    (result : EStateM.Result Halt Machine Value) : Prop :=
  Raises c (clip maxEngineMessage (path ++ ": " ++ reason)) m result ∧
    ((path ++ ": ").toList <+: (clip maxEngineMessage (path ++ ": " ++ reason)).toList ↔
      (path ++ ": ").utf8ByteSize ≤ maxEngineMessage)

/-- A run ends as it does when a conversion for a capability has failed.  What a script threw
meanwhile is thrown as it is. -/
def Refuses (path : String) (e : ConversionError) (m : Machine)
    (result : EStateM.Result Halt Machine Value) : Prop :=
  match e with
  | .engine (.halted h) => result = .error h m
  | .engine cause => Raises .typeError (clip maxEngineMessage cause.message) m result
  | .tooLarge bytes => RaisesNamed .rangeError path (ConversionError.tooLarge bytes).message m result
  | .tooDeep => RaisesNamed .typeError path ConversionError.tooDeep.message m result
  | .deadlineExpired =>
    RaisesNamed .internalError path ConversionError.deadlineExpired.message m result

/-- A run ends with the result of a capability, as its row says that it is handed back. -/
def HandsBack (apply : Apply) (path : String) (type : ResultType) (j : Json) (m : Machine)
    (result : EStateM.Result Halt Machine Value) : Prop :=
  match type, j with
  | .void, _ => result = .ok .undefined m
  | .string, .str s => result = .ok (.ofString s) m
  | .string, _ => result = .ok .null m
  | .genericValue, j =>
    match (marshal j).run apply m with
    | .ok v m' => result = .ok v m'
    | .error e m' => Refuses path e m' result

/-! ### Messages -/

theorem utf8Len_clipChars (room : Nat) (cs : List Char) : String.utf8Len (clipChars room cs) ≤ room := by
  induction cs generalizing room with
  | nil => exact Nat.zero_le _
  | cons c cs ih =>
    unfold clipChars
    split
    · next fits =>
      have rest := ih (room - c.utf8Size)
      rw [String.utf8Len]
      omega
    · exact Nat.zero_le _

theorem prefix_clipChars (front rest : List Char) {room : Nat} (fits : String.utf8Len front ≤ room) :
    front <+: clipChars room (front ++ rest) := by
  induction front generalizing room with
  | nil => exact List.nil_prefix
  | cons c front ih =>
    rw [String.utf8Len] at fits
    rw [List.cons_append, clipChars, if_pos (by omega), List.prefix_cons_inj]
    exact ih (by omega)

/-- What is left of a text has room. -/
theorem utf8ByteSize_clip (room : Nat) (s : String) : (clip room s).utf8ByteSize ≤ room := by
  unfold clip
  split
  · assumption
  · rw [String.utf8ByteSize_ofList]
    exact utf8Len_clipChars _ _

/-- What is left of a text begins as the text does, as far as there is room. -/
theorem prefix_clip_iff (front rest : String) (room : Nat) :
    front.toList <+: (clip room (front ++ rest)).toList ↔ front.utf8ByteSize ≤ room := by
  constructor
  · rintro ⟨tail, same⟩
    have size := utf8ByteSize_clip room (front ++ rest)
    rw [← String.utf8Len_toList, ← same, String.utf8Len_append, String.utf8Len_toList] at size
    omega
  · intro fits
    unfold clip
    split
    · rw [String.toList_append]
      exact List.prefix_append ..
    · rw [String.toList_ofList, String.toList_append]
      exact prefix_clipChars _ _ (by rwa [String.utf8Len_toList])

/-! ### Ends of runs -/

section Ends

variable (apply : Apply) (m : Machine)

/-- A new error lies at the next place. -/
theorem Heap.errorAt_allocate (h : Heap) {o : Object} {c : ErrorClass} {message : String}
    {attributes : Attributes} (kind : o.kind = .error)
    (prototype : o.prototype = some (Family.error c).prototype) (elements : o.elements = #[])
    (lookup : o.properties.lookup (Key.named "message") = some ⟨.data (.ofString message), attributes⟩) :
    (h.allocate o).2.ErrorAt h.objects.size c message := by
  have own : (h.allocate o).2.own? o "message" = o.stored? "message" := by
    unfold Heap.own?
    rw [kind]
  refine ⟨?_, ?_, attributes, ?_⟩
  · rw [object_allocate_self, kind]
  · rw [object_allocate_self, prototype]
  · rw [object_allocate_self, own, o.stored?_of_no_elements _ elements, lookup]

/-- The engine raises its own errors. -/
theorem raises_throwNew (c : ErrorClass) (message : String) :
    Raises c (clip maxEngineMessage message) m ((throwNew c message : Script Value).run apply m) :=
  ⟨_, _, rfl, m.heap.errorAt_allocate rfl rfl rfl rfl, _, rfl⟩

/-- A failed conversion refuses the call. -/
theorem refuses_throwConversion (path : String) (e : ConversionError) :
    Refuses path e m ((throwConversion path e : Script Value).run apply m) := by
  have named (c : ErrorClass) (reason : String) :
      RaisesNamed c path reason m
        ((throwNew c (path ++ ": " ++ reason) : Script Value).run apply m) :=
    ⟨raises_throwNew apply m c _, prefix_clip_iff _ _ _⟩
  cases e with
  | tooLarge bytes => exact named .rangeError _
  | tooDeep => exact named .typeError _
  | deadlineExpired => exact named .internalError _
  | engine cause =>
    cases cause with
    | halted h => rfl
    | brokenText i => exact raises_throwNew apply m .typeError _
    | wrongType found => exact raises_throwNew apply m .typeError _

/-- The result of an action goes back as its row says. -/
theorem handsBack_marshalResult (path : String) (type : ResultType) (j : Json) :
    HandsBack apply path type j m ((duringCall path (marshalResult type j)).run apply m) := by
  cases type with
  | void => exact rfl
  | string => cases j <;> exact rfl
  | genericValue =>
    show match (marshal j).run apply m with
      | .ok v m' => (duringCall path (marshal j)).run apply m = .ok v m'
      | .error e m' => Refuses path e m' ((duringCall path (marshal j)).run apply m)
    unfold duringCall
    rw [Computation.run_sequel]
    cases (marshal j).run apply m with
    | ok v m' => rfl
    | error e m' => exact refuses_throwConversion apply m' path e

end Ends

/-! ### Calls -/

section Calls

variable {budget : Budget} {namespaceName : String} {row : Method} {args : List Value}
  {apply : Apply} {m m₁ : Machine} {given : List Argument}

/-- A call whose arguments cannot be read goes no further. -/
theorem dispatch_of_error {e : ConversionError}
    (read : (convertArguments budget row.args args).run apply m = .error e m₁) :
    dispatch budget namespaceName row args apply m =
      (throwConversion (capabilityPath namespaceName row.name) e : Script Value).run apply m₁ := by
  simp only [dispatch, duringCall, Service.run_bind, Service.run_lift, Computation.run_sequel, read]
  cases e with
  | engine cause => cases cause <;> rfl
  | _ => rfl

/-- A call whose action fails reports that. -/
theorem dispatch_of_failure {e : CapabilityError} {b : Backend}
    (read : (convertArguments budget row.args args).run apply m = .ok given m₁)
    (acted : row.invoke.call given m₁.backend = .error e b) :
    Raises .error (capabilityPath namespaceName row.name ++ ": " ++ e.message)
      { m₁ with backend := b } (dispatch budget namespaceName row args apply m) := by
  simp only [dispatch, duringCall, invokeCapability, Service.run_bind, Service.run_lift,
    Service.run_act, Computation.run_sequel, Computation.run_give, read, acted]
  exact ⟨_, _, rfl, m₁.heap.errorAt_allocate rfl rfl rfl rfl, _, rfl⟩

/-- A call whose action succeeds hands back the result. -/
theorem dispatch_of_success {j : Json} {b : Backend}
    (read : (convertArguments budget row.args args).run apply m = .ok given m₁)
    (acted : row.invoke.call given m₁.backend = .ok j b) :
    dispatch budget namespaceName row args apply m =
      (duringCall (capabilityPath namespaceName row.name) (marshalResult row.returns j)).run apply
        { m₁ with backend := b } := by
  simp only [dispatch, duringCall, invokeCapability, Service.run_bind, Service.run_lift,
    Service.run_act, Computation.run_sequel, Computation.run_give, read, acted]
  rfl

/-- All of what a call of a capability does. -/
structure Dispatched (budget : Budget) (namespaceName : String) (row : Method) (args : List Value)
    (apply : Apply) (m : Machine) : Prop where
  /-- Where the arguments cannot be read, the call is refused on the machine that reading them has
  left, and it would be whatever the action were. -/
  refused : ∀ e m₁, (convertArguments budget row.args args).run apply m = .error e m₁ →
    Refuses (capabilityPath namespaceName row.name) e m₁
        (dispatch budget namespaceName row args apply m) ∧
      ∀ i, dispatch budget namespaceName { row with invoke := i } args apply m =
        dispatch budget namespaceName row args apply m
  /-- Reading arguments leaves the backend as it is, as far as the functions that it calls do. -/
  untouched : (∀ f how vs n, (stateAfter (apply f how vs n)).backend = n.backend) →
    (stateAfter ((convertArguments budget row.args args).run apply m)).backend = m.backend
  /-- Where they can, there is an argument for each type, of that type. -/
  typed : ∀ given m₁, (convertArguments budget row.args args).run apply m = .ok given m₁ →
    List.Forall₂ (fun a type => a.hasType type = true) given row.args
  /-- The action gets as many as it takes and runs on the backend that reading them has left.  If it
  fails, that is reported; if not, its result is handed back.  The call goes on with the backend that
  this one run leaves. -/
  acted : ∀ given m₁, (convertArguments budget row.args args).run apply m = .ok given m₁ →
    ∃ fits : given.length = row.invoke.arity,
      match row.invoke.run ⟨given.toArray, by simpa using fits⟩ m₁.backend with
      | .error e b =>
        Raises .error (capabilityPath namespaceName row.name ++ ": " ++ e.message)
          { m₁ with backend := b } (dispatch budget namespaceName row args apply m)
      | .ok j b =>
        HandsBack apply (capabilityPath namespaceName row.name) row.returns j
          { m₁ with backend := b } (dispatch budget namespaceName row args apply m)
  /-- Nothing else is ever asked of the action. -/
  once : ∀ given m₁, (convertArguments budget row.args args).run apply m = .ok given m₁ →
    ∀ i : Invoke, i.call given m₁.backend = row.invoke.call given m₁.backend →
      dispatch budget namespaceName { row with invoke := i } args apply m =
        dispatch budget namespaceName row args apply m

/-- What a call of a capability does, for every table that keeps the rules, every row of it, all
arguments and every machine. -/
theorem dispatched {rows : Registry} (valid : rows.fault? = none) {ns : Namespace} (hns : ns ∈ rows)
    (hrow : row ∈ ns.methods) (budget : Budget) (args : List Value) (apply : Apply) (m : Machine) :
    Dispatched budget ns.name row args apply m where
  refused e m₁ read := by
    refine ⟨?_, fun i => ?_⟩
    · rw [dispatch_of_error read]
      exact refuses_throwConversion apply m₁ _ e
    · have read' : (convertArguments budget { row with invoke := i }.args args).run apply m =
        .error e m₁ := read
      rw [dispatch_of_error read, dispatch_of_error read']
  untouched calls :=
    Computation.preserves (P := fun m n => n.backend = m.backend)
      ⟨fun _ => rfl, fun first second => second.trans first, fun _ _ => rfl, fun _ _ _ _ => rfl⟩
      calls _ m
  typed given m₁ read := hasType_of_convertArguments read
  acted given m₁ read := by
    have fits : given.length = row.invoke.arity :=
      (hasType_of_convertArguments read).length_eq.trans
        (Registry.arity_of_mem valid hns hrow).symm
    have call : row.invoke.call given m₁.backend =
        row.invoke.run ⟨given.toArray, by simpa using fits⟩ m₁.backend := by
      rw [Invoke.call, dif_pos fits]
    refine ⟨fits, ?_⟩
    rw [← call]
    cases acted : row.invoke.call given m₁.backend with
    | error e b => exact dispatch_of_failure read acted
    | ok j b =>
      dsimp only
      rw [dispatch_of_success read acted]
      exact handsBack_marshalResult apply _ _ _ j
  once given m₁ read i same := by
    have read' : (convertArguments budget { row with invoke := i }.args args).run apply m =
      .ok given m₁ := read
    simp only [dispatch, duringCall, invokeCapability, Service.run_bind, Service.run_lift,
      Service.run_act, Computation.run_sequel, Computation.run_give, read, same]

end Calls

/-- What scripts call under the names of a row is that row. -/
theorem callAt_capability {host : Host} (valid : host.registry.fault? = none) {ns : Namespace}
    (hns : ns ∈ host.registry) {row : Method} (hrow : row ∈ ns.methods) {f : Value} {m : Machine}
    (holds : m.heap.Holds f (.capability ns.name row.name)) (depth : Nat) (this : Value)
    (args : List Value) :
    callAt host (depth + 1) f (.plain this) args m =
      dispatch host.budget ns.name row args (callAt host depth) m := by
  obtain ⟨r, rfl, hk⟩ := holds
  simp only [callAt, callValue, Service.run_bind, Service.run_lift, Computation.run_readObject,
    Object.kind_frame, hk, callFunction, Registry.row?_of_mem valid hns hrow]

/-- For every table that keeps the rules and every row of it: what scripts call under its names is
that row, and this is what a call of it does, on every machine and with all arguments. -/
theorem dispatch_safe {host : Host} (valid : host.registry.fault? = none) {ns : Namespace}
    (hns : ns ∈ host.registry) {row : Method} (hrow : row ∈ ns.methods) (args : List Value) :
    (∀ depth f this m, m.heap.Holds f (.capability ns.name row.name) →
      callAt host (depth + 1) f (.plain this) args m =
        dispatch host.budget ns.name row args (callAt host depth) m) ∧
    ∀ budget apply m, Dispatched budget ns.name row args apply m :=
  ⟨fun depth _ this _ holds => callAt_capability valid hns hrow holds depth this args,
    fun budget apply m => dispatched valid hns hrow budget args apply m⟩

/-! ### Calls in which scripts take part -/

/-- The calls that a backend got before a run failed. -/
def callsOfFailure {ε α : Type} : EStateM.Result ε Machine α → Option (List (String × String))
  | .ok _ _ => none
  | .error _ m => some (m.backend.calls.toList.map fun c => (c.namespaceName, c.method))

/-- The message of the error that a run threw. -/
def messageOfFailure {α : Type} : EStateM.Result Halt Machine α → Option String
  | .error (.thrown (.object r)) m =>
    match m.heap.own? (m.heap.object r) "message" with
    | some ⟨.data (.string t), _⟩ => t.toUnicode.toOption
    | _ => none
  | _ => none

theorem messageOfFailure_of_raises {c : ErrorClass} {message : String} {m : Machine}
    {result : EStateM.Result Halt Machine Value} (raised : Raises c message m result) :
    messageOfFailure result = some message := by
  obtain ⟨r, h, rfl, error, -⟩ := raised
  obtain ⟨attributes, own⟩ := error.message
  simp only [messageOfFailure, own]
  rfl

/-- A host with the built-in table. -/
def builtinHost : Host := ⟨.builtin, .default⟩

/-- A machine with a capability at a place, and right after it an object whose text is what that
gives. -/
def askingMachine : Machine where
  heap :=
    (Building.add (functionObject (.capability "model" "list") (.unicode "list") 0) >>= fun f =>
      Building.add (.withProperties (some Family.object.prototype)
        [("toString", .plain (.object f))])).run Heap.bare |>.2
  backend := {}
  logs := {}

/-- The object of that machine. -/
def asking : Value := .object (Heap.bare.objects.size + 1)

/-- A machine whose objects all have a property that cannot be set, with a response that sets it. -/
def guardedMachine : Machine where
  heap := Heap.bare.define Family.object.prototype "k" { getter := some .undefined }
  backend := Backend.empty.withResponse "model.active" (.obj [("k", .int 1)])
  logs := {}

/-- A capability with a name that leaves no room in messages. -/
def longRow : Method where
  name := String.ofList (List.replicate 300 'm')
  args := [.genericValue]
  returns := .void
  invoke := .unary fun a => Registry.silent (Capability.acknowledge "model" "m" [a.toJson])

/-- The first of the built-in capabilities, on a machine where a script can call it. -/
theorem dispatch_safe_builtin :
    builtinHost.registry.fault? = none ∧ Registry.modelNamespace ∈ builtinHost.registry ∧
      Dispatched builtinHost.budget "model" (Registry.modelNamespace.methods.get ⟨0, by decide⟩)
        [asking] (callAt builtinHost 2) askingMachine ∧
      (stateAfter (callAt builtinHost 3 (.object Heap.bare.objects.size) (.plain .undefined)
        [asking] askingMachine)).backend.calls.toList.map (fun c => (c.namespaceName, c.method)) =
        [("model", "list")] := by
  have valid : builtinHost.registry.fault? = none := by decide +kernel
  have listed : Registry.modelNamespace ∈ builtinHost.registry := List.mem_cons_self ..
  have dispatched := (dispatch_safe valid listed
    (List.get_mem Registry.modelNamespace.methods ⟨0, by decide⟩) [asking]).2
  exact ⟨valid, listed, dispatched _ _ _, by decide +kernel⟩

/-- What the table does not tell of a call, once scripts take part in it or names get long.  An
argument that is no text may call a capability before it is found to be none: the backend has got
that call, although the capability that the script called never ran.  Where a result meets a property
that cannot be set, the script sees what the engine says about that.  And the engine cuts its
messages, so a name that is too long leaves no room for the rest. -/
theorem dispatch_through_scripts :
    (Registry.lensNamespace.method? "activate").map (fun row =>
        (callsOfFailure ((convertArguments builtinHost.budget row.args [asking]).run
            (callAt builtinHost 2) askingMachine),
          callsOfFailure (dispatch builtinHost.budget "lens" row [asking]
            (callAt builtinHost 2) askingMachine))) =
        some (some [("model", "list")], some [("model", "list")]) ∧
      (Registry.modelNamespace.method? "active").map (fun row =>
        messageOfFailure (dispatch builtinHost.budget "model" row [] .none guardedMachine)) =
        some (some "no setter for property") ∧
      Registry.fault? [⟨"model", .model, [longRow]⟩] = none ∧
      ∃ message, messageOfFailure (dispatch ⟨0, none⟩ "model" longRow [.null] .none askingMachine) =
          some message ∧
        ¬ (capabilityPath "model" longRow.name ++ ": ").toList <+: message.toList := by
  have valid : Registry.fault? [⟨"model", .model, [longRow]⟩] = none := by decide +kernel
  have read : (convertArguments ⟨0, none⟩ longRow.args [.null]).run .none askingMachine =
    .error (.tooLarge 0) askingMachine := rfl
  have refused := ((dispatched valid (List.mem_cons_self ..) (List.mem_cons_self ..) ⟨0, none⟩ [.null]
    .none askingMachine).refused _ _ read).1
  refine ⟨by decide +kernel, by decide +kernel, valid, _, messageOfFailure_of_raises refused.1, ?_⟩
  have long : maxEngineMessage < (capabilityPath "model" longRow.name ++ ": ").utf8ByteSize := by
    have name : longRow.name.utf8ByteSize = 300 :=
      (String.utf8ByteSize_ofList _).trans (by decide +kernel)
    rw [String.utf8ByteSize_append, capabilityPath, String.utf8ByteSize_append, name]
    decide +kernel
  exact fun named => Nat.not_le_of_lt long (refused.2.1 named)

end ScriptHost
