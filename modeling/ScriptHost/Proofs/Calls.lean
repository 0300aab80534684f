import ScriptHost.Proofs.Computation
import ScriptHost.Script.Run

/-!
# What calls do

* `callValue_cases`: a call is a script, a call of a capability, or a call of the console;
* `callAt_preserves`: what holds across all steps of scripts and of the host holds across calls.
-/

namespace ScriptHost

variable {ε α : Type} {P : Machine → Machine → Prop}

/-! ### Single calls -/

/-- Whether a value is a function of the host under the names of a namespace and a method. -/
def Heap.Holds (h : Heap) (f : Value) (c : Callable) : Prop :=
  ∃ r, f = .object r ∧ (h.object r).kind = .function c

/-- A call of a function is a script, unless the function is one of the host. -/
theorem callFunction_cases (host : Host) (c : Callable) (self : Ref) (how : Invocation)
    (args : List Value) :
    (∃ s : Script Value, callFunction host c self how args = s.run) ∨
    (∃ namespaceName method row, c = .capability namespaceName method ∧
      host.row? namespaceName method = some row ∧
      callFunction host c self how args = dispatch host.budget namespaceName row args) ∨
    (∃ level, c = .console level ∧
      callFunction host c self how args = logCall host.budget level args) := by
  cases c with
  | capability namespaceName method =>
    cases h : host.row? namespaceName method with
    | none =>
      refine .inl ⟨throwType "not a function", ?_⟩
      simp only [callFunction, h]
      rfl
    | some row =>
      refine .inr (.inl ⟨namespaceName, method, row, rfl, h, ?_⟩)
      simp only [callFunction, h]
  | console level => exact .inr (.inr ⟨level, rfl, rfl⟩)
  | _ => exact .inl ⟨_, rfl⟩

/-- Whether objects can be made with a function is seen on the heap. -/
theorem isConstructor_of_function {h : Heap} {r : Ref} {c : Callable}
    (hk : (h.object r).kind = .function c) (apply : Apply) {m : Machine} (hm : m.heap = h) :
    (isConstructor (.object r)).run apply m = .ok (constructs h h.objects.size c) m := by
  subst hm
  have self : m.heap.unwrap (m.heap.objects.size + 1) r = m.heap.object r := by
    rw [Heap.unwrap, hk]
  have callable : (m.heap.object r).callable? = some c := by rw [Object.callable?, hk]
  simp only [isConstructor, behindProxies, Computation.run_bind, Computation.run_look, Look.ask, self,
    Object.callable?_frame, callable]

section Heaps

variable {h : Heap} (host : Host) (how : Invocation) (args : List Value)

/-- A call of a function for a new object is refused, or the function makes objects. -/
theorem callValue_making {r : Ref} {c : Callable} (newTarget : Ref)
    (hk : (h.object r).kind = .function c) (apply : Apply) {m : Machine} (hm : m.heap = h) :
    callValue host (.object r) (.making newTarget) args apply m =
      if constructs h h.objects.size c then callFunction host c r (.making newTarget) args apply m
      else (refuseConstruction : Script Value).run apply m := by
  have hk' : (m.heap.object r).kind = .function c := by rw [hm, hk]
  simp only [callValue, Service.run_bind, Service.run_lift, Computation.run_readObject, Object.kind_frame, hk',
    isConstructor_of_function hk apply hm]
  cases constructs h h.objects.size c <;> rfl

/-- A call of an object is a script, or a call of the function that it is, which makes objects if
the call is for a new one. -/
theorem callValue_object (r : Ref) :
    (∃ s : Script Value, ∀ apply m, m.heap = h →
      callValue host (.object r) how args apply m = s.run apply m) ∨
    ∃ c, (h.object r).kind = .function c ∧
      (∀ newTarget, how = .making newTarget → constructs h h.objects.size c = true) ∧
      ∀ apply m, m.heap = h →
        callValue host (.object r) how args apply m = callFunction host c r how args apply m := by
  cases hk : (h.object r).kind with
  | function c =>
    cases how with
    | plain this =>
      refine .inr ⟨c, rfl, by simp, ?_⟩
      rintro apply m rfl
      simp only [callValue, Service.run_bind, Service.run_lift, Computation.run_readObject, Object.kind_frame, hk]
    | making newTarget =>
      by_cases made : constructs h h.objects.size c = true
      · refine .inr ⟨c, rfl, fun _ _ => made, fun apply m hm => ?_⟩
        rw [callValue_making host args newTarget hk apply hm, if_pos made]
      · refine .inl ⟨refuseConstruction, fun apply m hm => ?_⟩
        rw [callValue_making host args newTarget hk apply hm, if_neg made]
  | proxy target handler revoked =>
    refine .inl ⟨callProxy target handler revoked how args, ?_⟩
    rintro apply m rfl
    simp only [callValue, Service.run_bind, Service.run_lift, Computation.run_readObject, Object.kind_frame, hk]
  | _ =>
    cases how with
    | plain this =>
      refine .inl ⟨throwType "not a function", ?_⟩
      rintro apply m rfl
      simp only [callValue, Service.run_bind, Service.run_lift, Computation.run_readObject, Object.kind_frame, hk]
    | making newTarget =>
      refine .inl ⟨refuseConstruction, ?_⟩
      rintro apply m rfl
      simp only [callValue, Service.run_bind, Service.run_lift, Computation.run_readObject, Object.kind_frame, hk]

/-- On each heap a call of a value is a script, unless the value is a function of the host.  No
objects are made with the console. -/
theorem callValue_cases (f : Value) (h : Heap) :
    (∃ s : Script Value, ∀ apply m, m.heap = h →
      callValue host f how args apply m = s.run apply m) ∨
    (∃ namespaceName method row, h.Holds f (.capability namespaceName method) ∧
      host.row? namespaceName method = some row ∧ ∀ apply m, m.heap = h →
        callValue host f how args apply m = dispatch host.budget namespaceName row args apply m) ∨
    (∃ level this, h.Holds f (.console level) ∧ how = .plain this ∧ ∀ apply m, m.heap = h →
      callValue host f how args apply m = logCall host.budget level args apply m) := by
  cases f with
  | object r =>
    rcases callValue_object host how args r with ⟨s, run⟩ | ⟨c, hk, made, run⟩
    · exact .inl ⟨s, run⟩
    · rcases callFunction_cases host c r how args with ⟨s, hs⟩ | ⟨ns, name, row, rfl, hrow, hs⟩ |
        ⟨level, rfl, hs⟩
      · exact .inl ⟨s, fun apply m hm => by rw [run apply m hm, hs]⟩
      · exact .inr (.inl ⟨ns, name, row, ⟨r, rfl, hk⟩, hrow, fun apply m hm => by
          rw [run apply m hm, hs]⟩)
      · cases how with
        | plain this =>
          exact .inr (.inr ⟨level, this, ⟨r, rfl, hk⟩, rfl, fun apply m hm => by
            rw [run apply m hm, hs]⟩)
        | making newTarget =>
          have made := made newTarget rfl
          simp [constructs] at made
  | _ => exact .inl ⟨throwType "not a function", fun _ _ _ => rfl⟩

end Heaps

/-! ### All calls -/

/-- What holds until a first part ends, and from there on, holds across the whole. -/
theorem Service.preserves_bind {β : Type} {x : Service α} {next : α → Service β} {apply : Apply}
    {start m : Machine} (hx : P start (stateAfter (x apply m)))
    (hnext : ∀ a m', P start m' → P start (stateAfter (next a apply m'))) :
    P start (stateAfter ((x >>= next) apply m)) := by
  rw [Service.run_bind]
  cases h : x apply m with
  | ok a m' =>
    rw [h] at hx
    exact hnext a m' hx
  | error e m' =>
    rw [h] at hx
    exact hx

/-- What running a row does to the machine. -/
theorem invokeCapability_preserves (hP : Stepwise P) {apply : Apply}
    (calls : ∀ f how args m, P m (stateAfter (apply f how args m))) {start m : Machine}
    (path : String) (row : Method) (given : List Argument)
    (served : P start { m with backend := stateAfter (row.invoke.call given m.backend) }) :
    P start (stateAfter (invokeCapability path row given apply m)) := by
  unfold invokeCapability
  simp only [Service.run_bind, Service.run_act]
  cases h : row.invoke.call given m.backend with
  | ok j b =>
    rw [h] at served
    exact served
  | error e b =>
    rw [h] at served
    exact hP.trans served (Computation.preserves hP calls
      (do
        let r ← allocate (reportedError (path ++ ": " ++ e.message))
        throw (.thrown (.object r)) : Script Json) { m with backend := b })

/-- What a call of a capability does to the machine besides running scripts. -/
theorem dispatch_preserves (hP : Stepwise P) {apply : Apply}
    (calls : ∀ f how args m, P m (stateAfter (apply f how args m))) {m : Machine}
    (budget : Budget) (namespaceName : String) (row : Method) (args : List Value)
    (served : ∀ m' (given : List Argument), P m m' →
      P m { m' with backend := stateAfter (row.invoke.call given m'.backend) }) :
    P m (stateAfter (dispatch budget namespaceName row args apply m)) := by
  unfold dispatch
  refine Service.preserves_bind (Computation.preserves hP calls _ m) fun given m' hm' => ?_
  refine Service.preserves_bind ?_ fun result m'' hm'' => ?_
  · exact invokeCapability_preserves hP calls _ row given (served m' given hm')
  · exact hP.trans hm'' (Computation.preserves hP calls _ m'')

/-- What a call of the console does to the machine besides running scripts. -/
theorem logCall_preserves (hP : Stepwise P) {apply : Apply}
    (calls : ∀ f how args m, P m (stateAfter (apply f how args m))) {m : Machine}
    (budget : Budget) (level : LogLevel) (args : List Value)
    (logged : ∀ m' (e : LogEntry), P m m' → P m { m' with logs := m'.logs.push e }) :
    P m (stateAfter (logCall budget level args apply m)) := by
  unfold logCall
  simp only [Service.run_bind, Service.run_readLogs]
  cases m.logs.remaining? with
  | none => exact hP.refl m
  | some room =>
    refine Service.preserves_bind (Computation.preserves hP calls _ m) fun js m' hm' => ?_
    exact logged m' ⟨level, js⟩ hm'

/-- What holds across all basic steps, across the actions of the rows that scripts can call, and
across the entries of the console, holds across all calls.  The induction is on how deep calls
may nest. -/
theorem callAt_preserves (hP : Stepwise P) (host : Host)
    (served : ∀ m m' f namespaceName method row (given : List Argument),
      m.heap.Holds f (.capability namespaceName method) →
      host.row? namespaceName method = some row → P m m' →
      P m { m' with backend := stateAfter (row.invoke.call given m'.backend) })
    (logged : ∀ m m' (e : LogEntry), P m m' → P m { m' with logs := m'.logs.push e })
    (depth : Nat) (f : Value) (how : Invocation) (args : List Value) (m : Machine) :
    P m (stateAfter (callAt host depth f how args m)) := by
  induction depth generalizing f how args m with
  | zero =>
    have none_calls (f how args) (m : Machine) : P m (stateAfter (Apply.none f how args m)) :=
      hP.refl m
    exact Computation.preserves hP none_calls stackExceeded m
  | succ depth ih =>
    show P m (stateAfter (callValue host f how args (callAt host depth) m))
    rcases callValue_cases host how args f m.heap with ⟨s, run⟩ |
      ⟨ns, method, row, hf, hrow, run⟩ | ⟨level, this, -, -, run⟩
    · rw [run _ m rfl]
      exact Computation.preserves hP ih s m
    · rw [run _ m rfl]
      exact dispatch_preserves hP ih _ ns row args fun m' given hm' =>
        served m m' f ns method row given hf hrow hm'
    · rw [run _ m rfl]
      exact logCall_preserves hP ih _ level args (logged m)

end ScriptHost
