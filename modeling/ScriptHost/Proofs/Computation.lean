import ScriptHost.Engine.Machine

/-!
# What computations do

* `Computation.run_pure`, `Computation.run_bind` and the like: the parts of a computation, run;
* `Computation.ok_bind`: a computation that ends well has ended each part well;
* `Computation.error_bind`: one that fails has failed in a part;
* `Computation.ext`: computations are told apart by their runs and trails, so they form a lawful
  monad;
* `stateAfter`, `valueAfter?`: the state that a run leaves, whatever its end, and what it gives;
* `Composed.preserves`: what holds across all basic steps holds across every computation.
-/

namespace ScriptHost

variable {ε δ α β : Type}

/-! ### Runs -/

namespace Computation

variable (apply : Apply) (m : Machine)

@[simp] theorem run_pure (a : α) : (pure a : Computation ε α).run apply m = .ok a m := rfl

@[simp] theorem run_give (a : α) : (give a : Computation ε α).run apply m = .ok a m := rfl

@[simp] theorem run_fail (e : ε) : (fail e : Computation ε α).run apply m = .error e m := rfl

@[simp] theorem run_throw (e : ε) : (throw e : Computation ε α).run apply m = .error e m := rfl

@[simp] theorem run_sequel (x : Computation ε α) (next : α → Computation δ β)
    (otherwise : ε → Computation δ β) :
    (x.sequel next otherwise).run apply m =
      match x.run apply m with
      | .ok a m => (next a).run apply m
      | .error e m => (otherwise e).run apply m := rfl

@[simp] theorem run_bind (x : Computation ε α) (next : α → Computation ε β) :
    (x >>= next).run apply m =
      match x.run apply m with
      | .ok a m => (next a).run apply m
      | .error e m => .error e m := rfl

@[simp] theorem run_map (f : α → β) (x : Computation ε α) :
    (f <$> x).run apply m =
      match x.run apply m with
      | .ok a m => .ok (f a) m
      | .error e m => .error e m := rfl

@[simp] theorem run_look (q : Look α) :
    (look q : Computation ε α).run apply m = .ok (q.ask m.heap) m := rfl

@[simp] theorem run_readObject (r : Ref) :
    (readObject r).run apply m = .ok (m.heap.object r).frame m := rfl

@[simp] theorem run_readOwn (r : Ref) (key : Key) :
    (readOwn r key).run apply m = .ok (m.heap.own? (m.heap.object r) key) m := rfl

@[simp] theorem run_change (c : Change) :
    (change c : Computation ε Unit).run apply m = .ok () { m with heap := c.apply m.heap } := rfl

@[simp] theorem run_tick (late : Nat → Bool) :
    (tick late : Computation ε Bool).run apply m =
      .ok (late (m.clock + 1))
        { m with clock := m.clock + 1, expired := m.expired || late (m.clock + 1) } := rfl

@[simp] theorem run_ite (p : Prop) [Decidable p] (x y : Computation ε α) :
    (if p then x else y).run apply m = if p then x.run apply m else y.run apply m := by
  split <;> rfl

variable {apply m} in
/-- A computation that ends well has ended each part well. -/
theorem ok_bind {x : Computation ε α} {next : α → Computation ε β} {b : β} {m' : Machine}
    (ok : (x >>= next).run apply m = .ok b m') :
    ∃ a m₁, x.run apply m = .ok a m₁ ∧ (next a).run apply m₁ = .ok b m' := by
  rw [run_bind] at ok
  cases h : x.run apply m with
  | ok a m₁ =>
    rw [h] at ok
    exact ⟨a, m₁, rfl, ok⟩
  | error e m₁ =>
    rw [h] at ok
    cases ok

variable {apply m} in
/-- A computation that fails has failed in its first part, or has ended that one well. -/
theorem error_bind {x : Computation ε α} {next : α → Computation ε β} {e : ε} {m' : Machine}
    (failed : (x >>= next).run apply m = .error e m') :
    x.run apply m = .error e m' ∨
      ∃ a m₁, x.run apply m = .ok a m₁ ∧ (next a).run apply m₁ = .error e m' := by
  rw [run_bind] at failed
  cases h : x.run apply m with
  | ok a m₁ =>
    rw [h] at failed
    exact .inr ⟨a, m₁, rfl, failed⟩
  | error e m₁ =>
    rw [h] at failed
    cases failed
    exact .inl rfl

/-- Computations with the same runs and trails are the same. -/
theorem ext {x y : Computation ε α} (run : ∀ apply m, x.run apply m = y.run apply m)
    (trail : ∀ apply calls m, x.action.trail apply calls m = y.action.trail apply calls m) :
    x = y := by
  obtain ⟨⟨_, _⟩, _⟩ := x
  obtain ⟨⟨_, _⟩, _⟩ := y
  obtain rfl := funext fun apply => funext (run apply)
  obtain rfl := funext fun apply => funext fun calls => funext (trail apply calls)
  rfl

@[simp] theorem trail_sequel (x : Computation ε α) (next : α → Computation δ β)
    (otherwise : ε → Computation δ β) (calls : CallTrail) :
    (x.sequel next otherwise).action.trail apply calls m =
      x.action.trail apply calls m ++
        match x.run apply m with
        | .ok a m => (next a).action.trail apply calls m
        | .error e m => (otherwise e).action.trail apply calls m := rfl

@[simp] theorem trail_bind (x : Computation ε α) (next : α → Computation ε β) (calls : CallTrail) :
    (x >>= next).action.trail apply calls m =
      x.action.trail apply calls m ++
        match x.run apply m with
        | .ok a m => (next a).action.trail apply calls m
        | .error _ _ => [] := rfl

@[simp] theorem trail_map (f : α → β) (x : Computation ε α) (calls : CallTrail) :
    (f <$> x).action.trail apply calls m = x.action.trail apply calls m := by
  show x.action.trail apply calls m ++ _ = _
  cases x.action.run apply m <;> exact List.append_nil _

instance : LawfulMonad (Computation ε) :=
  LawfulMonad.mk' _
    (fun x => ext (fun apply m => by rw [run_map]; cases x.run apply m <;> rfl)
      fun apply calls m => trail_map apply m id x calls)
    (fun _ _ => rfl)
    (fun x _ _ => ext (fun apply m => by simp only [run_bind]; cases x.run apply m <;> rfl)
      fun apply calls m => by
        simp only [trail_bind, run_bind]
        cases x.run apply m <;> simp)

end Computation

namespace Service

variable (apply : Apply) (m : Machine)

@[simp] theorem run_lift (s : Script α) : (liftM s : Service α) apply m = s.run apply m := rfl

@[simp] theorem run_act {ε : Type} (a : EStateM ε Backend α) :
    (Action.act a : Service (Except ε α)) apply m =
      match a m.backend with
      | .ok result b => .ok (.ok result) { m with backend := b }
      | .error e b => .ok (.error e) { m with backend := b } := by
  simp only [Action.act, Action.ofStep]
  cases a m.backend <;> rfl

@[simp] theorem run_readLogs : (Action.readLogs : Service LogBuffer) apply m = .ok m.logs m := rfl

@[simp] theorem run_modifyLogs (f : LogBuffer → LogBuffer) :
    (Action.modifyLogs f : Service Unit) apply m = .ok () { m with logs := f m.logs } := rfl

@[simp] theorem run_pure (a : α) : (pure a : Service α) apply m = .ok a m := rfl

@[simp] theorem run_throw (e : Halt) : (throw e : Service α) apply m = .error e m := rfl

@[simp] theorem run_bind (x : Service α) (next : α → Service β) :
    (x >>= next) apply m =
      match x apply m with
      | .ok a m => next a apply m
      | .error e m => .error e m := by
  simp only [bind, Action.sequel]
  cases x apply m <;> rfl

end Service

/-! ### Invariants -/

/-- The state that a run leaves, whatever its end. -/
def stateAfter {σ : Type} : EStateM.Result ε σ α → σ
  | .ok _ s | .error _ s => s

/-- The value that a run gives, if it ends well. -/
def valueAfter? {σ : Type} : EStateM.Result ε σ α → Option α
  | .ok a _ => some a
  | .error .. => none

theorem ok_of_valueAfter? {σ : Type} {r : EStateM.Result ε σ α} {a : α}
    (h : valueAfter? r = some a) : ∃ s, r = .ok a s := by
  cases r with
  | ok b s =>
    cases h
    exact ⟨s, rfl⟩
  | error e s => cases h

/-- A property of two states of which the second comes after the first: it holds along rows of
steps, and across all steps that are no calls. -/
structure Stepwise (P : Machine → Machine → Prop) : Prop where
  refl (m : Machine) : P m m
  trans {a b c : Machine} : P a b → P b c → P a c
  change (c : Change) (m : Machine) : P m { m with heap := c.apply m.heap }
  time (m : Machine) (clock : Nat) (expired : Bool) (pending : Option Value) :
    P m { m with clock, expired, pending }

/-- What holds across all basic steps holds across every composed action. -/
theorem Composed.preserves {P : Machine → Machine → Prop} (hP : Stepwise P) {apply : Apply}
    (calls : ∀ f how args m, P m (stateAfter (apply f how args m)))
    {x : Action ε α} (hx : Composed x) (m : Machine) : P m (stateAfter (x apply m)) := by
  induction hx generalizing m with
  | give a => exact hP.refl m
  | fail e => exact hP.refl m
  | @sequel _ _ _ _ x next otherwise _ _ _ first rest fallback =>
    have start := first m
    simp only [Action.sequel]
    cases h : x apply m with
    | ok a m' =>
      rw [h] at start
      exact hP.trans start (rest a m')
    | error e m' =>
      rw [h] at start
      exact hP.trans start (fallback e m')
  | call f how args => exact calls f how args m
  | look q => exact hP.refl m
  | change c => exact hP.change c m
  | tick late => exact hP.time m _ _ m.pending
  | expire => exact hP.time m m.clock _ m.pending
  | remember v => exact hP.time m m.clock m.expired _

/-- What holds across all basic steps holds across every computation. -/
theorem Computation.preserves {P : Machine → Machine → Prop} (hP : Stepwise P) {apply : Apply}
    (calls : ∀ f how args m, P m (stateAfter (apply f how args m)))
    (x : Computation ε α) (m : Machine) : P m (stateAfter (x.run apply m)) :=
  x.composed.preserves hP calls m

end ScriptHost
