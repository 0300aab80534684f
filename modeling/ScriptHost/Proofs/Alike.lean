import ScriptHost.Proofs.Session

/-!
# Runs that end alike

Machines that differ only in what a script does not depend on take the script the same way.

* `Clear`: whether no spot of a row is hidden;
* `Blind`: relations of machines that scripts cannot tell apart unless they depend on a hidden spot;
* `Alike`: runs that end the same way on related machines;
* `Composed.alike`: scripts run alike, where calls do;
* `dispatch_alike`: so do calls of capabilities, where the actions of their rows do;
* `runSourceBy_alike`: so do evaluations.
-/

namespace ScriptHost

variable {ε δ α β σ : Type}

/-! ### Relations -/

/-- Whether no spot of a row is hidden. -/
def Clear (hidden : Spot → Prop) (spots : List Spot) : Prop := ∀ s ∈ spots, ¬ hidden s

theorem Clear.append {hidden : Spot → Prop} {left right : List Spot} :
    Clear hidden (left ++ right) ↔ Clear hidden left ∧ Clear hidden right :=
  List.forall_mem_append

theorem Clear.cons {hidden : Spot → Prop} {s : Spot} {rest : List Spot} :
    Clear hidden (s :: rest) ↔ ¬ hidden s ∧ Clear hidden rest :=
  List.forall_mem_cons

/-- Where nothing is hidden, every row is clear. -/
theorem Clear.nothing (spots : List Spot) : Clear (fun _ => False) spots := fun _ _ => id

/-- A relation of machines that no basic step tells apart or breaks, unless it depends on a hidden
spot. -/
structure Blind (hidden : Spot → Prop) (R : Machine → Machine → Prop) : Prop where
  rest {m n : Machine} : R m n → n = { m with heap := n.heap, backend := n.backend, logs := n.logs }
  look {α : Type} {m n : Machine} (hmn : R m n) (q : Look α)
    (clear : Clear hidden (q.spots m.heap)) : q.ask n.heap = q.ask m.heap
  change {m n : Machine} (hmn : R m n) (c : Change) (clear : Clear hidden (c.spots m.heap)) :
    R { m with heap := c.apply m.heap } { n with heap := c.apply n.heap }
  time {m n : Machine} (hmn : R m n) (clock : Nat) (expired : Bool) (pending : Option Value) :
    R { m with clock, expired, pending } { n with clock, expired, pending }

/-- Both runs give the same value or fail for the same reason, and the states that they leave are
related. -/
inductive Alike (R : σ → σ → Prop) : EStateM.Result ε σ α → EStateM.Result ε σ α → Prop
  | ok {s t : σ} (a : α) (hst : R s t) : Alike R (.ok a s) (.ok a t)
  | error {s t : σ} (e : ε) (hst : R s t) : Alike R (.error e s) (.error e t)

section Scripts

variable {hidden : Spot → Prop} {R : Machine → Machine → Prop} {first second : Apply}
  {trails : CallTrail} {m n : Machine}

/-- Runs that begin alike, and go on alike from there, end alike. -/
theorem Alike.sequel {x y : Action ε α} {next next' : α → Action δ β}
    {otherwise otherwise' : ε → Action δ β}
    (start : Clear hidden (x.trail first trails m) → Alike R (x first m) (y second n))
    (rest : ∀ a m' n', R m' n' → Clear hidden ((next a).trail first trails m') →
      Alike R (next a first m') (next' a second n'))
    (fallback : ∀ e m' n', R m' n' → Clear hidden ((otherwise e).trail first trails m') →
      Alike R (otherwise e first m') (otherwise' e second n'))
    (clear : Clear hidden ((x.sequel next otherwise).trail first trails m)) :
    Alike R (x.sequel next otherwise first m) (y.sequel next' otherwise' second n) := by
  obtain ⟨here, after⟩ := Clear.append.1 clear
  have begun := start here
  simp only [Action.sequel]
  generalize x.run first m = left at begun after
  generalize y.run second n = right at begun
  cases begun with
  | ok a hst => exact rest a _ _ hst after
  | error e hst => exact fallback e _ _ hst after

/-- The same where a failure ends the run. -/
theorem Alike.bind {x y : Service α} {next next' : α → Service β}
    (start : Clear hidden (x.trail first trails m) → Alike R (x first m) (y second n))
    (rest : ∀ a m' n', R m' n' → Clear hidden ((next a).trail first trails m') →
      Alike R (next a first m') (next' a second n'))
    (clear : Clear hidden ((x >>= next).trail first trails m)) :
    Alike R ((x >>= next) first m) ((y >>= next') second n) :=
  .sequel start rest (fun e _ _ hst _ => .error e hst) clear

variable (hR : Blind hidden R)
  (calls : ∀ f how args m n, R m n → Clear hidden (trails f how args m) →
    Alike R (first f how args m) (second f how args n))

include hR calls

/-! ### Scripts -/

/-- Where calls run alike, so does every composed action that depends on no hidden spot.  The
induction is on how it is composed. -/
theorem Composed.alike {x : Action ε α} (hx : Composed x) (hmn : R m n)
    (clear : Clear hidden (x.trail first trails m)) : Alike R (x first m) (x second n) := by
  induction hx generalizing m n with
  | give a => exact .ok a hmn
  | fail e => exact .error e hmn
  | sequel _ _ _ start rest fallback =>
    exact .sequel (start hmn) (fun a _ _ => rest a) (fun e _ _ => fallback e) clear
  | call f how args => exact calls f how args m n hmn clear
  | look q =>
    show Alike R (.ok (q.ask m.heap) m) (.ok (q.ask n.heap) n)
    rw [hR.look hmn q clear]
    exact .ok _ hmn
  | change c => exact .ok () (hR.change hmn c clear)
  | tick late =>
    have next := hR.time hmn (m.clock + 1) (m.expired || late (m.clock + 1)) m.pending
    rw [hR.rest hmn] at next ⊢
    exact .ok _ next
  | expire =>
    have next := hR.time hmn m.clock true m.pending
    rw [hR.rest hmn] at next ⊢
    exact .ok () next
  | remember v =>
    have next := hR.time hmn m.clock m.expired (some v)
    rw [hR.rest hmn] at next ⊢
    exact .ok () next

/-- Where calls run alike, so does every computation. -/
theorem Computation.alike (x : Computation ε α) (hmn : R m n)
    (clear : Clear hidden (x.action.trail first trails m)) :
    Alike R (x.run first m) (x.run second n) :=
  x.composed.alike hR calls hmn clear

omit calls in
/-- So does every computation where no call is carried out. -/
theorem Computation.alike_none (x : Computation ε α) (hmn : R m n)
    (clear : Clear hidden (x.action.trail Apply.none (fun _ _ _ _ => []) m)) :
    Alike R (x.run Apply.none m) (x.run Apply.none n) :=
  x.alike hR (fun _ _ _ _ _ hmn _ => .ok _ hmn) hmn clear

/-! ### Capabilities -/

/-- Where calls run alike and so do the actions of a row, calls of the capability do. -/
theorem dispatch_alike (budget : Budget) (namespaceName : String) (row : Method) (args : List Value)
    (served : ∀ m n given, R m n →
      Alike (fun b c => R { m with backend := b } { n with backend := c })
        (row.invoke.call given m.backend) (row.invoke.call given n.backend))
    (hmn : R m n)
    (clear : Clear hidden ((dispatch budget namespaceName row args).trail first trails m)) :
    Alike R (dispatch budget namespaceName row args first m)
      (dispatch budget namespaceName row args second n) := by
  refine .bind (Computation.alike hR calls _ hmn) (fun given m₁ n₁ h₁ clear₁ => ?_) clear
  refine .bind (fun clear₁ => ?_) (fun result m₂ n₂ h₂ => Computation.alike hR calls _ h₂) clear₁
  have acted := served m₁ n₁ given h₁
  refine .bind (fun _ => ?_) (fun outcome m₂ n₂ h₂ clear₂ => ?_) clear₁
  · simp only [Service.run_act]
    generalize row.invoke.call given m₁.backend = left at acted
    generalize row.invoke.call given n₁.backend = right at acted
    cases acted with
    | ok j hst => exact .ok (Except.ok j) hst
    | error e hst => exact .ok (Except.error e) hst
  · cases outcome with
    | ok j => exact .ok j h₂
    | error e =>
      exact Alike.bind (Computation.alike hR calls _ h₂) (fun r _ _ h _ => .error _ h) clear₂

/-! ### Evaluations -/

/-- Where calls run alike, so does a source, with all that follows it. -/
theorem runSourceBy_alike (host : Host) (source : Source) (hmn : R m n)
    (clear : Clear hidden ((source.evaluate host).action.trail first trails m)) :
    (runSourceBy first host source m).1 = (runSourceBy second host source n).1 ∧
      R (runSourceBy first host source m).2 (runSourceBy second host source n).2 := by
  have ran := Computation.alike hR calls (source.evaluate host) hmn clear
  unfold runSourceBy
  generalize (source.evaluate host).run first m = left at ran
  generalize (source.evaluate host).run second n = right at ran
  cases ran with
  | ok result hst => exact ⟨rfl, hst⟩
  | error e hst => exact nomatch e

end Scripts

/-! ### What scripts cannot see -/

/-- A relation of machines by what scripts cannot see, which no basic step breaks. -/
structure Hidden (R : Machine → Machine → Prop) : Prop where
  seen {m n : Machine} : R m n → n = { m with backend := n.backend, logs := n.logs }
  step {m n : Machine} (hmn : R m n) (heap : Heap) (clock : Nat) (expired : Bool)
    (pending : Option Value) :
    R { m with heap, clock, expired, pending } { n with heap, clock, expired, pending }

namespace Hidden

variable {R : Machine → Machine → Prop} (hR : Hidden R)

include hR

theorem heap {m n : Machine} (hmn : R m n) : n.heap = m.heap := by
  rw [hR.seen hmn]

/-- Scripts cannot tell the machines apart, whatever of the heap they depend on. -/
theorem blind : Blind (fun _ => False) R where
  rest hmn := by rw [hR.seen hmn]
  look hmn q _ := by rw [hR.heap hmn]
  change {m n} hmn c _ := by
    have next := hR.step hmn (c.apply m.heap) m.clock m.expired m.pending
    rw [hR.seen hmn] at next ⊢
    exact next
  time {m n} hmn clock expired pending := by
    have next := hR.step hmn m.heap clock expired pending
    rw [hR.seen hmn] at next ⊢
    exact next

end Hidden

end ScriptHost
