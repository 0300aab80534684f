import ScriptHost.Conversion.Dump
import ScriptHost.Proofs.Computation

/-!
# What walks do

* `Walker.run_pure`, `Walker.run_bind` and the like: the parts of a walk, run;
* `Walker.ok_bind`: a walk that ends well has ended each part well;
* `run_charge_of_blind`: a payment at which nothing looks at the clock;
* `Walker.Unpaid`: a part of a walk that nothing is paid for;
* `Walker.Rule`: what holds of parts of walks under two budgets, and so of the walks of a value;
* `Walker.Makes`: what a walk makes on a heap, and for what cost;
* `Walker.Makes.bind`, `Walker.Makes.charge` and the like: walks put together from their parts;
* `run_dump_of_makes`: the conversion of a value whose walk makes a document.
-/

namespace ScriptHost

namespace Walker

variable {α β : Type} (apply : Apply) (m : Machine) (p : Payment)

@[simp] theorem run_pure (a : α) : ((pure a : Walker α) p).run apply m = .ok (a, p) m := rfl

@[simp] theorem run_fail (e : ConversionError) :
    ((fail e : Walker α) p).run apply m = .error (e, p) m := rfl

@[simp] theorem run_bind (x : Walker α) (next : α → Walker β) :
    ((x >>= next) p).run apply m =
      match (x p).run apply m with
      | .ok (a, p') m' => (next a p').run apply m'
      | .error e m' => .error e m' := by
  show (x p >>= fun r => next r.1 r.2).run apply m = _
  rw [Computation.run_bind]
  cases (x p).run apply m <;> rfl

@[simp] theorem run_map (f : α → β) (x : Walker α) :
    ((f <$> x) p).run apply m =
      match (x p).run apply m with
      | .ok (a, p') m' => .ok (f a, p') m'
      | .error e m' => .error e m' := by
  show (x p >>= fun r => pure (f r.1, r.2)).run apply m = _
  rw [Computation.run_bind]
  cases (x p).run apply m <;> rfl

@[simp] theorem run_ofScript (s : Script α) :
    (ofScript s p).run apply m =
      match s.run apply m with
      | .ok a m' => .ok (a, p) m'
      | .error h m' => .error (.engine (.halted h), p) m' := by
  simp only [ofScript, Computation.run_sequel]
  cases s.run apply m <;> rfl

variable {apply m p}

/-- A walk that ends well has ended each part well. -/
theorem ok_bind {x : Walker α} {next : α → Walker β} {b : β} {p' : Payment} {m' : Machine}
    (ok : ((x >>= next) p).run apply m = .ok (b, p') m') :
    ∃ a p₁ m₁, (x p).run apply m = .ok (a, p₁) m₁ ∧ (next a p₁).run apply m₁ = .ok (b, p') m' := by
  rw [run_bind] at ok
  cases h : (x p).run apply m with
  | ok r m₁ =>
    obtain ⟨a, p₁⟩ := r
    rw [h] at ok
    exact ⟨a, p₁, m₁, rfl, ok⟩
  | error e m₁ =>
    rw [h] at ok
    cases ok

end Walker

/-- A payment between two looks at the clock. -/
theorem run_charge_of_blind (budget : Budget) (payload : Nat) (apply : Apply) (m : Machine)
    {p : Payment} (blind : (p.visited + 1) % clockStride ≠ 0) :
    (charge budget payload p).run apply m =
      if saturatingAdd (saturatingAdd p.spent Json.nodeCost) payload > budget.maxBytes then
        .error (.tooLarge budget.maxBytes,
          { p with spent := saturatingAdd (saturatingAdd p.spent Json.nodeCost) payload }) m
      else
        .ok ((), ⟨saturatingAdd (saturatingAdd p.spent Json.nodeCost) payload, p.visited + 1⟩)
          { m with clock := m.clock + 1 } := by
  unfold charge
  dsimp only
  split
  · rfl
  · simp only [Computation.run_bind, Computation.run_tick, decide_eq_false blind, Bool.false_and,
      Bool.or_false]
    rfl

/-! ### What nothing is paid for -/

/-- A part of a walk that nothing is paid for: it does what a computation does, and complains only
of the engine. -/
def Walker.Unpaid {α : Type} (x : Walker α) : Prop :=
  ∃ s : Computation EngineError α, ∀ apply m p, (x p).run apply m =
    match s.run apply m with
    | .ok a m' => .ok (a, p) m'
    | .error e m' => .error (.engine e, p) m'

namespace Walker.Unpaid

variable {α β : Type}

theorem pure (a : α) : Unpaid (pure a) := ⟨.give a, fun _ _ _ => rfl⟩

theorem engine (e : EngineError) : Unpaid (fail (.engine e) : Walker α) :=
  ⟨.fail e, fun _ _ _ => rfl⟩

theorem ofScript (s : Script α) : Unpaid (ofScript s) := by
  refine ⟨s.sequel .give fun h => .fail (.halted h), fun apply m p => ?_⟩
  rw [run_ofScript, Computation.run_sequel]
  cases s.run apply m <;> rfl

theorem bind {x : Walker α} {next : α → Walker β} (hx : Unpaid x)
    (hnext : ∀ a, Unpaid (next a)) : Unpaid (x >>= next) := by
  obtain ⟨s, first⟩ := hx
  refine ⟨s >>= fun a => (hnext a).choose, fun apply m p => ?_⟩
  rw [run_bind, first, Computation.run_bind]
  cases s.run apply m with
  | ok a m₁ => exact (hnext a).choose_spec apply m₁ p
  | error e m₁ => rfl

section Ends

variable {x : Walker α} {apply : Apply} {m m' : Machine} {p p' : Payment}

/-- If it ends well, then it does so in the same way whatever was spent before. -/
theorem of_ok {a : α} (hx : Unpaid x) (ok : (x p).run apply m = .ok (a, p') m') :
    p' = p ∧ ∀ q, (x q).run apply m = .ok (a, q) m' := by
  obtain ⟨s, does⟩ := hx
  rw [does] at ok
  cases h : s.run apply m with
  | error e m₁ =>
    rw [h] at ok
    cases ok
  | ok a₁ m₁ =>
    rw [h] at ok
    cases ok
    exact ⟨rfl, fun q => by rw [does, h]⟩

theorem of_error {e : ConversionError} (hx : Unpaid x)
    (failed : (x p).run apply m = .error (e, p') m') : p' = p ∧ ∃ cause, e = .engine cause := by
  obtain ⟨s, does⟩ := hx
  rw [does] at failed
  cases h : s.run apply m with
  | ok a m₁ =>
    rw [h] at failed
    cases failed
  | error cause m₁ =>
    rw [h] at failed
    cases failed
    exact ⟨rfl, cause, rfl⟩

end Ends

end Walker.Unpaid

theorem unpaid_keyText (key : Key) : (keyText key).Unpaid := by
  unfold keyText
  split
  · split
    · exact .pure _
    · exact .engine _
  · exact .pure _

theorem unpaid_errorName (v : Value) : (errorName v).Unpaid := by
  refine .bind (.ofScript _) fun w => ?_
  split
  · exact .pure _
  · exact .pure _
  · split
    · exact .pure _
    · exact .engine _
  · exact .bind (.ofScript _) fun _ => .engine _

theorem unpaid_dumpError (v : Value) : (dumpError v).Unpaid :=
  .bind (unpaid_errorName v) fun _ => .bind (.ofScript _) fun _ => .pure _

/-! ### Walks under two budgets -/

/-- What holds of payments under two budgets, and of parts that nothing is paid for, and goes over
to what is put together from such parts. -/
structure Walker.Rule (b b' : Budget) (P : {α : Type} → Walker α → Walker α → Prop) : Prop where
  unpaid : ∀ {α : Type} {x : Walker α}, Unpaid x → P x x
  tooDeep : ∀ {α : Type}, P (fail .tooDeep : Walker α) (fail .tooDeep)
  charge : ∀ payload, P (charge b payload) (charge b' payload)
  bind : ∀ {α β : Type} {x y : Walker α} {next next' : α → Walker β}, P x y →
    (∀ a, P (next a) (next' a)) → P (x >>= next) (y >>= next')

namespace Walker.Rule

variable {b b' : Budget} {P : {α : Type} → Walker α → Walker α → Prop} (rule : Rule b b' P)
  {item item' : Value → Walker Json}

include rule

theorem dumpItems (hitem : ∀ v, P (item v) (item' v)) (r : Ref) (n i : Nat) (done : Array Json) :
    P (dumpItems item r n i done) (dumpItems item' r n i done) := by
  induction n generalizing i done with
  | zero => exact rule.unpaid (.pure _)
  | succ n ih =>
    exact rule.bind (rule.unpaid (.ofScript _)) fun v => rule.bind (hitem v) fun j => ih _ _

theorem dumpFields (hitem : ∀ v, P (item v) (item' v)) (r : Ref) (keys : List Key)
    (done : List (String × Json)) :
    P (dumpFields b item r keys done) (dumpFields b' item' r keys done) := by
  induction keys generalizing done with
  | nil => exact rule.unpaid (.pure _)
  | cons key keys ih =>
    refine rule.bind (rule.unpaid (unpaid_keyText key)) fun name =>
      rule.bind (rule.unpaid (.ofScript _)) fun v =>
        rule.bind (rule.unpaid (.ofScript _)) fun omitted => ?_
    split
    · exact ih done
    · exact rule.bind (rule.charge _) fun _ => rule.bind (hitem v) fun j => ih _

/-- So it holds of the walks of a value.  The induction is on the levels that are left. -/
theorem dumpAt (levels : Nat) (v : Value) : P (dumpAt b levels v) (dumpAt b' levels v) := by
  induction levels generalizing v with
  | zero => exact rule.tooDeep
  | succ levels ih =>
    refine rule.bind (rule.charge 0) fun _ => ?_
    cases v with
    | string t =>
      dsimp only
      split
      · exact rule.bind (rule.charge _) fun _ => rule.unpaid (.pure _)
      · exact rule.unpaid (.engine _)
    | object r =>
      refine rule.bind (rule.unpaid (.ofScript _)) fun callable => ?_
      split
      · exact rule.unpaid (.pure _)
      refine rule.bind (rule.unpaid (.ofScript _)) fun isArray => ?_
      split
      · exact rule.bind (rule.unpaid (.ofScript _)) fun length =>
          rule.bind (rule.dumpItems ih r length 0 _) fun _ => rule.unpaid (.pure _)
      refine rule.bind (rule.unpaid (.ofScript _)) fun o => ?_
      split
      · exact rule.unpaid (unpaid_dumpError _)
      · exact rule.bind (rule.unpaid (.ofScript _)) fun keys =>
          rule.bind (rule.dumpFields ih r keys _) fun _ => rule.unpaid (.pure _)
    | _ => exact rule.unpaid (.pure _)

end Walker.Rule

/-! ### What walks make -/

/-- On machines with a heap, and under a budget, a walk makes something for a cost: it succeeds as
long as the budget has room for the cost, and tells otherwise that it has not.  Nothing but the
clock of the machine runs on. -/
structure Walker.Makes {α : Type} (budget : Budget) (h : Heap) (x : Walker α) (a : α)
    (cost : Nat) : Prop where
  made : ∀ (apply : Apply) (m : Machine) (p : Payment), m.heap = h →
    p.spent + cost ≤ budget.maxBytes →
      ∃ p' clock, (x p).run apply m = .ok (a, p') { m with clock } ∧
        min (p.spent + cost) maxCount ≤ p'.spent ∧ p'.spent ≤ p.spent + cost
  tooLarge : ∀ (apply : Apply) (m : Machine) (p : Payment), m.heap = h →
    budget.maxBytes < maxCount → p.spent ≤ budget.maxBytes → budget.maxBytes < p.spent + cost →
      ∃ p' m', (x p).run apply m = .error (.tooLarge budget.maxBytes, p') m'

namespace Walker.Makes

variable {α β : Type} {budget : Budget} {h : Heap}

theorem pure (a : α) : Makes budget h (pure a) a 0 where
  made _ m p _ _ := ⟨p, m.clock, rfl, Nat.min_le_left _ _, Nat.le_refl _⟩
  tooLarge _ _ _ _ _ within beyond := absurd beyond (Nat.not_lt_of_le within)

theorem bind {x : Walker α} {next : α → Walker β} {a : α} {b : β} {c d : Nat}
    (hx : Makes budget h x a c) (hnext : Makes budget h (next a) b d) :
    Makes budget h (x >>= next) b (c + d) where
  made apply m p hm room := by
    obtain ⟨p', clock, first, covered, within⟩ := hx.made apply m p hm (by omega)
    obtain ⟨p'', clock', second, covered', within'⟩ :=
      hnext.made apply { m with clock } p' hm (by omega)
    refine ⟨p'', clock', ?_, by omega, by omega⟩
    rw [run_bind, first]
    exact second
  tooLarge apply m p hm counted within beyond := by
    by_cases room : p.spent + c ≤ budget.maxBytes
    · obtain ⟨p', clock, first, covered, within'⟩ := hx.made apply m p hm room
      obtain ⟨p'', m'', second⟩ :=
        hnext.tooLarge apply { m with clock } p' hm counted (by omega) (by omega)
      refine ⟨p'', m'', ?_⟩
      rw [run_bind, first]
      exact second
    · obtain ⟨p', m', first⟩ := hx.tooLarge apply m p hm counted within (Nat.lt_of_not_le room)
      refine ⟨p', m', ?_⟩
      rw [run_bind, first]

/-- What a script tells about a heap costs nothing. -/
theorem ofScript {s : Script α} {a : α}
    (hs : ∀ (apply : Apply) (m : Machine), m.heap = h → s.run apply m = .ok a m) :
    Makes budget h (ofScript s) a 0 where
  made apply m p hm _ := by
    refine ⟨p, m.clock, ?_, Nat.min_le_left _ _, Nat.le_refl _⟩
    rw [run_ofScript, hs apply m hm]
  tooLarge _ _ _ _ _ within beyond := absurd beyond (Nat.not_lt_of_le within)

/-- A part that costs nothing comes first. -/
theorem free_bind {x : Walker α} {next : α → Walker β} {a : α} {b : β} {cost : Nat}
    (hx : Makes budget h x a 0) (hnext : Makes budget h (next a) b cost) :
    Makes budget h (x >>= next) b cost :=
  cost.zero_add ▸ hx.bind hnext

/-- Without a deadline a charge makes nothing but its cost. -/
theorem charge (timeless : budget.deadline = none) (payload : Nat) :
    Makes budget h (charge budget payload) () (Json.nodeCost + payload) where
  made apply m p _ room := by
    have fits : ¬ saturatingAdd (saturatingAdd p.spent Json.nodeCost) payload > budget.maxBytes := by
      simp only [saturatingAdd]
      omega
    refine ⟨⟨saturatingAdd (saturatingAdd p.spent Json.nodeCost) payload, p.visited + 1⟩,
      m.clock + 1, ?_, ?_, ?_⟩
    · simp only [ScriptHost.charge, if_neg fits, Computation.run_bind, Computation.run_tick,
        timeless, Option.any_none, Bool.and_false, Bool.or_false]
      rfl
    · simp only [saturatingAdd]
      omega
    · simp only [saturatingAdd]
      omega
  tooLarge apply m p _ counted _ beyond := by
    have exceeds : saturatingAdd (saturatingAdd p.spent Json.nodeCost) payload > budget.maxBytes := by
      simp only [saturatingAdd]
      omega
    simp only [ScriptHost.charge, if_pos exceeds]
    exact ⟨_, _, rfl⟩

end Walker.Makes

/-- A conversion ends as its walk does. -/
theorem run_dump_walk (budget : Budget) (v : Value) (apply : Apply) (m : Machine) :
    (dump budget v).run apply m =
      match (dumpAt budget (maxDepth + 1) v {}).run apply m with
      | .ok (j, _) m' => .ok j m'
      | .error (e, _) m' => .error e m' := by
  rw [dump, Computation.run_sequel]
  cases (dumpAt budget (maxDepth + 1) v {}).run apply m <;> rfl

/-- A conversion whose walk makes a document gives it as long as the budget has room for the
cost. -/
theorem run_dump_of_makes {budget : Budget} {v : Value} {j : Json} {cost : Nat} {m : Machine}
    (makes : Walker.Makes budget m.heap (dumpAt budget (maxDepth + 1) v) j cost) (apply : Apply) :
    (cost ≤ budget.maxBytes → ∃ clock, (dump budget v).run apply m = .ok j { m with clock }) ∧
      (budget.maxBytes < maxCount → budget.maxBytes < cost →
        ∃ m', (dump budget v).run apply m = .error (.tooLarge budget.maxBytes) m') := by
  constructor
  · intro room
    obtain ⟨p', clock, walked, _⟩ := makes.made apply m {} rfl (by simpa using room)
    exact ⟨clock, by rw [run_dump_walk, walked]⟩
  · intro counted beyond
    obtain ⟨p', m', walked⟩ :=
      makes.tooLarge apply m {} rfl counted (Nat.zero_le _) (by simpa using beyond)
    exact ⟨m', by rw [run_dump_walk, walked]⟩

end ScriptHost
