import ScriptHost.Proofs.Walk

/-!
# Budgets as cut-offs

A budget does nothing to a conversion but to stop it: what is converted without one is converted
under every budget that has room for what is spent, and no other budget is enough.

* `Budget.unlimited`: a budget that never stops a walk;
* `Walker.CutOff`: a walk under a budget stands so to the same walk without one;
* `cutOff_dumpAt`: the walk of every value does;
* `weighAt`, `weigh`: what the conversion of a value takes, as a sum over its parts;
* `Walker.Tallies`, `tallies_dumpAt`: this is what the walk spends if it ends well;
* `spentOn`, `CutsOff`, `dump_cutsOff`: all of this for the conversion of a value.
-/

namespace ScriptHost

/-- A budget with the greatest count and without a deadline. -/
def Budget.unlimited : Budget := ⟨maxCount, none⟩

/-! ### Walks under a budget -/

namespace Walker

variable {α β : Type}

/-- What was spent when a walk ended, well or not. -/
def spentAt : EStateM.Result (ConversionError × Payment) Machine (α × Payment) → Nat
  | .ok (_, p) _ => p.spent
  | .error (_, p) _ => p.spent

/-- A walk under a budget, and the same walk without one, from every payment that is counted on. -/
structure CutOff (budget : Budget) (x full : Walker α) : Prop where
  /-- The walk without a budget goes on counting. -/
  counts : ∀ apply m p, p.spent ≤ maxCount →
    p.spent ≤ spentAt ((full p).run apply m) ∧ spentAt ((full p).run apply m) ≤ maxCount
  /-- It complains neither of its size nor of the time. -/
  complains : ∀ apply m p e p' m', p.spent ≤ maxCount → (full p).run apply m = .error (e, p') m' →
    e = .tooDeep ∨ ∃ cause, e = .engine cause
  /-- If there is room for what it spends, the walk under the budget is the same. -/
  within : ∀ apply m p, p.spent ≤ maxCount → spentAt ((full p).run apply m) ≤ budget.maxBytes →
    (x p).run apply m = (full p).run apply m
  /-- If there is none, the walk under the budget stops. -/
  beyond : ∀ apply m p, p.spent ≤ maxCount → p.spent ≤ budget.maxBytes →
    budget.maxBytes < spentAt ((full p).run apply m) →
      ∃ p' m', (x p).run apply m = .error (.tooLarge budget.maxBytes, p') m'

namespace CutOff

variable {budget : Budget}

/-- What nothing is paid for is not cut off. -/
theorem unpaid {x : Walker α} (hx : Unpaid x) : CutOff budget x x := by
  have spends (apply m p) : spentAt ((x p).run apply m) = p.spent := by
    cases h : (x p).run apply m with
    | ok r m₁ => exact congrArg Payment.spent (hx.of_ok h).1
    | error r m₁ => exact congrArg Payment.spent (hx.of_error h).1
  refine ⟨fun apply m p counted => ?_, fun apply m p e p' m' _ failed => .inr (hx.of_error failed).2,
    fun _ _ _ _ _ => rfl, fun apply m p _ within beyond => ?_⟩
  · rw [spends]
    exact ⟨Nat.le_refl _, counted⟩
  · rw [spends] at beyond
    exact absurd within (Nat.not_le_of_lt beyond)

theorem tooDeep : CutOff budget (fail .tooDeep : Walker α) (fail .tooDeep) where
  counts _ _ _ counted := ⟨Nat.le_refl _, counted⟩
  complains := by
    rintro _ _ _ _ _ _ _ ⟨⟩
    exact .inl rfl
  within _ _ _ _ _ := rfl
  beyond _ _ _ _ within beyond := absurd within (Nat.not_le_of_lt beyond)

theorem bind {x full : Walker α} {next fullNext : α → Walker β} (first : CutOff budget x full)
    (second : ∀ a, CutOff budget (next a) (fullNext a)) :
    CutOff budget (x >>= next) (full >>= fullNext) where
  counts apply m p counted := by
    have start := first.counts apply m p counted
    rw [run_bind]
    cases h : (full p).run apply m with
    | error e m₁ =>
      rw [h] at start
      exact start
    | ok r m₁ =>
      rw [h] at start
      have rest := (second r.1).counts apply m₁ r.2 start.2
      exact ⟨Nat.le_trans start.1 rest.1, rest.2⟩
  complains apply m p e p' m' counted failed := by
    have start := (first.counts apply m p counted).2
    rw [run_bind] at failed
    cases h : (full p).run apply m with
    | error e₁ m₁ =>
      rw [h] at failed
      cases failed
      exact first.complains apply m p e p' m' counted h
    | ok r m₁ =>
      rw [h] at start failed
      exact (second r.1).complains apply m₁ r.2 e p' m' start failed
  within apply m p counted room := by
    have start := (first.counts apply m p counted).2
    have same := first.within apply m p counted
    rw [run_bind] at room
    rw [run_bind, run_bind]
    cases h : (full p).run apply m with
    | error e₁ m₁ =>
      rw [h] at room same
      rw [same room]
    | ok r m₁ =>
      rw [h] at start room same
      have more := ((second r.1).counts apply m₁ r.2 start).1
      rw [same (Nat.le_trans more room)]
      exact (second r.1).within apply m₁ r.2 start room
  beyond apply m p counted small large := by
    have start := (first.counts apply m p counted).2
    have same := first.within apply m p counted
    have stops := first.beyond apply m p counted small
    rw [run_bind] at large
    rw [run_bind]
    cases h : (full p).run apply m with
    | error e₁ m₁ =>
      rw [h] at large stops
      obtain ⟨p', m', stopped⟩ := stops large
      exact ⟨p', m', by rw [stopped]⟩
    | ok r m₁ =>
      rw [h] at start large same stops
      -- the walk stops in its first part or in its second, by where the budget runs out
      by_cases room : r.2.spent ≤ budget.maxBytes
      · rw [same room]
        exact (second r.1).beyond apply m₁ r.2 start room large
      · obtain ⟨p', m', stopped⟩ := stops (Nat.lt_of_not_le room)
        exact ⟨p', m', by rw [stopped]⟩

/-- A charge without a budget is always paid. -/
theorem run_charge_unlimited (apply : Apply) (m : Machine) (p : Payment) (payload : Nat) :
    (ScriptHost.charge .unlimited payload p).run apply m =
      .ok ((), ⟨saturatingAdd (saturatingAdd p.spent Json.nodeCost) payload, p.visited + 1⟩)
        { m with clock := m.clock + 1 } := by
  have fits : ¬ saturatingAdd (saturatingAdd p.spent Json.nodeCost) payload > maxCount := by
    simp only [saturatingAdd]
    omega
  simp only [ScriptHost.charge, Budget.unlimited, if_neg fits, Computation.run_bind,
    Computation.run_tick, Option.any_none, Bool.and_false, Bool.or_false]
  rfl

theorem charge (timeless : budget.deadline = none) (payload : Nat) :
    CutOff budget (charge budget payload) (ScriptHost.charge .unlimited payload) where
  counts apply m p counted := by
    rw [run_charge_unlimited]
    simp only [spentAt, saturatingAdd]
    omega
  complains apply m p e p' m' _ failed := by
    rw [run_charge_unlimited] at failed
    cases failed
  within apply m p _ room := by
    rw [run_charge_unlimited] at room ⊢
    simp only [spentAt] at room
    simp only [ScriptHost.charge, if_neg (Nat.not_lt_of_le room), Computation.run_bind,
      Computation.run_tick, timeless, Option.any_none, Bool.and_false, Bool.or_false]
    rfl
  beyond apply m p _ _ large := by
    rw [run_charge_unlimited] at large
    simp only [spentAt] at large
    simp only [ScriptHost.charge, if_pos large]
    exact ⟨_, _, rfl⟩

end CutOff

end Walker

/-- Without a deadline this goes for the walks of values. -/
theorem Walker.CutOff.rule {budget : Budget} (timeless : budget.deadline = none) :
    Walker.Rule budget .unlimited (Walker.CutOff budget) where
  unpaid := .unpaid
  tooDeep := .tooDeep
  charge := .charge timeless
  bind := .bind

/-- The walk of a value under a budget is cut off from the walk without one. -/
theorem cutOff_dumpAt {budget : Budget} (timeless : budget.deadline = none) (levels : Nat)
    (v : Value) : Walker.CutOff budget (dumpAt budget levels v) (dumpAt .unlimited levels v) :=
  (Walker.CutOff.rule timeless).dumpAt levels v

/-! ### What a conversion takes -/

/-- A node with so many bytes of text: the clock runs on as for a charge. -/
def weighNode (payload : Nat) : Walker Nat := fun p => do
  let _ ← Computation.tick fun _ => false
  return (Json.nodeCost + payload, p)

/-- The sum of what two parts take. -/
def Walker.plus (first second : Walker Nat) : Walker Nat := do return (← first) + (← second)

/-- What the items of an array take, so many from an index on. -/
def weighItems (item : Value → Walker Nat) (r : Ref) : Nat → Nat → Walker Nat
  | 0, _ => return 0
  | n + 1, i => do
    let v ← Walker.ofScript (readItem r i)
    (item v).plus (weighItems item r n (i + 1))

/-- What the fields of an object take under some keys: a node with its name for each, and the value
that it holds.  The name is counted as the conversion reads it, cut at the first NUL.  Fields that are
left out take nothing. -/
def weighFields (item : Value → Walker Nat) (r : Ref) : List Key → Walker Nat
  | [] => return 0
  | key :: keys => do
    let name := documentKey (← keyText key)
    let v ← Walker.ofScript (getOf r key)
    if ← Walker.ofScript (isOmitted v) then weighFields item r keys
    else (weighNode name.utf8ByteSize).plus ((item v).plus (weighFields item r keys))

/-- What a value takes with so many levels left: a node, and what is in it.  Nothing is in the node
of an error. -/
def weighAt : Nat → Value → Walker Nat
  | 0, _ => .fail .tooDeep
  | levels + 1, v =>
    (weighNode 0).plus <| match v with
      | .undefined | .null | .bigint _ | .symbol _ | .bool _ | .number _ => return 0
      | .string t =>
        match t.toUnicode with
        | .ok s => weighNode s.utf8ByteSize
        | .error i => .fail (.engine (.brokenText i))
      | .object r => do
        if ← Walker.ofScript (isCallable v) then return 0
        else if ← Walker.ofScript (holdsArray r) then
          let length ← Walker.ofScript (lengthOf v)
          weighItems (weighAt levels) r length 0
        else if (← Walker.ofScript (readObject r)).isError then
          let _ ← dumpError v
          return 0
        else
          let keys ← Walker.ofScript (shownKeysOf r)
          weighFields (weighAt levels) r keys

/-- What the conversion of a value takes: sixteen bytes a node, with those of its text. -/
def weigh (v : Value) : Conversion Nat :=
  (weighAt (maxDepth + 1) v {}).sequel (fun (n, _) => .give n) fun (e, _) => .fail e

namespace Walker

variable {α β : Type}

/-- If a walk without a budget ends well, then it has spent what a second one tells, which itself
spends nothing, as far as this is counted. -/
def Tallies (x : Walker α) (weight : Walker Nat) : Prop :=
  ∀ apply m p a p' m', p.spent ≤ maxCount → (x p).run apply m = .ok (a, p') m' →
    ∃ n, (∀ q, (weight q).run apply m = .ok (n, q) m') ∧ p'.spent = min (p.spent + n) maxCount

namespace Tallies

theorem fail (e : ConversionError) (weight : Walker Nat) : Tallies (fail e : Walker α) weight := by
  rintro _ _ _ _ _ _ _ ⟨⟩

theorem unpaid {x : Walker α} (hx : Unpaid x) : Tallies x (x >>= fun _ => pure 0) := by
  intro apply m p a p' m' counted ok
  obtain ⟨rfl, again⟩ := hx.of_ok ok
  exact ⟨0, fun q => by rw [run_bind, again]; rfl, (Nat.min_eq_left counted).symm⟩

theorem pure (a : α) : Tallies (pure a) (pure 0) := unpaid (.pure a)

theorem charge (payload : Nat) : Tallies (charge .unlimited payload) (weighNode payload) := by
  intro apply m p a p' m' _ ok
  rw [CutOff.run_charge_unlimited] at ok
  cases ok
  refine ⟨Json.nodeCost + payload, fun q => ?_, ?_⟩
  · simp only [weighNode, Computation.run_bind, Computation.run_tick, Bool.or_false]
    rfl
  · simp only [saturatingAdd]
    omega

/-- Two parts take what the first takes and what the second takes.  It does not matter that the sum
stops at the greatest count on the way. -/
theorem bind {x : Walker α} {next : α → Walker β} {first second : Walker Nat}
    (hx : Tallies x first) (hnext : ∀ a, Tallies (next a) second) :
    Tallies (x >>= next) (first.plus second) := by
  intro apply m p b p' m' counted ok
  obtain ⟨a, p₁, m₁, start, rest⟩ := ok_bind ok
  obtain ⟨c, weighed, spent⟩ := hx apply m p a p₁ m₁ counted start
  obtain ⟨d, weighed', spent'⟩ := hnext a apply m₁ p₁ b p' m' (by omega) rest
  refine ⟨c + d, fun q => ?_, by omega⟩
  rw [plus, run_bind, weighed]
  dsimp only
  rw [run_bind, weighed']
  rfl

/-- What nothing is paid for comes first. -/
theorem unpaid_bind {x : Walker α} {next : α → Walker β} {weight : α → Walker Nat}
    (hx : Unpaid x) (hnext : ∀ a, Tallies (next a) (weight a)) :
    Tallies (x >>= next) (x >>= weight) := by
  intro apply m p b p' m' counted ok
  obtain ⟨a, p₁, m₁, first, rest⟩ := ok_bind ok
  obtain ⟨rfl, again⟩ := hx.of_ok first
  obtain ⟨n, weighed, spent⟩ := hnext a apply m₁ _ b p' m' counted rest
  exact ⟨n, fun q => by rw [run_bind, again]; exact weighed q, spent⟩

/-- What is made of the result takes nothing more. -/
theorem then_pure {x : Walker α} {weight : Walker Nat} (hx : Tallies x weight) (f : α → β) :
    Tallies (x >>= fun a => Pure.pure (f a)) weight := by
  intro apply m p b p' m' counted ok
  obtain ⟨a, p₁, m₁, start, rest⟩ := ok_bind ok
  cases rest
  exact hx apply m p a p' m' counted start

end Tallies

end Walker

section Weights

open Walker

variable {item : Value → Walker Json} {weight : Value → Walker Nat}

theorem tallies_dumpItems (hitem : ∀ v, Tallies (item v) (weight v)) (r : Ref) (n i : Nat)
    (done : Array Json) : Tallies (dumpItems item r n i done) (weighItems weight r n i) := by
  induction n generalizing i done with
  | zero => exact .pure _
  | succ n ih => exact .unpaid_bind (.ofScript _) fun v => .bind (hitem v) fun j => ih _ _

theorem tallies_dumpFields (hitem : ∀ v, Tallies (item v) (weight v)) (r : Ref) (keys : List Key)
    (done : List (String × Json)) :
    Tallies (dumpFields .unlimited item r keys done) (weighFields weight r keys) := by
  induction keys generalizing done with
  | nil => exact .pure _
  | cons key keys ih =>
    refine .unpaid_bind (unpaid_keyText key) fun name => .unpaid_bind (.ofScript _) fun v =>
      .unpaid_bind (.ofScript _) fun omitted => ?_
    split
    · exact ih done
    · exact .bind (.charge _) fun _ => .bind (hitem v) fun j => ih _

/-- What the walk of a value spends without a budget is what the value takes.  The induction is on
the levels that are left. -/
theorem tallies_dumpAt (levels : Nat) (v : Value) :
    Tallies (dumpAt .unlimited levels v) (weighAt levels v) := by
  induction levels generalizing v with
  | zero => exact .fail _ _
  | succ levels ih =>
    refine .bind (.charge 0) fun _ => ?_
    cases v with
    | string t =>
      dsimp only
      cases t.toUnicode with
      | ok s => exact (Tallies.charge _).then_pure _
      | error i => exact .fail _ _
    | object r =>
      refine .unpaid_bind (.ofScript _) fun callable => ?_
      split
      · exact .pure _
      refine .unpaid_bind (.ofScript _) fun isArray => ?_
      split
      · exact .unpaid_bind (.ofScript _) fun length => (tallies_dumpItems ih r length 0 _).then_pure _
      refine .unpaid_bind (.ofScript _) fun o => ?_
      split
      · exact .unpaid (unpaid_dumpError _)
      · exact .unpaid_bind (.ofScript _) fun keys => (tallies_dumpFields ih r keys _).then_pure _
    | _ => exact .pure _

end Weights

/-! ### Conversions -/

/-- What the conversion of a value spends without a budget, until it ends, well or not. -/
def spentOn (v : Value) (apply : Apply) (m : Machine) : Nat :=
  Walker.spentAt ((dumpAt .unlimited (maxDepth + 1) v {}).run apply m)

section Conversions

variable {v : Value} {apply : Apply} {m m' : Machine} {budget : Budget}

theorem dump_complains {e : ConversionError}
    (failed : (dump .unlimited v).run apply m = .error e m') :
    e = .tooDeep ∨ ∃ cause, e = .engine cause := by
  have cuts : Walker.CutOff .unlimited _ _ := cutOff_dumpAt rfl (maxDepth + 1) v
  rw [run_dump_walk] at failed
  cases h : (dumpAt .unlimited (maxDepth + 1) v {}).run apply m with
  | ok r m₁ =>
    rw [h] at failed
    cases failed
  | error r m₁ =>
    rw [h] at failed
    cases failed
    exact cuts.complains apply m {} _ _ _ (Nat.zero_le _) h

theorem dump_beyond (timeless : budget.deadline = none)
    (small : budget.maxBytes < spentOn v apply m) :
    ∃ m', (dump budget v).run apply m = .error (.tooLarge budget.maxBytes) m' := by
  obtain ⟨p', m', stopped⟩ := (cutOff_dumpAt timeless (maxDepth + 1) v).beyond apply m {}
    (Nat.zero_le _) (Nat.zero_le _) small
  exact ⟨m', by rw [run_dump_walk, stopped]⟩

theorem dump_within (timeless : budget.deadline = none)
    (room : spentOn v apply m ≤ budget.maxBytes) :
    (dump budget v).run apply m = (dump .unlimited v).run apply m := by
  rw [run_dump_walk, run_dump_walk, (cutOff_dumpAt timeless (maxDepth + 1) v).within apply m {}
    (Nat.zero_le _) room]

/-- A budget that lets a conversion end well has room for it. -/
theorem spentOn_le_of_ok (timeless : budget.deadline = none) {j : Json}
    (ok : (dump budget v).run apply m = .ok j m') : spentOn v apply m ≤ budget.maxBytes := by
  refine Nat.le_of_not_lt fun small => ?_
  obtain ⟨m₁, stopped⟩ := dump_beyond timeless small
  rw [ok] at stopped
  cases stopped

theorem spentOn_eq_weigh {j : Json} (ok : (dump .unlimited v).run apply m = .ok j m') :
    ∃ n, (weigh v).run apply m = .ok n m' ∧ spentOn v apply m = min n maxCount := by
  rw [run_dump_walk] at ok
  cases h : (dumpAt .unlimited (maxDepth + 1) v {}).run apply m with
  | error r m₁ =>
    rw [h] at ok
    cases ok
  | ok r m₁ =>
    rw [h] at ok
    cases ok
    obtain ⟨n, weighed, spent⟩ := tallies_dumpAt _ v apply m {} _ _ _ (Nat.zero_le _) h
    refine ⟨n, by rw [weigh, Computation.run_sequel, weighed]; rfl, ?_⟩
    rw [spentOn, h, Walker.spentAt, spent, Nat.zero_add]

end Conversions

/-- A budget does nothing to the conversion of a value but to cut it off. -/
structure CutsOff (v : Value) (apply : Apply) (m : Machine) : Prop where
  /-- Without a budget the conversion complains of the depth or of the engine, and of nothing
  else. -/
  complains : ∀ e m', (dump .unlimited v).run apply m = .error e m' →
    e = .tooDeep ∨ ∃ cause, e = .engine cause
  /-- Under a budget without room for what is spent until then, it stops. -/
  beyond : ∀ budget : Budget, budget.deadline = none → budget.maxBytes < spentOn v apply m →
    ∃ m', (dump budget v).run apply m = .error (.tooLarge budget.maxBytes) m'
  /-- Under every other budget it ends as it does without one, well or not. -/
  within : ∀ budget : Budget, budget.deadline = none → spentOn v apply m ≤ budget.maxBytes →
    (dump budget v).run apply m = (dump .unlimited v).run apply m
  /-- If it ends well, what is spent is what the value takes, as far as this is counted. -/
  takes : ∀ j m', (dump .unlimited v).run apply m = .ok j m' →
    ∃ n, (weigh v).run apply m = .ok n m' ∧ spentOn v apply m = min n maxCount
  /-- What it gives under a budget it gives under every larger one. -/
  monotone : ∀ small large : Budget, small.deadline = none → large.deadline = none →
    small.maxBytes ≤ large.maxBytes → ∀ j m', (dump small v).run apply m = .ok j m' →
      (dump large v).run apply m = .ok j m'

/-- A budget does nothing to a conversion but to cut it off. -/
theorem dump_cutsOff (v : Value) (apply : Apply) (m : Machine) : CutsOff v apply m where
  complains _ _ := dump_complains
  beyond _ := dump_beyond
  within _ := dump_within
  takes _ _ := spentOn_eq_weigh
  monotone small large timeless timeless' le j m' ok := by
    have room := spentOn_le_of_ok timeless ok
    rw [dump_within timeless' (Nat.le_trans room le), ← dump_within timeless room, ok]

/-- A text takes two nodes and its bytes. -/
example (apply : Apply) (m : Machine) :
    ∃ m', (weigh (.ofString "é")).run apply m = .ok 34 m' := ⟨_, rfl⟩

end ScriptHost
