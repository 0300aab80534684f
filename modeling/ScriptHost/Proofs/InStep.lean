import ScriptHost.Proofs.Alike

/-!
# Runs that keep in step

Runs of a script on machines with different consoles convert more or less of what is logged, so
their clocks go apart.  Scripts take no notice of that before their time is up, and once it is up it
stays so.

* `Action.Lasting`: an action that never takes back that the time is up;
* `InStep`: machines in time that differ only in their clocks and consoles;
* `Abreast`: runs that end the same way and in step, unless one of them is out of time;
* `Action.Even`: actions that run abreast on machines in step, where calls do;
* `Composed.even`, `even_dispatch`: scripts are even, and so are calls of capabilities;
* `runSourceBy_abreast`: so are evaluations.
-/

namespace ScriptHost

variable {ε δ α β : Type}

/-! ### Time that is up -/

/-- Calls that never take back that the time is up. -/
def Apply.Lasting (apply : Apply) : Prop :=
  ∀ f how args m, m.expired = true → (stateAfter (apply f how args m)).expired = true

/-- An action that never takes back that the time is up, where calls do not. -/
def Action.Lasting (x : Action ε α) : Prop :=
  ∀ apply : Apply, apply.Lasting → ∀ m, m.expired = true → (stateAfter (x apply m)).expired = true

theorem Action.Lasting.sequel {x : Action ε α} {next : α → Action δ β}
    {otherwise : ε → Action δ β} (hx : x.Lasting) (hnext : ∀ a, (next a).Lasting)
    (hotherwise : ∀ e, (otherwise e).Lasting) : (x.sequel next otherwise).Lasting := by
  intro apply calls m late
  have start := hx apply calls m late
  simp only [Action.sequel]
  cases h : x apply m with
  | ok a m' =>
    rw [h] at start
    exact hnext a apply calls m' start
  | error e m' =>
    rw [h] at start
    exact hotherwise e apply calls m' start

theorem Action.Lasting.bind {x : Service α} {next : α → Service β} (hx : x.Lasting)
    (hnext : ∀ a, (next a).Lasting) : (x >>= next).Lasting :=
  hx.sequel hnext fun _ _ _ _ late => late

theorem Composed.lasting {x : Action ε α} (hx : Composed x) : x.Lasting := by
  induction hx with
  | sequel _ _ _ ihx ihnext ihotherwise => exact ihx.sequel ihnext ihotherwise
  | call f how args => exact fun apply calls m late => calls f how args m late
  | tick later =>
    intro _ _ m late
    show (m.expired || later (m.clock + 1)) = true
    rw [late, Bool.true_or]
  | expire => exact fun _ _ _ _ => rfl
  | _ => exact fun _ _ _ late => late

/-- Where no call is carried out, nothing is taken back by one. -/
theorem lasting_none : Apply.none.Lasting := fun _ _ _ _ late => late

theorem lasting_logCall (budget : Budget) (level : LogLevel) (args : List Value) :
    (logCall budget level args).Lasting := by
  refine .bind (fun _ _ _ late => late) fun b => ?_
  cases b.remaining? with
  | none => exact fun _ _ _ late => late
  | some room =>
    exact .bind (logArguments _ args).composed.lasting fun js _ _ _ late => late

/-! ### Machines in step -/

/-- Machines in time that differ only in their clocks and consoles. -/
structure InStep (m n : Machine) : Prop where
  inTime : m.expired = false
  same : n = { m with clock := n.clock, logs := n.logs }

theorem InStep.refl {m : Machine} (inTime : m.expired = false) : InStep m m := ⟨inTime, rfl⟩

theorem InStep.symm {m n : Machine} (hmn : InStep m n) : InStep n m := by
  have inTime : n.expired = false := by rw [hmn.same]; exact hmn.inTime
  exact ⟨inTime, by rw [hmn.same]⟩

theorem InStep.trans {m n o : Machine} (hmn : InStep m n) (hno : InStep n o) : InStep m o :=
  ⟨hmn.inTime, by rw [hno.same, hmn.same]⟩

theorem InStep.heap {m n : Machine} (hmn : InStep m n) : n.heap = m.heap := by
  rw [hmn.same]

/-- What changes nothing but the heap, the backend and what was thrown last keeps machines in
step. -/
theorem InStep.update {m n : Machine} (hmn : InStep m n) (heap : Heap) (backend : Backend)
    (pending : Option Value) :
    InStep { m with heap, backend, pending } { n with heap, backend, pending } :=
  ⟨hmn.inTime, by rw [hmn.same]⟩

/-- One of two runs is out of time, or both end in the same way and in step. -/
inductive Abreast : EStateM.Result ε Machine α → EStateM.Result ε Machine α → Prop
  | left {r r' : EStateM.Result ε Machine α} (late : (stateAfter r).expired = true) : Abreast r r'
  | right {r r' : EStateM.Result ε Machine α} (late : (stateAfter r').expired = true) : Abreast r r'
  | same {r r' : EStateM.Result ε Machine α} (alike : Alike InStep r r') : Abreast r r'

/-- Two ways of calling functions that keep in step. -/
structure Apply.Paired (first second : Apply) : Prop where
  left : first.Lasting
  right : second.Lasting
  abreast : ∀ f how args m n, InStep m n → Abreast (first f how args m) (second f how args n)

theorem paired_none : Apply.none.Paired Apply.none where
  left := lasting_none
  right := lasting_none
  abreast _ _ _ _ _ hmn := .same (.ok _ hmn)

/-- Actions that run abreast on machines in step, where calls do. -/
structure Action.Even (x : Action ε α) : Prop where
  lasting : x.Lasting
  abreast : ∀ first second, first.Paired second → ∀ m n, InStep m n →
    Abreast (x first m) (x second n)

namespace Action.Even

/-- Where one run is late, it is late in the end, whatever follows. -/
theorem sequel {x : Action ε α} {next : α → Action δ β} {otherwise : ε → Action δ β}
    (hx : x.Even) (hnext : ∀ a, (next a).Even) (hotherwise : ∀ e, (otherwise e).Even) :
    (x.sequel next otherwise).Even where
  lasting := hx.lasting.sequel (fun a => (hnext a).lasting) fun e => (hotherwise e).lasting
  abreast first second calls m n hmn := by
    have start := hx.abreast first second calls m n hmn
    simp only [Action.sequel]
    generalize x.run first m = r at start
    generalize x.run second n = r' at start
    rcases start with late | late | ⟨a, hst⟩ | ⟨e, hst⟩
    -- the late run may have gone another way by now, but all that follows leaves it late
    · refine .left ?_
      cases r with
      | ok a s => exact (hnext a).lasting first calls.left s late
      | error e s => exact (hotherwise e).lasting first calls.left s late
    · refine .right ?_
      cases r' with
      | ok a s => exact (hnext a).lasting second calls.right s late
      | error e s => exact (hotherwise e).lasting second calls.right s late
    · exact (hnext a).abreast first second calls _ _ hst
    · exact (hotherwise e).abreast first second calls _ _ hst

theorem give (a : α) : (Action.give a : Action ε α).Even where
  lasting _ _ _ late := late
  abreast _ _ _ _ _ hmn := .same (.ok a hmn)

theorem fail (e : ε) : (Action.fail e : Action ε α).Even where
  lasting _ _ _ late := late
  abreast _ _ _ _ _ hmn := .same (.error e hmn)

theorem bind {x : Service α} {next : α → Service β} (hx : x.Even) (hnext : ∀ a, (next a).Even) :
    (x >>= next).Even :=
  hx.sequel hnext fail

/-- Machines in step have the same backend. -/
theorem act (a : EStateM δ Backend α) : (Action.act a : Action ε (Except δ α)).Even where
  lasting apply _ m late := by
    simp only [Action.act, Action.ofStep]
    cases a m.backend <;> exact late
  abreast first second _ m n hmn := by
    have backend : n.backend = m.backend := by rw [hmn.same]
    simp only [Action.act, Action.ofStep, backend]
    cases a m.backend with
    | ok result b =>
      have next := hmn.update m.heap b m.pending
      rw [hmn.same] at next ⊢
      exact .same (.ok _ next)
    | error e b =>
      have next := hmn.update m.heap b m.pending
      rw [hmn.same] at next ⊢
      exact .same (.ok _ next)

end Action.Even

/-- Scripts are even.  The induction is on how they are composed; only where they look at the clock
one of the runs may be late. -/
theorem Composed.even {x : Action ε α} (hx : Composed x) : x.Even := by
  induction hx with
  | give a => exact .give a
  | fail e => exact .fail e
  | sequel _ _ _ ihx ihnext ihotherwise => exact ihx.sequel ihnext ihotherwise
  | call f how args =>
    exact ⟨(Composed.call f how args).lasting, fun _ _ calls => calls.abreast f how args⟩
  | look q =>
    refine ⟨(Composed.look q).lasting, fun _ _ _ m n hmn => ?_⟩
    show Abreast (.ok (q.ask m.heap) m) (.ok (q.ask n.heap) n)
    rw [hmn.heap]
    exact .same (.ok _ hmn)
  | change c =>
    refine ⟨(Composed.change c).lasting, fun _ _ _ m n hmn => ?_⟩
    have next := hmn.update (c.apply m.heap) m.backend m.pending
    refine .same (.ok () ?_)
    rw [hmn.same] at next ⊢
    exact next
  | tick later =>
    refine ⟨(Composed.tick later).lasting, fun _ _ _ m n hmn => ?_⟩
    have inTime : n.expired = false := by rw [hmn.same]; exact hmn.inTime
    show Abreast
      (.ok (later (m.clock + 1))
        { m with clock := m.clock + 1, expired := m.expired || later (m.clock + 1) })
      (.ok (later (n.clock + 1))
        { n with clock := n.clock + 1, expired := n.expired || later (n.clock + 1) })
    rw [hmn.inTime, inTime, Bool.false_or, Bool.false_or]
    -- the clocks are not the same, so only a run that is late may see another answer
    cases left : later (m.clock + 1) with
    | true => exact .left rfl
    | false =>
      cases right : later (n.clock + 1) with
      | true => exact .right rfl
      | false => exact .same (.ok _ ⟨rfl, by rw [hmn.same]⟩)
  | expire => exact ⟨Composed.expire.lasting, fun _ _ _ _ _ _ => .left rfl⟩
  | remember v =>
    refine ⟨(Composed.remember v).lasting, fun _ _ _ m n hmn => ?_⟩
    have next := hmn.update m.heap m.backend (some v)
    refine .same (.ok () ?_)
    rw [hmn.same] at next ⊢
    exact next

theorem Computation.even (x : Computation ε α) : x.action.Even := x.composed.even

/-- Calls of capabilities are even. -/
theorem even_dispatch (budget : Budget) (namespaceName : String) (row : Method)
    (args : List Value) : (dispatch budget namespaceName row args).Even := by
  refine .bind (Computation.even _) fun given => .bind (.bind (.act _) fun outcome => ?_)
    fun result => Computation.even _
  cases outcome with
  | ok j => exact .give j
  | error e => exact .bind (Computation.even _) fun r => .fail _

/-! ### Evaluations -/

/-- Evaluations that come to their end in time end in the same way and in step. -/
theorem runSourceBy_abreast {first second : Apply} (calls : first.Paired second) (host : Host)
    (source : Source) {m n : Machine} (hmn : InStep m n)
    (left : (runSourceBy first host source m).2.expired = false)
    (right : (runSourceBy second host source n).2.expired = false) :
    (runSourceBy first host source m).1 = (runSourceBy second host source n).1 ∧
      InStep (runSourceBy first host source m).2 (runSourceBy second host source n).2 := by
  have ran : Abreast ((source.evaluate host).run first m) ((source.evaluate host).run second n) :=
    (Computation.even _).abreast first second calls m n hmn
  unfold runSourceBy at left right ⊢
  generalize (source.evaluate host).run first m = r at ran left
  generalize (source.evaluate host).run second n = r' at ran right
  rcases ran with late | late | ⟨result, hst⟩ | ⟨e, hst⟩
  · cases r with
    | ok result s => cases left.symm.trans late
    | error e s => exact nomatch e
  · cases r' with
    | ok result s => cases right.symm.trans late
    | error e s => exact nomatch e
  · exact ⟨rfl, hst⟩
  · exact nomatch e

end ScriptHost
