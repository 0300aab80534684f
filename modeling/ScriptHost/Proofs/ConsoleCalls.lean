import ScriptHost.Console.Capture
import ScriptHost.Proofs.Bill
import ScriptHost.Proofs.CutOff
import ScriptHost.Proofs.Graph

/-!
# Console calls

What one call of the console may make.  Each argument is converted by itself under what the buffer
can hold when the call begins, so the room is left to each of them and not to all together.

* `run_logCall`: a console call gives undefined, and adds one entry if the log has not ended;
* `Heap.Silent`: values that are read without changing anything; `later_logArguments`: converting
  them takes time, and does nothing else;
* `LogBuffer.Gains`, `ConsoleCall.absorbed`: what any call does to a machine;
* `Walker.Untimed`: a deadline does nothing to a walk but to end it;
* `ConsoleCall.Alone`: what becomes of an argument by itself;
* `ConsoleCall.Row`: the conversions of a row of arguments, one after the other;
* `ConsoleCall.CallBounded`, `ConsoleCall.callBounded`: what a call makes;
* `ConsoleCall.two_nulls`: two arguments that fit one by one, but not both.
-/

namespace ScriptHost

/-! ### Answers -/

theorem run_logArgument (budget : Budget) (v : Value) (apply : Apply) (m : Machine) :
    (logArgument budget v).run apply m =
      match (dump budget v).run apply m with
      | .ok j m' => .ok j m'
      | .error e m' => .ok (.str ("<" ++ e.message ++ ">")) m' := by
  rw [logArgument, Computation.run_sequel]
  cases (dump budget v).run apply m <;> rfl

/-- Whatever the arguments are, they become documents. -/
theorem run_logArguments (budget : Budget) (args : List Value) (apply : Apply) (m : Machine) :
    ∃ js m', (logArguments budget args).run apply m = .ok js m' ∧ js.length = args.length := by
  induction args generalizing m with
  | nil => exact ⟨[], m, rfl, rfl⟩
  | cons v rest ih =>
    obtain ⟨j, m₁, first⟩ : ∃ j m₁, (logArgument budget v).run apply m = .ok j m₁ := by
      rw [run_logArgument]
      cases (dump budget v).run apply m with
      | ok j m₁ => exact ⟨j, m₁, rfl⟩
      | error e m₁ => exact ⟨_, m₁, rfl⟩
    obtain ⟨js, m', others, len⟩ := ih m₁
    refine ⟨j :: js, m', ?_, congrArg Nat.succ len⟩
    rw [logArguments, Computation.run_bind, first]
    dsimp only
    rw [Computation.run_bind, others]
    rfl

/-- A console call gives undefined, whatever its arguments are.  It does nothing once the log has
ended; before that it adds one entry to what the arguments may have done. -/
theorem run_logCall (budget : Budget) (level : LogLevel) (args : List Value) (apply : Apply)
    (m : Machine) :
    (m.logs.remaining? = none → logCall budget level args apply m = .ok .undefined m) ∧
      ∀ room, m.logs.remaining? = some room →
        ∃ js m', (logArguments (budget.capped room) args).run apply m = .ok js m' ∧
          js.length = args.length ∧ logCall budget level args apply m =
            .ok .undefined { m' with logs := m'.logs.push ⟨level, js⟩ } := by
  constructor
  · intro ended
    rw [logCall, Service.run_bind, Service.run_readLogs]
    simp only [ended]
    rfl
  · intro room opened
    obtain ⟨js, m', ran, len⟩ := run_logArguments (budget.capped room) args apply m
    refine ⟨js, m', ran, len, ?_⟩
    rw [logCall, Service.run_bind, Service.run_readLogs]
    simp only [opened, Service.run_bind, Service.run_lift, ran, Service.run_modifyLogs,
      Service.run_pure]

/-! ### Arguments that are read in silence -/

/-- Reading any of the values changes nothing, where functions are called so. -/
def Heap.Silent (apply : Apply) (h : Heap) (vs : List Value) : Prop :=
  ∀ v ∈ vs, Scene.Steady ⟨apply, h⟩ (fun m m' => m' = m) v

section Silence

variable {apply : Apply} {m m' : Machine}

theorem Scene.Given.later (given : Scene.Given (fun m m' => m' = m) m m') : Scene.Later m m' := by
  obtain ⟨m₁, later, rfl | rfl⟩ := given
  · exact later
  · exact later

/-- However the conversion of such a value ends, all it has done is to take time. -/
theorem later_dump {v : Value} (steady : Scene.Steady ⟨apply, m.heap⟩ (fun m m' => m' = m) v)
    (budget : Budget) : Scene.Later m (stateAfter ((dump budget v).run apply m)) := by
  have ends := Scene.ends_dumpAt budget (maxDepth + 1) steady
  rw [run_dump_walk]
  cases walked : (dumpAt budget (maxDepth + 1) v {}).run apply m with
  | ok r m' => exact (ends.ok m {} _ _ m' rfl walked).1
  | error e m' => exact (ends.error m {} _ _ m' rfl walked).1.later

theorem later_logArguments {args : List Value} (silent : m.heap.Silent apply args)
    {budget : Budget} {js : List Json} (ran : (logArguments budget args).run apply m = .ok js m') :
    Scene.Later m m' := by
  induction args generalizing m js m' with
  | nil =>
    cases ran
    exact .refl m
  | cons v rest ih =>
    obtain ⟨j, m₁, first, others⟩ := Computation.ok_bind ran
    obtain ⟨js', m₂, others, last⟩ := Computation.ok_bind others
    cases last
    have start : Scene.Later m m₁ := by
      have dumped := later_dump (silent v (.head _)) budget
      rw [run_logArgument] at first
      cases h : (dump budget v).run apply m with
      | ok _ _ | error _ _ =>
        rw [h] at first dumped
        cases first
        exact dumped
    refine start.trans (ih ?_ others)
    rw [start.heap]
    exact fun w hw => silent w (.tail _ hw)

end Silence

/-! ### Calls -/

/-- What a buffer gains by one entry: the entry, the marker, or nothing. -/
inductive LogBuffer.Gains (b : LogBuffer) (e : LogEntry) (b' : LogBuffer) : Prop
  | nothing (same : b' = b)
  | entry (opened : b'.truncated = false) (added : b'.entries = b.entries.push e)
  | marker (ended : b'.truncated = true)
    (added : b'.entries = b.entries.push (marker b.entries.size))

theorem LogBuffer.gains_push (b : LogBuffer) (e : LogEntry) : b.Gains e (b.push e) := by
  unfold push
  split
  · exact .nothing rfl
  · next opened =>
    split
    · exact .marker rfl rfl
    · exact .entry (by simpa using opened) rfl

namespace ConsoleCall

/-- What a call of the console does to a machine: it comes to be `m'`. -/
structure Absorbed (budget : Budget) (level : LogLevel) (args : List Value) (apply : Apply)
    (m m' : Machine) : Prop where
  /-- Nothing at all, once the log has ended. -/
  ended : m.logs.remaining? = none → m' = m
  /-- Before that it reads its arguments, and then adds one entry. -/
  opened : ∀ room, m.logs.remaining? = some room → ∃ js read,
    (logArguments (budget.capped room) args).run apply m = .ok js read ∧ js.length = args.length ∧
      m' = { read with logs := m'.logs } ∧ read.logs.Gains ⟨level, js⟩ m'.logs
  /-- If its arguments are read in silence, this takes time and one entry. -/
  silent : m.heap.Silent apply args →
    m' = { m with clock := m'.clock, expired := m'.expired, logs := m'.logs } ∧
      ∃ js, m.logs.Gains ⟨level, js⟩ m'.logs

/-- A call of the console gives undefined, whatever its arguments are. -/
theorem absorbed (budget : Budget) (level : LogLevel) (args : List Value) (apply : Apply)
    (m : Machine) : ∃ m', logCall budget level args apply m = .ok .undefined m' ∧
      Absorbed budget level args apply m m' := by
  obtain ⟨whenEnded, whenOpened⟩ := run_logCall budget level args apply m
  cases room : m.logs.remaining? with
  | none =>
    refine ⟨m, whenEnded room, fun _ => rfl, fun _ h => ?_, fun _ => ⟨rfl, [], .nothing rfl⟩⟩
    rw [room] at h
    cases h
  | some bytes =>
    obtain ⟨js, read, ran, len, called⟩ := whenOpened bytes room
    have gains := LogBuffer.gains_push read.logs ⟨level, js⟩
    refine ⟨_, called, fun h => ?_, fun _ h => ?_, fun silent => ?_⟩
    · rw [room] at h
      cases h
    · rw [room] at h
      cases h
      exact ⟨js, read, ran, len, rfl, gains⟩
    · obtain ⟨clock, expired, rfl⟩ := later_logArguments silent ran
      exact ⟨rfl, js, gains⟩

end ConsoleCall

/-! ### Deadlines -/

/-- The same budget for as long as it takes. -/
def Budget.untimed (b : Budget) : Budget := { b with deadline := none }

namespace Walker

variable {α β : Type}

/-- A walk ends as another one does, unless its time is up. -/
def Untimed (x y : Walker α) : Prop :=
  ∀ apply m p, (∃ p' m', (x p).run apply m = .error (.deadlineExpired, p') m') ∨
    (y p).run apply m = (x p).run apply m

namespace Untimed

theorem bind {x y : Walker α} {next next' : α → Walker β} (first : Untimed x y)
    (second : ∀ a, Untimed (next a) (next' a)) : Untimed (x >>= next) (y >>= next') := by
  intro apply m p
  rw [run_bind, run_bind]
  rcases first apply m p with ⟨p', m', late⟩ | same
  · rw [late]
    exact .inl ⟨p', m', rfl⟩
  · rw [same]
    cases (x p).run apply m with
    | error e m₁ => exact .inr rfl
    | ok r m₁ => exact second r.1 apply m₁ r.2

theorem charge (budget : Budget) (payload : Nat) :
    Untimed (charge budget payload) (charge budget.untimed payload) := by
  intro apply m p
  unfold ScriptHost.charge
  by_cases large : saturatingAdd (saturatingAdd p.spent Json.nodeCost) payload > budget.maxBytes
  · have large' : saturatingAdd (saturatingAdd p.spent Json.nodeCost) payload >
        budget.untimed.maxBytes := large
    simp only [if_pos large, if_pos large']
    exact .inr rfl
  · simp only [Budget.untimed, if_neg large, Computation.run_bind, Computation.run_tick,
      Option.any_none, Bool.and_false]
    split
    · exact .inl ⟨_, _, rfl⟩
    · next inTime =>
      simp only [Bool.not_eq_true] at inTime
      rw [inTime]
      exact .inr rfl

theorem rule (budget : Budget) : Rule budget budget.untimed Untimed where
  unpaid _ _ _ _ := .inr rfl
  tooDeep _ _ _ := .inr rfl
  charge := charge budget
  bind := bind

end Untimed

end Walker

/-- A deadline does nothing to a conversion but to end it. -/
theorem dump_untimed (budget : Budget) (v : Value) (apply : Apply) (m : Machine) :
    (∃ m', (dump budget v).run apply m = .error .deadlineExpired m') ∨
      (dump budget.untimed v).run apply m = (dump budget v).run apply m := by
  rw [run_dump_walk, run_dump_walk]
  rcases (Walker.Untimed.rule budget).dumpAt (maxDepth + 1) v apply m {} with ⟨p', m', late⟩ | same
  · rw [late]
    exact .inl ⟨m', rfl⟩
  · rw [same]
    exact .inr rfl

/-! ### Arguments by themselves -/

/-- What becomes of an argument: a document with its bill, or a complaint. -/
abbrev Dumped := Except ConversionError (Json × Bill)

namespace Dumped

/-- What stands for it in the entry. -/
def shown : Dumped → Json
  | .ok (j, _) => j
  | .error e => .str ("<" ++ e.message ++ ">")

/-- The document, if there is one and no error was met on the way. -/
def errorless? : Dumped → Option Json
  | .ok (j, bill) => if bill.errors = [] then some j else none
  | .error _ => none

end Dumped

namespace ConsoleCall

/-- What becomes of an argument if the call begins with so much room. -/
structure Alone (budget : Budget) (room : Nat) (v : Value) (apply : Apply) (m : Machine) :
    Prop where
  /-- If it is dumped, it is so under the room of the whole call, with a bill that keeps to it.
  Unless there is an error in it, so does its document. -/
  kept : ∀ j bill m', (billed (budget.capped room) v).run apply m = .ok (j, bill) m' →
    (dump (budget.capped room) v).run apply m = .ok j m' ∧ min bill.paid maxCount ≤ room ∧
      (bill.errors = [] → min j.size maxCount ≤ room)
  /-- If it takes more than there is room for, it is replaced. -/
  replaced : room < spentOn v apply m →
    ∃ e m', (billed (budget.capped room) v).run apply m = .error e m'
  /-- Only then, or if it takes more than the budget allows, the reason is its size. -/
  reason : ∀ n m', (billed (budget.capped room) v).run apply m = .error (.tooLarge n) m' →
    n = min budget.maxBytes room ∧ n < spentOn v apply m

section Alone

variable {budget : Budget} {room : Nat} {v : Value} {apply : Apply} {m : Machine}

theorem run_dump_of_billed {e : ConversionError} {m' : Machine}
    (failed : (billed budget v).run apply m = .error e m') :
    (dump budget v).run apply m = .error e m' := by
  rw [run_dump, Computation.run_map, failed]

theorem spentOn_le_room {j : Json} {m' : Machine}
    (ok : (dump (budget.capped room) v).run apply m = .ok j m') : spentOn v apply m ≤ room := by
  rcases dump_untimed (budget.capped room) v apply m with ⟨m₁, late⟩ | same
  · rw [ok] at late
    cases late
  · rw [ok] at same
    exact Nat.le_trans (spentOn_le_of_ok rfl same) (Nat.min_le_right ..)

theorem beyond_of_tooLarge {n : Nat} {m' : Machine}
    (failed : (dump budget v).run apply m = .error (.tooLarge n) m') :
    n = budget.maxBytes ∧ n < spentOn v apply m := by
  have cuts := dump_cutsOff v apply m
  rcases dump_untimed budget v apply m with ⟨m₁, late⟩ | same
  · rw [failed] at late
    cases late
  · rw [failed] at same
    have small : budget.maxBytes < spentOn v apply m := by
      refine Nat.lt_of_not_le fun room => ?_
      rw [cuts.within budget.untimed rfl room] at same
      rcases cuts.complains _ _ same with he | ⟨cause, he⟩
      · cases he
      · cases he
    obtain ⟨m₁, stopped⟩ := cuts.beyond budget.untimed rfl small
    rw [same] at stopped
    cases stopped
    exact ⟨rfl, small⟩

theorem alone (budget : Budget) (room : Nat) (v : Value) (apply : Apply) (m : Machine) :
    Alone budget room v apply m where
  kept j bill m' converts := by
    have ok : (dump (budget.capped room) v).run apply m = .ok j m' := by
      rw [run_dump, Computation.run_map, converts]
    obtain ⟨bill', again, settles⟩ := dump_bill ok
    rw [converts] at again
    cases again
    have capped : (budget.capped room).maxBytes ≤ room := Nat.min_le_right ..
    refine ⟨ok, Nat.le_trans settles.paid capped, fun errorless => ?_⟩
    -- only what stands in an error is not paid for
    have unpaid : bill.unpaid = 0 := by rw [Bill.unpaid, errorless]; rfl
    have balance := settles.balance
    have paid := settles.paid
    omega
  replaced large := by
    cases h : (billed (budget.capped room) v).run apply m with
    | error e m' => exact ⟨e, m', rfl⟩
    | ok r m' =>
      have ok : (dump (budget.capped room) v).run apply m = .ok r.1 m' := by
        rw [run_dump, Computation.run_map, h]
      exact absurd (spentOn_le_room ok) (Nat.not_le_of_lt large)
  reason n m' failed := beyond_of_tooLarge (run_dump_of_billed failed)

end Alone

/-! ### Whole calls -/

/-- The conversions of a row of arguments, each of them where the one before has ended. -/
inductive Row (budget : Budget) (apply : Apply) :
    List Value → Machine → List Dumped → Machine → Prop
  | nil {m : Machine} : Row budget apply [] m [] m
  | kept {v : Value} {rest : List Value} {m m₁ m' : Machine} {r : Json × Bill} {ds : List Dumped}
      (converts : (billed budget v).run apply m = .ok r m₁)
      (others : Row budget apply rest m₁ ds m') :
      Row budget apply (v :: rest) m (.ok r :: ds) m'
  | replaced {v : Value} {rest : List Value} {m m₁ m' : Machine} {e : ConversionError}
      {ds : List Dumped} (fails : (billed budget v).run apply m = .error e m₁)
      (others : Row budget apply rest m₁ ds m') :
      Row budget apply (v :: rest) m (.error e :: ds) m'

/-- What a call of the console makes, where the buffer has still so much room. -/
structure Makes (budget : Budget) (level : LogLevel) (args : List Value) (apply : Apply)
    (m : Machine) (room : Nat) (ds : List Dumped) (m' : Machine) : Prop where
  /-- The arguments are converted in a row, each under all of the room. -/
  row : Row (budget.capped room) apply args m ds m'
  /-- The entry holds their documents, and a reason in place of each that cannot be dumped. -/
  adds : logCall budget level args apply m =
    .ok .undefined { m' with logs := m'.logs.push ⟨level, ds.map Dumped.shown⟩ }
  /-- All documents in which there is no error take so many times the room at most. -/
  bounded : total (ds.filterMap fun d => d.errorless?.map fun j => min j.size maxCount) ≤
    (ds.filterMap Dumped.errorless?).length * room
  /-- Whatever they take, the buffer keeps to its cap. -/
  stored : m'.logs.bytes ≤ m'.logs.maxBytes →
    (m'.logs.push ⟨level, ds.map Dumped.shown⟩).bytes ≤ m'.logs.maxBytes

/-- A call of the console that comes before the log has ended. -/
structure CallBounded (budget : Budget) (level : LogLevel) (args : List Value) (apply : Apply)
    (m : Machine) (room : Nat) : Prop where
  /-- The call makes something of each argument. -/
  makes : ∃ ds m', ds.length = args.length ∧ Makes budget level args apply m room ds m'
  /-- This depends on the argument alone, wherever its conversion begins. -/
  alone : ∀ v m, Alone budget room v apply m

section Calls

variable {budget : Budget} {apply : Apply} {args : List Value} {m m' : Machine} {ds : List Dumped}

theorem exists_row (budget : Budget) (apply : Apply) (args : List Value) (m : Machine) :
    ∃ ds m', ds.length = args.length ∧ Row budget apply args m ds m' := by
  induction args generalizing m with
  | nil => exact ⟨[], m, rfl, .nil⟩
  | cons v rest ih =>
    cases h : (billed budget v).run apply m with
    | ok r m₁ =>
      obtain ⟨ds, m', len, others⟩ := ih m₁
      exact ⟨.ok r :: ds, m', congrArg Nat.succ len, .kept h others⟩
    | error e m₁ =>
      obtain ⟨ds, m', len, others⟩ := ih m₁
      exact ⟨.error e :: ds, m', congrArg Nat.succ len, .replaced h others⟩

/-- The arguments of an entry are what stands for those of the row. -/
theorem Row.run_logArguments (row : Row budget apply args m ds m') :
    (logArguments budget args).run apply m = .ok (ds.map Dumped.shown) m' := by
  induction row with
  | nil => rfl
  | kept converts _ ih =>
    simp only [logArguments, Computation.run_bind, run_logArgument, run_dump, Computation.run_map,
      converts, ih, Computation.run_pure]
    rfl
  | replaced fails _ ih =>
    simp only [logArguments, Computation.run_bind, run_logArgument, run_dump, Computation.run_map,
      fails, ih, Computation.run_pure]
    rfl

theorem Row.bounded {room : Nat} (row : Row (budget.capped room) apply args m ds m') :
    total (ds.filterMap fun d => d.errorless?.map fun j => min j.size maxCount) ≤
      (ds.filterMap Dumped.errorless?).length * room := by
  induction row with
  | nil => exact Nat.zero_le _
  | @kept v _ m _ _ r _ converts _ ih =>
    obtain ⟨j, bill⟩ := r
    by_cases errorless : bill.errors = []
    · have small := ((alone budget room v apply m).kept j bill _ converts).2.2 errorless
      have first : Dumped.errorless? (.ok (j, bill)) = some j := if_pos errorless
      rw [List.filterMap_cons_some first, List.filterMap_cons_some (by rw [first, Option.map_some]),
        total, List.length_cons, Nat.succ_mul]
      omega
    · have first : Dumped.errorless? (.ok (j, bill)) = none := if_neg errorless
      rwa [List.filterMap_cons_none first,
        List.filterMap_cons_none (by rw [first, Option.map_none])]
  | replaced _ _ ih => exact ih

theorem bytes_push_le {b : LogBuffer} (within : b.bytes ≤ b.maxBytes) (e : LogEntry) :
    (b.push e).bytes ≤ b.maxBytes := by
  unfold LogBuffer.push
  split
  · exact within
  · split
    · exact within
    · next room =>
      simp only [Bool.or_eq_true, decide_eq_true_eq, not_or] at room
      exact Nat.le_of_not_lt room.2

/-- What one call of the console makes, with any number of arguments. -/
theorem callBounded (budget : Budget) (level : LogLevel) (args : List Value) (apply : Apply)
    (m : Machine) (room : Nat) (opened : m.logs.remaining? = some room) :
    CallBounded budget level args apply m room where
  makes := by
    obtain ⟨ds, m', len, row⟩ := exists_row (budget.capped room) apply args m
    obtain ⟨js, m₁, ran, -, called⟩ := (run_logCall budget level args apply m).2 room opened
    rw [row.run_logArguments] at ran
    cases ran
    exact ⟨ds, m', len, row, called, row.bounded, fun within => bytes_push_le within _⟩
  alone v m := alone budget room v apply m

end Calls

/-! ### Two arguments -/

/-- A machine with nothing on its heap, and a console that holds a single node. -/
def narrowMachine : Machine where
  heap := {}
  backend := {}
  logs := { maxBytes := Json.nodeCost }

/-- Each of two arguments fits into the room that is left when the call begins, and is dumped; both
together do not, so their sum is larger than the room. -/
theorem two_nulls :
    narrowMachine.logs.remaining? = some 16 ∧
      ∃ m', (logArguments (Budget.default.capped 16) [.null, .null]).run .none narrowMachine =
          .ok [.null, .null] m' ∧
        (∃ m₁, (dump (Budget.default.capped 16) .null).run .none narrowMachine = .ok .null m₁ ∧
          ∃ m₂, (dump (Budget.default.capped 16) .null).run .none m₁ = .ok .null m₂) ∧
        16 < total ([Json.null, .null].map Json.size) :=
  ⟨rfl, _, rfl, ⟨_, rfl, _, rfl⟩, by decide⟩

/-- The call still gives undefined, and its entry gives way to the marker. -/
theorem callBounded_narrow :
    narrowMachine.logs.remaining? = some 16 ∧
      CallBounded .default .log [.null, .null] .none narrowMachine 16 :=
  ⟨rfl, callBounded .default .log [.null, .null] .none narrowMachine 16 rfl⟩

end ConsoleCall

end ScriptHost
