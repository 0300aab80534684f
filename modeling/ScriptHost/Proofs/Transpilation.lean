import ScriptHost.Proofs.Lifecycle
import ScriptHost.Proofs.Transcript

/-!
# Typed sources in a session

The transpiler stands in front of the evaluation and nowhere else.  It is asked one question or
none, and what is left of it is a plain source that is evaluated, or a fault before anything is.

* `Inquiry`: what may ask a transpiler, with the questions that it asks;
* `EvalOptions.Wants`: whether a source is to be transpiled; `EvalOptions.plainly` is to say no;
* `Session.FrontEnd`: how an evaluation goes with a transpiler and without one;
* `Session.frontEnd`: it goes so in every ready session.
-/

namespace ScriptHost

/-! ### Asking -/

/-- What comes out after any number of questions to a transpiler. -/
inductive Inquiry (α : Type)
  | answer (a : α)
  | ask (source : Source) (filename : String) (next : Except String Source → Inquiry α)

namespace Inquiry

variable {α : Type}

def run (t : Transpiler) : Inquiry α → α
  | answer a => a
  | ask source filename next => (next (t source filename)).run t

/-- The questions that the transpiler is asked, in their order. -/
def questions (t : Transpiler) : Inquiry α → List (Source × String)
  | answer _ => []
  | ask source filename next => (source, filename) :: (next (t source filename)).questions t

end Inquiry

namespace EvalOptions

/-- The source is to be transpiled: it is said to be typed, or it looks so and nothing is said. -/
def Wants (o : EvalOptions) (source : Source) : Prop :=
  o.typed = some true ∨ o.typed = none ∧ looksTyped source.visibleText = true

instance (o : EvalOptions) (source : Source) : Decidable (o.Wants source) :=
  inferInstanceAs (Decidable (_ ∨ _ ∧ _))

/-- The options, but with the source said to be plain. -/
def plainly (o : EvalOptions) : EvalOptions := { o with typed := some false }

end EvalOptions

/-- The source that is run where there is a transpiler, or why there is none, as an inquiry. -/
def inquire (source : Source) (o : EvalOptions) : Inquiry (Except String Source) :=
  if o.Wants source then .ask source o.filenameOrDefault .answer else .answer (.ok source)

section Preparing

variable (t : Transpiler) (source : Source) (o : EvalOptions)

theorem typed_getD_iff :
    o.typed.getD (looksTyped source.visibleText) = true ↔ o.Wants source := by
  unfold EvalOptions.Wants
  cases o.typed with
  | none => simp
  | some typed => simp

theorem prepareSource_of_not_wants {o : EvalOptions} (h : ¬ o.Wants source)
    (t? : Option Transpiler) : prepareSource t? source o = (.ok source, false) := by
  have plain : o.typed.getD (looksTyped source.visibleText) = false := by
    rw [← Bool.not_eq_true, typed_getD_iff]
    exact h
  simp only [prepareSource, plain]

theorem prepareSource_of_wants {o : EvalOptions} (h : o.Wants source) :
    prepareSource (some t) source o = (t source o.filenameOrDefault, true) := by
  simp only [prepareSource, (typed_getD_iff source o).mpr h]

theorem prepareSource_none :
    prepareSource none source o =
      (if o.typed = some true then
        .error "typed dialect requested but no transpiler is installed"
      else .ok source, false) := by
  by_cases wants : o.Wants source
  · simp only [prepareSource, (typed_getD_iff source o).mpr wants]
    split <;> rfl
  · have unsaid : o.typed ≠ some true := fun said => wants (.inl said)
    rw [prepareSource_of_not_wants source wants, if_neg unsaid]

theorem prepareSource_plainly (t? : Option Transpiler) :
    prepareSource t? source o.plainly = (.ok source, false) :=
  prepareSource_of_not_wants source (by simp [EvalOptions.Wants, EvalOptions.plainly]) t?

/-- What an installed transpiler is asked while a source is prepared: once, or not at all. -/
theorem questions_inquire :
    (inquire source o).questions t =
      if o.Wants source then [(source, o.filenameOrDefault)] else [] := by
  unfold inquire
  by_cases wants : o.Wants source
  · simp [wants, Inquiry.questions]
  · simp [wants, Inquiry.questions]

/-- Preparing a source is that inquiry: it gives what the inquiry gives, and it tells whether
anything was asked. -/
theorem prepareSource_some :
    prepareSource (some t) source o =
      ((inquire source o).run t, !((inquire source o).questions t).isEmpty) := by
  rw [questions_inquire]
  unfold inquire
  by_cases wants : o.Wants source
  · rw [prepareSource_of_wants t source wants, if_pos wants, if_pos wants]
    rfl
  · rw [prepareSource_of_not_wants source wants, if_neg wants, if_neg wants]
    rfl

end Preparing

/-! ### Evaluations -/

namespace Sandbox

variable {s : Sandbox} {vm : Vm} {b : Backend} {source : Source} {o : EvalOptions} {asked : Bool}

/-- The sandbox with another transpiler. -/
def asking (s : Sandbox) (t : Transpiler) : Sandbox := { s with transpiler := some t }

/-- A script never meets the transpiler. -/
theorem evalReady_asking (s : Sandbox) (t : Transpiler) (vm : Vm) (b : Backend) (plain : Source)
    (filename : String) :
    (s.asking t).evalReady vm b plain filename =
      { s.evalReady vm b plain filename with
        sandbox := (s.evalReady vm b plain filename).sandbox.asking t } := by
  have sameHost : (s.asking t).host = s.host := rfl
  have sameMachine : (s.asking t).machine vm b = s.machine vm b := rfl
  unfold evalReady
  rw [sameHost, sameMachine]
  cases runSource s.host plain (s.machine vm b) with
  | mk result m =>
    dsimp only
    cases settle result m.expired <;> rfl

theorem transpiled_eval (hs : s.state = .ready vm) :
    (s.eval b source o).transpiled = (prepareSource s.transpiler source o).2 := by
  cases prepared : prepareSource s.transpiler source o with
  | mk plain asked =>
    cases plain with
    | error message => rw [eval_of_unprepared hs prepared]
    | ok plain => rw [eval_of_prepared hs prepared]

end Sandbox

namespace Session

/-- The session with another transpiler. -/
def asking (s : Session) (t : Transpiler) : Session := { s with sandbox := s.sandbox.asking t }

/-- How an evaluation goes with a transpiler and without one.  The answer and the session after it
are those of a plain evaluation, or they tell of a fault and nothing else has happened. -/
structure FrontEnd (s : Session) (source : Source) (o : EvalOptions) : Prop where
  /-- The transpiler is asked if and only if there is one and the source wants it. -/
  consulted : (s.sandbox.eval s.backend source o).transpiled = true ↔
    s.sandbox.transpiler.isSome = true ∧ o.Wants source
  /-- It is asked about the given source and file, and not again. -/
  once : ∀ t, s.sandbox.transpiler = some t →
    (prepareSource s.sandbox.transpiler source o).1 = (inquire source o).run t ∧
      (inquire source o).questions t =
        if o.Wants source then [(source, o.filenameOrDefault)] else []
  /-- With another transpiler that gives the same answer there, all goes the same way. -/
  rests : ∀ t t', s.sandbox.transpiler = some t →
    (o.Wants source → t' source o.filenameOrDefault = t source o.filenameOrDefault) →
      (s.asking t').perform (.eval source o) =
        ((s.perform (.eval source o)).1, (s.perform (.eval source o)).2.asking t')
  /-- Its answer is evaluated like a plain source. -/
  answered : ∀ t, s.sandbox.transpiler = some t → o.Wants source →
    ∀ out, t source o.filenameOrDefault = .ok out →
      s.perform (.eval source o) = s.perform (.eval out o.plainly)
  /-- Its complaint is a fault, and the session is as before. -/
  complained : ∀ t, s.sandbox.transpiler = some t → o.Wants source →
    ∀ message, t source o.filenameOrDefault = .error message →
      s.perform (.eval source o) = (.error (.script
        { kind := .transpile, message, filename := some o.filenameOrDefault, logs := [] }), s)
  /-- So it is where a transpiler is called for that is not there. -/
  missing : s.sandbox.transpiler = none → o.typed = some true →
    s.perform (.eval source o) = (.error (.script
      { kind := .transpile
        message := "typed dialect requested but no transpiler is installed"
        filename := some o.filenameOrDefault, logs := [] }), s)
  /-- A source that wants no transpiler, or only looks as if it did where there is none, is
  evaluated like a plain one. -/
  otherwise : ¬ o.Wants source ∨ s.sandbox.transpiler = none ∧ o.typed ≠ some true →
    s.perform (.eval source o) = s.perform (.eval source o.plainly)

section Ready

variable {s : Session} {vm : Vm} {source plain : Source} {o : EvalOptions} {asked : Bool}

/-- What is prepared goes the way of a plain source. -/
theorem perform_eval_of_prepared (hs : s.sandbox.state = .ready vm)
    (prepared : prepareSource s.sandbox.transpiler source o = (.ok plain, asked)) :
    s.perform (.eval source o) = s.perform (.eval plain o.plainly) := by
  have plainly := prepareSource_plainly plain o s.sandbox.transpiler
  rw [perform_eval_eq hs prepared, perform_eval_eq hs plainly]
  rfl

/-- A source that cannot be prepared leaves everything as it is. -/
theorem perform_eval_of_unprepared (hs : s.sandbox.state = .ready vm)
    (empty : s.sandbox.logs = s.sandbox.logs.cleared) {message : String}
    (unprepared : prepareSource s.sandbox.transpiler source o = (.error message, asked)) :
    s.perform (.eval source o) = (.error (.script
      { kind := .transpile, message, filename := some o.filenameOrDefault, logs := [] }), s) := by
  simp only [perform, Sandbox.eval_of_unprepared hs unprepared, ← empty]
  rfl

/-- All that an evaluation takes from a transpiler is its answer about the given source and file. -/
theorem perform_eval_asking (hs : s.sandbox.state = .ready vm) {t t' : Transpiler}
    (ht : s.sandbox.transpiler = some t)
    (same : o.Wants source → t' source o.filenameOrDefault = t source o.filenameOrDefault) :
    (s.asking t').perform (.eval source o) =
      ((s.perform (.eval source o)).1, (s.perform (.eval source o)).2.asking t') := by
  have hs' : (s.asking t').sandbox.state = .ready vm := hs
  have prepared_eq : prepareSource (s.asking t').sandbox.transpiler source o =
      prepareSource s.sandbox.transpiler source o := by
    rw [ht]
    show prepareSource (some t') source o = _
    by_cases wants : o.Wants source
    · rw [prepareSource_of_wants t' source wants, prepareSource_of_wants t source wants, same wants]
    · rw [prepareSource_of_not_wants source wants, prepareSource_of_not_wants source wants]
  cases prepared : prepareSource s.sandbox.transpiler source o with
  | mk plain asked =>
    rw [prepared] at prepared_eq
    cases plain with
    | error message =>
      simp only [perform, Sandbox.eval_of_unprepared hs prepared,
        Sandbox.eval_of_unprepared hs' prepared_eq]
      rfl
    | ok plain =>
      have ran := s.sandbox.evalReady_asking t' vm s.backend plain o.filenameOrDefault
      rw [perform_eval_eq hs prepared, perform_eval_eq hs' prepared_eq]
      simp only [asking, ran]

theorem frontEnd_of_ready (hs : s.sandbox.state = .ready vm)
    (empty : s.sandbox.logs = s.sandbox.logs.cleared) : s.FrontEnd source o where
  consulted := by
    rw [Sandbox.transpiled_eval hs]
    cases s.sandbox.transpiler with
    | none => simp [prepareSource_none]
    | some t =>
      rw [prepareSource_some, questions_inquire]
      by_cases wants : o.Wants source <;> simp [wants]
  once t ht := by
    rw [ht, prepareSource_some]
    exact ⟨rfl, questions_inquire t source o⟩
  rests t t' ht same := perform_eval_asking hs ht same
  answered t ht wants out answer := by
    have prepared := prepareSource_of_wants t source wants
    rw [answer, ← ht] at prepared
    exact perform_eval_of_prepared hs prepared
  complained t ht wants message answer := by
    have unprepared := prepareSource_of_wants t source wants
    rw [answer, ← ht] at unprepared
    exact perform_eval_of_unprepared hs empty unprepared
  missing none said := by
    have unprepared := prepareSource_none source o
    rw [if_pos said, ← none] at unprepared
    exact perform_eval_of_unprepared hs empty unprepared
  otherwise h := by
    rcases h with plain | ⟨none, unsaid⟩
    · exact perform_eval_of_prepared hs (prepareSource_of_not_wants source plain _)
    · have prepared := prepareSource_none source o
      rw [if_neg unsaid, ← none] at prepared
      exact perform_eval_of_prepared hs prepared

end Ready

theorem logs_after {start : Session} (empty : start.sandbox.logs = start.sandbox.logs.cleared)
    (ops : List Operation) :
    (start.after ops).sandbox.logs = (start.after ops).sandbox.logs.cleared := by
  refine after_induction (P := fun s => s.sandbox.logs = s.sandbox.logs.cleared) ?_ ops empty
  intro s op hs
  rw [(s.step op).logs_eq hs]
  exact hs

/-- Whatever has been done in a session, if it is ready a typed source is what its transpiler makes of
it: the transpiler is asked once or not at all, and its answer is evaluated like a plain source. -/
theorem frontEnd (start : Session) (empty : start.sandbox.logs = start.sandbox.logs.cleared)
    (ops : List Operation) {vm : Vm} (ready : (start.after ops).sandbox.state = .ready vm)
    (source : Source) (o : EvalOptions) : (start.after ops).FrontEnd source o :=
  frontEnd_of_ready ready (logs_after empty ops)

/-- A session whose transpiler takes every source for a blank one, and knows no other files than the
default one. -/
def blanking : Session where
  sandbox :=
    { Sandbox.ofDefaults with
      transpiler := some fun _ filename =>
        if filename = "script.js" then .ok (.text "") else .error (filename ++ ": unknown file") }
  backend := .empty

theorem frontEnd_blanking :
    blanking.sandbox.logs = blanking.sandbox.logs.cleared ∧
      (blanking.after [.init]).sandbox.state = .ready blanking.sandbox.firstVm ∧
      (blanking.after [.init]).FrontEnd (.text "let x: number = 1") {} ∧
      EvalOptions.Wants {} (.text "let x: number = 1") := by
  have startable : blanking.sandbox.Startable := ⟨by decide +kernel, by decide +kernel⟩
  have ready : (blanking.after [.init]).sandbox.state = .ready blanking.sandbox.firstVm := by
    rw [after_cons, perform_init_start startable rfl]
    rfl
  exact ⟨rfl, ready, frontEnd blanking rfl [.init] ready _ _, .inr ⟨rfl, by decide +kernel⟩⟩

end Session

end ScriptHost
