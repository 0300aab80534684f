import Mathlib.Data.List.Forall2
import ScriptHost.Proofs.Use

/-!
# Sessions that differ in a permission

* `Machine.SameBut`: machines whose heaps are the same but for a part;
* `callAt_sameBut`, `runSource_sameBut`: calls and evaluations run alike on such machines, if they
  depend on no spot of the part;
* `Session.Apart`, `Running.perform_agree`: sessions that differ in the permission of a namespace, and
  what one operation does to them on an engine;
* `Running.run_indifferent`, `Running.indifferent`: a row of operations that depends on nothing of the
  namespace does not show whether it is there, unless a heap gets full;
* `Running.permission_shows`: an assignment to the namespace shows it, and so does a heap that is too
  small for it or gets full because of it.
-/

namespace ScriptHost

/-! ### Machines -/

/-- Machines that are the same but for a part of their heaps. -/
structure Machine.SameBut (p : Part) (m n : Machine) : Prop where
  heap : m.heap.SameBut p n.heap
  rest : n = { m with heap := n.heap }

namespace Machine.SameBut

variable {p : Part} {m n : Machine}

theorem backend (same : SameBut p m n) : n.backend = m.backend := by rw [same.rest]

theorem logs (same : SameBut p m n) : n.logs = m.logs := by rw [same.rest]

theorem expired (same : SameBut p m n) : n.expired = m.expired := by rw [same.rest]

/-- No basic step that depends on no spot of the part tells such machines apart. -/
theorem blind (p : Part) : Blind p.Holds (SameBut p) where
  rest same := by rw [same.rest]
  look same q clear := same.heap.ask q clear
  change same c clear := ⟨same.heap.apply c clear, by rw [same.rest]⟩
  time same _ _ _ := ⟨same.heap, by rw [same.rest]⟩

end Machine.SameBut

/-! ### Calls -/

section Calls

variable {p : Part} {first second : Apply} {trails : CallTrail} {m n : Machine}
  (calls : ∀ f how args m n, m.SameBut p n → Clear p.Holds (trails f how args m) →
    Alike (Machine.SameBut p) (first f how args m) (second f how args n))

include calls

theorem logCall_sameBut (budget : Budget) (level : LogLevel) (args : List Value)
    (same : m.SameBut p n)
    (clear : Clear p.Holds ((logCall budget level args).trail first trails m)) :
    Alike (Machine.SameBut p) (logCall budget level args first m)
      (logCall budget level args second n) := by
  have blind := Machine.SameBut.blind p
  refine .bind (fun _ => ?_) (fun buffer m n same clear => ?_) clear
  · simp only [Service.run_readLogs, same.logs]
    exact .ok _ same
  · cases h : buffer.remaining? with
    | none => exact .ok _ same
    | some room =>
      rw [h] at clear
      refine .bind (Computation.alike blind calls _ same) (fun js m n same _ => ?_) clear
      refine .ok _ ⟨same.heap, ?_⟩
      rw [same.rest]

theorem callFunction_sameBut (host : Host) (c : Callable) (self : Ref) (how : Invocation)
    (args : List Value) (same : m.SameBut p n)
    (clear : Clear p.Holds ((callFunction host c self how args).trail first trails m)) :
    Alike (Machine.SameBut p) (callFunction host c self how args first m)
      (callFunction host c self how args second n) := by
  have blind := Machine.SameBut.blind p
  cases c with
  | capability namespaceName method =>
    unfold callFunction at clear ⊢
    dsimp only at clear ⊢
    cases found : host.row? namespaceName method with
    | none =>
      rw [found] at clear
      exact Computation.alike blind calls (throwType "not a function") same clear
    | some row =>
      rw [found] at clear
      -- The action of a row is given the backend and nothing of the heap.
      refine dispatch_alike blind calls _ _ row args (fun m n given same => ?_) same clear
      rw [same.backend]
      cases row.invoke.call given m.backend with
      | ok j b => exact .ok j ⟨same.heap, by rw [same.rest]⟩
      | error e b => exact .error e ⟨same.heap, by rw [same.rest]⟩
  | console level => exact logCall_sameBut calls _ level args same clear
  | closure body throws _ scope =>
    exact Computation.alike blind calls (callClosure host body throws scope how args) same clear
  | builtin b => exact Computation.alike blind calls (b.run self how args) same clear
  | bound target this given =>
    exact Computation.alike blind calls (callBound target self this how (given ++ args)) same clear
  | declaredClass derived =>
    exact Computation.alike blind calls (callClass derived self how args) same clear

theorem callValue_sameBut (host : Host) (f : Value) (how : Invocation) (args : List Value)
    (same : m.SameBut p n)
    (clear : Clear p.Holds ((callValue host f how args).trail first trails m)) :
    Alike (Machine.SameBut p) (callValue host f how args first m)
      (callValue host f how args second n) := by
  have blind := Machine.SameBut.blind p
  cases f with
  | object r =>
    refine .bind (Computation.alike blind calls (readObject r) same)
      (fun o m n same clear => ?_) clear
    cases kind : o.kind with
    | proxy target handler revoked =>
      rw [kind] at clear
      exact Computation.alike blind calls (callProxy target handler revoked how args) same clear
    | function c =>
      rw [kind] at clear
      cases how with
      | plain this => exact callFunction_sameBut calls host c r _ args same clear
      | making newTarget =>
        refine .bind (Computation.alike blind calls (isConstructor (.object r)) same)
          (fun made m n same clear => ?_) clear
        cases made with
        | true => exact callFunction_sameBut calls host c r _ args same clear
        | false => exact Computation.alike blind calls refuseConstruction same clear
    | _ =>
      rw [kind] at clear
      cases how with
      | plain this => exact Computation.alike blind calls (throwType "not a function") same clear
      | making newTarget => exact Computation.alike blind calls refuseConstruction same clear
  | _ => exact Computation.alike blind calls (throwType "not a function") same clear

end Calls

section Runs

variable {p : Part} {m n : Machine}

/-- Calls that depend on no spot of the part run alike.  The induction is on how deep calls may
nest. -/
theorem callAt_sameBut (host : Host) (depth : Nat) (f : Value) (how : Invocation)
    (args : List Value) (same : m.SameBut p n)
    (clear : Clear p.Holds (callTrail host depth f how args m)) :
    Alike (Machine.SameBut p) (callAt host depth f how args m)
      (callAt host depth f how args n) := by
  induction depth generalizing f how args m n with
  | zero => exact Computation.alike_none (Machine.SameBut.blind p) stackExceeded same clear
  | succ depth ih =>
    exact callValue_sameBut (fun f how args _ _ => ih f how args) host f how args same clear

theorem runSource_sameBut (host : Host) (source : Source) (same : m.SameBut p n)
    (clear : Clear p.Holds (host.trail source m)) :
    (runSource host source m).1 = (runSource host source n).1 ∧
      (runSource host source m).2.SameBut p (runSource host source n).2 :=
  runSourceBy_alike (Machine.SameBut.blind p)
    (fun f how args _ _ => callAt_sameBut host _ f how args) host source same clear

end Runs

/-! ### Sessions -/

/-- States that are the same but for a part of their heaps, and for the names of the namespaces. -/
inductive SessionState.SameBut (p : Part) : SessionState → SessionState → Prop
  | uninitialized : SameBut p .uninitialized .uninitialized
  | ready {v w : Vm} (heaps : v.heap.SameBut p w.heap) : SameBut p (.ready v) (.ready w)
  | poisoned {v w : Vm} (kind : FaultKind) (heaps : v.heap.SameBut p w.heap) :
    SameBut p (.poisoned v kind) (.poisoned w kind)
  | disposed : SameBut p .disposed .disposed

namespace SessionState.SameBut

variable {p : Part} {a b : SessionState}

/-- What one of them does not allow the other does not allow either. -/
theorem misuse? (same : a.SameBut p b) (op : Operation) : b.misuse? op = a.misuse? op := by
  cases same <;> cases op <;> rfl

theorem waits (same : a.SameBut p b) : b.waits = a.waits := by cases same <;> rfl

theorem exists_ready (same : a.SameBut p b) {v : Vm} (ready : a = .ready v) :
    ∃ w, b = .ready w ∧ v.heap.SameBut p w.heap := by
  cases same with
  | ready heaps =>
    cases ready
    exact ⟨_, rfl, heaps⟩
  | uninitialized | poisoned | disposed => cases ready

/-- The global variables are the same where they do not belong to the part. -/
theorem globals (same : a.SameBut p b) (outside : ¬ p.Covers globalRef) (root : globalRef ≠ p.root) :
    ∀ v ∈ a.vm?, ∀ w ∈ b.vm?, w.heap.object globalRef = v.heap.object globalRef := by
  intro v hv w hw
  cases same with
  | uninitialized | disposed => cases hv
  | ready heaps | poisoned kind heaps =>
    cases hv
    cases hw
    exact heaps.object _ outside root

end SessionState.SameBut

/-- Sandboxes whose settings are the same but for a permission, and for the identifier.  Either the
machines of both fit the heap of the engine or neither does. -/
structure Sandbox.SettingsBut (e : Engine) (gate : Permission) (s t : Sandbox) : Prop where
  limits : t.limits = s.limits
  registry : t.registry = s.registry
  transpiler : t.transpiler = s.transpiler
  permissions : ∀ p, p ≠ gate → t.permissions.isGranted p = s.permissions.isGranted p
  fits : (e.create t.host t.granted).isSome = (e.create s.host s.granted).isSome

namespace Sandbox.SettingsBut

variable {e : Engine} {gate : Permission} {s t s' t' : Sandbox} (but : SettingsBut e gate s t)

include but

theorem host : t.host = s.host := by rw [Sandbox.host, Sandbox.host, but.registry, but.limits]

theorem like (left : s.Like s') (right : t.Like t') : SettingsBut e gate s' t' where
  limits := by rw [left.limits, right.limits, but.limits]
  registry := by rw [left.registry, right.registry, but.registry]
  transpiler := by rw [left.transpiler, right.transpiler, but.transpiler]
  permissions p hp := by rw [left.permissions, right.permissions, but.permissions p hp]
  fits := by rw [left.host, right.host, left.granted, right.granted, but.fits]

/-- The machines of both sandboxes are the same but for the part. -/
theorem firstVm (valid : s.registry.fault? = none) :
    s.firstVm.heap.SameBut (s.registry.part gate) t.firstVm.heap := by
  show (Heap.install s.registry s.permissions).SameBut _ (Heap.install t.registry t.permissions)
  rw [but.registry]
  exact Heap.install_sameBut valid but.permissions

end Sandbox.SettingsBut

/-- Sessions that differ in a permission: the heaps are the same but for what belongs to its
namespace, and the backends are the same. -/
structure Session.Apart (e : Engine) (gate : Permission) (s t : Session) : Prop where
  settings : s.sandbox.SettingsBut e gate t.sandbox
  logs : t.sandbox.logs = s.sandbox.logs
  state : s.sandbox.state.SameBut (s.sandbox.registry.part gate) t.sandbox.state
  backend : t.backend = s.backend

/-- What operations ask of an engine, on machines that are the same but for a part. -/
inductive Demand.SameBut (p : Part) : Option Demand → Option Demand → Prop
  | none : SameBut p none none
  | create : SameBut p (some .create) (some .create)
  | evaluate {v w : Vm} (heaps : v.heap.SameBut p w.heap) (source : Source) (filename : String) :
    SameBut p (some (.evaluate v source filename)) (some (.evaluate w source filename))

/-! ### Operations -/

namespace Session

variable {e : Engine} {gate : Permission} {s t : Session}

/-- Sessions that change in nothing but their states stay apart by no more. -/
theorem Apart.step (apart : Apart e gate s t) {s' t' : Session} (left : s.sandbox.Like s'.sandbox)
    (right : t.sandbox.Like t'.sandbox) (logs : t'.sandbox.logs = s'.sandbox.logs)
    (state : s'.sandbox.state.SameBut (s.sandbox.registry.part gate) t'.sandbox.state)
    (backend : t'.backend = s'.backend) : Apart e gate s' t' :=
  ⟨apart.settings.like left right, logs, by rwa [left.registry], backend⟩

/-- An operation asks the engine for the same in both sessions. -/
theorem Apart.demand? (apart : Apart e gate s t) (op : Operation) :
    Demand.SameBut (s.sandbox.registry.part gate) (s.demand? op) (t.demand? op) := by
  cases op with
  | init =>
    simp only [Session.demand?, apart.settings.registry, apart.state.waits]
    split
    · exact .create
    · exact .none
  | eval source options =>
    have state := apart.state
    simp only [Session.demand?, apart.settings.transpiler]
    generalize s.sandbox.state = before at state
    generalize t.sandbox.state = before' at state
    cases state with
    | ready heaps =>
      dsimp only
      split
      · exact .evaluate heaps _ _
      · exact .none
    | uninitialized | poisoned | disposed => exact .none
  | dispose => exact .none

/-- An operation of `Session.perform` gives the same answers in both sessions, and leaves them apart by
no more. -/
def Agrees (e : Engine) (gate : Permission) (s t : Session) (op : Operation) : Prop :=
  (t.perform op).1 = (s.perform op).1 ∧ Apart e gate (s.perform op).2 (t.perform op).2

/-- An `init` that makes no machine does so: it finds one, or a fault in the table. -/
theorem Apart.idle_init (apart : Apart e gate s t) (allowed : s.sandbox.state.misuse? .init = none)
    (idle : s.demand? .init = none) : Agrees e gate s t .init := by
  unfold Agrees
  by_cases waits : s.sandbox.state.waits = true
  · cases valid : s.sandbox.registry.fault? with
    | none =>
      rw [demand?_init waits valid] at idle
      cases idle
    | some fault =>
      have valid' : t.sandbox.registry.fault? = some fault := by rw [apart.settings.registry, valid]
      have waits' : t.sandbox.state.waits = true := by rw [apart.state.waits, waits]
      rw [perform, perform, Sandbox.init_of_waits waits, Sandbox.init_of_waits waits',
        Sandbox.start, Sandbox.start, valid, valid']
      exact ⟨rfl, apart⟩
  · cases hs : s.sandbox.state with
    | ready v =>
      obtain ⟨w, ht, -⟩ := apart.state.exists_ready hs
      rw [perform_init_ready hs, perform_init_ready ht]
      exact ⟨rfl, apart⟩
    | uninitialized | poisoned => simp [hs, SessionState.waits] at waits
    | disposed => simp [hs, SessionState.misuse?] at allowed

/-- So does an evaluation that asks for nothing: its source cannot be prepared. -/
theorem Apart.idle_eval (apart : Apart e gate s t) {source : Source} {options : EvalOptions}
    (allowed : s.sandbox.state.misuse? (.eval source options) = none)
    (idle : s.demand? (.eval source options) = none) :
    Agrees e gate s t (.eval source options) := by
  obtain ⟨v, hs⟩ := SessionState.exists_ready allowed
  obtain ⟨w, ht, heaps⟩ := apart.state.exists_ready hs
  cases prepared : prepareSource s.sandbox.transpiler source options with
  | mk plain asked =>
    cases plain with
    | ok plain =>
      rw [demand?_eval hs prepared] at idle
      cases idle
    | error message =>
      have prepared' : prepareSource t.sandbox.transpiler source options =
        (.error message, asked) := by rw [apart.settings.transpiler, prepared]
      have left := s.perform_like (.eval source options)
      have right := t.perform_like (.eval source options)
      simp only [Agrees, perform, Sandbox.eval_of_unprepared hs prepared,
        Sandbox.eval_of_unprepared ht prepared'] at left right ⊢
      refine ⟨trivial, apart.step left right ?_ apart.state apart.backend⟩
      simp only [apart.logs]

/-- So does every operation that asks the engine for nothing. -/
theorem Apart.idle (apart : Apart e gate s t) {op : Operation} (idle : s.demand? op = none) :
    Agrees e gate s t op := by
  cases misuse : s.sandbox.state.misuse? op with
  | some fault =>
    rw [Agrees, perform_misused misuse, perform_misused ((apart.state.misuse? op).trans misuse)]
    exact ⟨rfl, apart⟩
  | none =>
    cases op with
    | init => exact apart.idle_init misuse idle
    | eval source options => exact apart.idle_eval misuse idle
    | dispose =>
      exact ⟨rfl, apart.step (s.perform_like .dispose) (t.perform_like .dispose) apart.logs .disposed
        apart.backend⟩

/-- Runs that end alike are concluded alike. -/
theorem Apart.conclude (apart : Apart e gate s t) {v w : Vm} {m n : Machine}
    (same : m.SameBut (s.sandbox.registry.part gate) n) (filename : String)
    (result : Except ScriptFault Json) :
    (t.sandbox.conclude w filename result n).result =
        (s.sandbox.conclude v filename result m).result ∧
      Apart e gate
        ⟨(s.sandbox.conclude v filename result m).sandbox,
          (s.sandbox.conclude v filename result m).backend⟩
        ⟨(t.sandbox.conclude w filename result n).sandbox,
          (t.sandbox.conclude w filename result n).backend⟩ := by
  have left := s.sandbox.conclude_like v filename result m
  have right := t.sandbox.conclude_like w filename result n
  cases result with
  | ok value =>
    refine ⟨?_, apart.step left right ?_ (.ready same.heap) same.backend⟩
    · simp only [Sandbox.conclude, same.logs]
    · simp only [Sandbox.conclude, same.logs]
  | error fault =>
    refine ⟨?_, apart.step left right ?_ ?_ same.backend⟩
    · simp only [Sandbox.conclude, same.logs]
    · simp only [Sandbox.conclude, same.logs]
    · simp only [Sandbox.conclude]
      cases fault.kind.poisons with
      | true => exact .poisoned _ same.heap
      | false => exact .ready same.heap

end Session

/-! ### On an engine -/

namespace Running

variable {e : Engine} {gate : Permission} {q r : Running e}

/-- An operation gives the same answers in both sessions, and leaves them apart by no more. -/
def Agree (gate : Permission) (a b : Performed e) : Prop :=
  b.reply = a.reply ∧ a.left.session.Apart e gate b.left.session

/-- A machine is made in both sessions or in neither. -/
theorem create_agree (apart : q.session.Apart e gate r.session)
    (valid : q.session.sandbox.registry.fault? = none) : Agree gate q.create r.create := by
  have fits := apart.settings.fits
  unfold create
  generalize e.create q.session.sandbox.host q.session.sandbox.granted = left at fits
  generalize e.create r.session.sandbox.host r.session.sandbox.granted = right at fits
  cases left with
  | none =>
    obtain rfl : right = none := Option.isSome_eq_false_iff.1 fits |> Option.isNone_iff_eq_none.1
    exact ⟨rfl, apart⟩
  | some memory =>
    obtain ⟨memory', rfl⟩ := Option.isSome_iff_exists.1 fits
    exact ⟨rfl, apart.step ⟨rfl, rfl, rfl, rfl, rfl⟩ ⟨rfl, rfl, rfl, rfl, rfl⟩ apart.logs
      (.ready (apart.settings.firstVm valid)) apart.backend⟩

/-- An evaluation that fills neither heap, and depends on no spot of the part, ends alike. -/
theorem evaluate_agree (faithful : e.Faithful) (apart : q.session.Apart e gate r.session) {v w : Vm}
    (heaps : v.heap.SameBut (q.session.sandbox.registry.part gate) w.heap) {source : Source}
    {filename : String}
    (clear : Clear (q.session.sandbox.registry.part gate).Holds
      (q.session.sandbox.host.trail source (q.session.sandbox.machine v q.session.backend)))
    (roomy : (q.evaluate v source filename).full = false)
    (roomy' : (r.evaluate w source filename).full = false) :
    Agree gate (q.evaluate v source filename) (r.evaluate w source filename) := by
  have start : (q.session.sandbox.machine v q.session.backend).SameBut
      (q.session.sandbox.registry.part gate) (r.session.sandbox.machine w r.session.backend) := by
    refine ⟨heaps, ?_⟩
    simp only [Sandbox.machine, apart.logs, apart.backend]
  -- As neither heap gets full, the engine does what the source says.
  obtain ⟨result, same⟩ := runSource_sameBut q.session.sandbox.host source start clear
  obtain ⟨left, machine⟩ := faithful _ _ _ _ roomy
  obtain ⟨right, machine'⟩ := faithful _ _ _ _ roomy'
  rw [apart.settings.host] at right machine'
  simp only [Agree, evaluate, apart.settings.host, left, machine, right, machine', same.expired,
    ← result]
  obtain ⟨answer, apart⟩ := apart.conclude (v := v) (w := w) same filename
    (settle (runSource q.session.sandbox.host source
      (q.session.sandbox.machine v q.session.backend)).1 (runSource q.session.sandbox.host source
      (q.session.sandbox.machine v q.session.backend)).2.expired)
  exact ⟨by rw [answer], apart⟩

/-- What one operation does to sessions that differ in a permission: the answers are the same, and
so is what it leaves but for the part of the namespace. -/
theorem perform_agree (faithful : e.Faithful) (apart : q.session.Apart e gate r.session)
    (op : Operation)
    (clear : Clear (q.session.sandbox.registry.part gate).Holds (q.session.spots op))
    (roomy : (q.perform op).full = false) (roomy' : (r.perform op).full = false) :
    Agree gate (q.perform op) (r.perform op) := by
  have demands := apart.demand? op
  unfold perform at roomy roomy' ⊢
  unfold Session.spots at clear
  cases hq : q.session.demand? op with
  | none =>
    rw [hq] at demands
    generalize r.session.demand? op = other at demands
    cases demands
    exact apart.idle hq
  | some d =>
    rw [hq] at demands clear roomy
    generalize r.session.demand? op = other at demands roomy'
    cases demands with
    | create => exact create_agree apart (Session.eq_init_of_create hq).2.2
    | evaluate heaps source filename =>
      exact evaluate_agree faithful apart heaps clear roomy roomy'

/-- What an operation tells of two sessions that differ in what belongs to a part: nothing. -/
structure Indifferent (p : Part) (a b : Performed e) : Prop where
  /-- Both answer the same. -/
  answer : b.reply = a.reply
  /-- Both have used the backend in the same way. -/
  backend : b.left.session.backend = a.left.session.backend
  /-- Both are in the same state, on heaps that are the same but for the part. -/
  state : a.left.session.sandbox.state.SameBut p b.left.session.sandbox.state
  /-- The global variables are the same. -/
  globals : ∀ v ∈ a.left.session.sandbox.state.vm?, ∀ w ∈ b.left.session.sandbox.state.vm?,
    w.heap.object globalRef = v.heap.object globalRef

/-- A row of operations gives the same answers, by induction on it. -/
theorem run_indifferent (faithful : e.Faithful) (apart : q.session.Apart e gate r.session)
    (ops : List Operation)
    (clear : Clear (q.session.sandbox.registry.part gate).Holds (q.trail ops))
    (roomy : ∀ a ∈ q.run ops, a.full = false) (roomy' : ∀ b ∈ r.run ops, b.full = false) :
    List.Forall₂ (Indifferent (q.session.sandbox.registry.part gate)) (q.run ops) (r.run ops) := by
  induction ops generalizing q r with
  | nil => exact .nil
  | cons op ops ih =>
    obtain ⟨here, later⟩ := Clear.append.1 clear
    obtain ⟨now, after⟩ := List.forall_mem_cons.1 roomy
    obtain ⟨now', after'⟩ := List.forall_mem_cons.1 roomy'
    obtain ⟨answer, next⟩ := perform_agree faithful apart op here now now'
    -- The table stays as it is, so the part does.
    have table := (q.perform_like op).registry
    have state := next.state
    rw [← table] at later
    rw [table] at state
    obtain ⟨covered, root⟩ := Registry.global_outside q.session.sandbox.registry gate
    exact .cons ⟨answer, next.backend, state, state.globals covered root⟩
      (table ▸ ih next later after after')

theorem Indifferent.replies {p : Part} {as bs : List (Performed e)}
    (same : List.Forall₂ (Indifferent p) as bs) :
    bs.map Performed.reply = as.map Performed.reply := by
  induction same with
  | nil => rfl
  | cons here _ ih => rw [List.map_cons, List.map_cons, here.answer, ih]

end Running

/-! ### Rows of operations -/

/-- The session with other permissions. -/
def Session.permitting (s : Session) (p : Permissions) : Session :=
  { s with sandbox.permissions := p }

namespace Running

variable {e : Engine}

/-- The same on an engine. -/
def permitting (r : Running e) (p : Permissions) : Running e :=
  { r with session := r.session.permitting p }

/-- Two sessions that differ in a permission, before they have a machine. -/
theorem apart_permitting (r : Running e) (fresh : r.session.sandbox.state = .uninitialized)
    {gate : Permission} {p : Permissions}
    (others : ∀ x, x ≠ gate → p.isGranted x = r.session.sandbox.permissions.isGranted x)
    (fits : (e.create r.session.sandbox.host (r.permitting p).session.sandbox.granted).isSome =
      (e.create r.session.sandbox.host r.session.sandbox.granted).isSome) :
    r.session.Apart e gate (r.permitting p).session := by
  refine ⟨⟨rfl, rfl, rfl, others, fits⟩, rfl, ?_, rfl⟩
  show r.session.sandbox.state.SameBut _ r.session.sandbox.state
  rw [fresh]
  exact .uninitialized

/-- On every engine, sessions that differ in a permission are the same to all operations that depend
on nothing that belongs to its namespace: neither on its property of the root, nor on its objects,
nor on which properties the root has.  The heap must hold the machines of both or of neither, and
get full in no evaluation. -/
theorem indifferent (faithful : e.Faithful) (r : Running e)
    (fresh : r.session.sandbox.state = .uninitialized) (gate : Permission) (p : Permissions)
    (others : ∀ x, x ≠ gate → p.isGranted x = r.session.sandbox.permissions.isGranted x)
    (fits : (e.create r.session.sandbox.host (r.permitting p).session.sandbox.granted).isSome =
      (e.create r.session.sandbox.host r.session.sandbox.granted).isSome)
    (ops : List Operation)
    (clear : Clear (r.session.sandbox.registry.part gate).Holds (r.trail ops))
    (roomy : ∀ a ∈ r.run ops, a.full = false)
    (roomy' : ∀ b ∈ (r.permitting p).run ops, b.full = false) :
    List.Forall₂ (Indifferent (r.session.sandbox.registry.part gate)) (r.run ops)
      ((r.permitting p).run ops) :=
  run_indifferent faithful (r.apart_permitting fresh others fits) ops clear roomy roomy'

end Running

namespace Session

/-- The same of sessions as `Session.perform` has them, on an engine that compares single pieces with
the ceiling. -/
theorem replies_permitting (s : Session) (fresh : s.sandbox.state = .uninitialized)
    (gate : Permission) (p : Permissions)
    (others : ∀ x, x ≠ gate → p.isGranted x = s.sandbox.permissions.isGranted x)
    (fits : s.sandbox.host.exceeds
        (Sandbox.functionBytes * (s.permitting p).sandbox.granted.methodCount) =
      s.sandbox.host.exceeds (Sandbox.functionBytes * s.sandbox.granted.methodCount))
    (ops : List Operation)
    (clear : Clear (s.sandbox.registry.part gate).Holds ((Running.estimated s).trail ops)) :
    ((s.permitting p).events ops).map Prod.snd = (s.events ops).map Prod.snd := by
  let r := Running.estimated s
  have room : (Engine.estimating.create s.sandbox.host (s.permitting p).sandbox.granted).isSome =
      (Engine.estimating.create s.sandbox.host s.sandbox.granted).isSome := by
    simp only [Engine.estimating, fits]
  have same := Running.run_indifferent Engine.faithful_estimating
    (r.apart_permitting fresh others room) ops clear (r.run_estimating ops).2
    ((r.permitting p).run_estimating ops).2
  have replies := Running.Indifferent.replies same
  rw [(r.run_estimating ops).1, ((r.permitting p).run_estimating ops).1] at replies
  exact replies

theorem full_of_ne_mutate (x : Permission) (hx : x ≠ .mutate) :
    Permissions.full.isGranted x = Permissions.defaults.isGranted x := by
  cases x <;> first | exact absurd rfl hx | rfl

theorem startable_defaults : (withPermissions .defaults).sandbox.Startable :=
  ⟨by decide +kernel, by decide +kernel⟩

theorem startable_full : (withPermissions .full).sandbox.Startable :=
  ⟨by decide +kernel, by decide +kernel⟩

end Session

namespace Running

open Session

/-- A session on an engine that counts what is alive, and the bytes that it has counted. -/
def counted (s : Session) (taken : Nat) : Running .counting := ⟨s, taken⟩

section Counted

variable {s : Session}

theorem perform_counted_init (waits : s.sandbox.state.waits = true)
    (valid : s.sandbox.registry.fault? = none)
    (fits : s.sandbox.host.exceeds (Sandbox.functionBytes * s.sandbox.granted.methodCount) = false)
    (taken : Nat) :
    (counted s taken).perform .init =
      ⟨.ok none, counted s.opened (Sandbox.functionBytes * s.sandbox.granted.methodCount), false⟩ :=
  perform_init waits valid (Engine.create_counting_of_fits fits)

/-- An evaluation that gives something does so as long as the heap holds the objects that it makes. -/
theorem perform_counted_eval {vm : Vm} (ready : s.sandbox.state = .ready vm) (source : Source)
    (options : EvalOptions) {plain : Source} {asked : Bool}
    (prepared : prepareSource s.sandbox.transpiler source options = (.ok plain, asked))
    {j : Json} {n : Machine} (inTime : n.expired = false)
    (ran : runSource s.sandbox.host plain (s.sandbox.machine vm s.backend) = (.ok j, n))
    {count : Nat} (made : n.heap.objects.size - vm.heap.objects.size = count) (taken : Nat) :
    ((counted s taken).perform (.eval source options)).full =
        s.sandbox.host.exceeds (taken + objectBytes * count) ∧
      ((counted s taken).perform (.eval source options)).reply.isOk =
        !s.sandbox.host.exceeds (taken + objectBytes * count) := by
  subst made
  rw [perform_eval (r := counted s taken) ready prepared]
  cases exceeds : s.sandbox.host.exceeds
      (taken + objectBytes * (n.heap.objects.size - vm.heap.objects.size)) with
  | true =>
    simp only [evaluate, counted, Engine.evaluate_counting_of_exceeds ran exceeds]
    cases n.expired <;> exact ⟨trivial, rfl⟩
  | false =>
    simp only [evaluate, counted, Engine.evaluate_counting_of_fits ran exceeds, inTime]
    exact ⟨trivial, rfl⟩

end Counted

/-- Reading a namespace makes no object, so the heap does not get full. -/
theorem roomy_naming {p : Permissions} (startable : (withPermissions p).sandbox.Startable)
    (granted : p.isGranted .model = true) (taken : Nat) :
    ∀ a ∈ (counted (withPermissions p) taken).run namingProgram.opening, a.full = false := by
  have valid : Registry.builtin.fault? = none := startable.valid
  have listed : Permission.model.key ∈ (Registry.builtin.installed p).map Namespace.name :=
    (Registry.key_mem_installed valid).2 ⟨key_mem_builtin .model, granted⟩
  have found : (namingProgram.run Sandbox.ofDefaults.host).Finds (fun _ => False)
      (callAt Sandbox.ofDefaults.host Sandbox.ofDefaults.host.callDepth) (fun _ _ _ _ => [])
      (firstMachine p) Value.undefined :=
    finds_namingProgram _ (grounded_firstMachine p) (Heap.rooted_part valid p .model) listed
      ⟨id, id⟩ ⟨id, id⟩
  have ran : runSource Sandbox.ofDefaults.host (.program none namingProgram) (firstMachine p) =
      (.ok .null, { firstMachine p with clock := (firstMachine p).clock + 1 }) :=
    runSource_of_undefined (.program none namingProgram) rfl (by decide) found.run
  have evaluated := (perform_counted_eval (s := (withPermissions p).opened) rfl
    (.program none namingProgram) {} rfl rfl ran (Nat.sub_self _)
    (Sandbox.functionBytes * (withPermissions p).sandbox.granted.methodCount)).1
  simp only [Program.opening, run, perform_counted_init rfl valid startable.fits,
    List.forall_mem_cons, List.not_mem_nil, false_implies, implies_true, and_true, true_and]
  rw [evaluated]
  exact startable.fits

/-- With the default settings, whether scripts may change the model does not show in a script that
only reads the model: on an engine that counts what is alive, and as `Session.perform` has it. -/
theorem indifferent_mutate :
    Engine.counting.Faithful ∧
      (withPermissions .defaults).sandbox.state = .uninitialized ∧
      (∀ x, x ≠ .mutate → Permissions.full.isGranted x = Permissions.defaults.isGranted x) ∧
      (Engine.counting.create Sandbox.ofDefaults.host
          (withPermissions .full).sandbox.granted).isSome =
        (Engine.counting.create Sandbox.ofDefaults.host
          (withPermissions .defaults).sandbox.granted).isSome ∧
      Clear (Registry.builtin.part .mutate).Holds
        ((counted (withPermissions .defaults) 0).trail namingProgram.opening) ∧
      (∀ a ∈ (counted (withPermissions .defaults) 0).run namingProgram.opening, a.full = false) ∧
      (∀ b ∈ (counted (withPermissions .full) 0).run namingProgram.opening, b.full = false) ∧
      List.Forall₂ (Indifferent (Registry.builtin.part .mutate))
        ((counted (withPermissions .defaults) 0).run namingProgram.opening)
        ((counted (withPermissions .full) 0).run namingProgram.opening) ∧
      ((withPermissions .full).events namingProgram.opening).map Prod.snd =
        ((withPermissions .defaults).events namingProgram.opening).map Prod.snd := by
  have fits : (Engine.counting.create Sandbox.ofDefaults.host
        (withPermissions .full).sandbox.granted).isSome =
      (Engine.counting.create Sandbox.ofDefaults.host
        (withPermissions .defaults).sandbox.granted).isSome := by decide +kernel
  have clear : Clear (Registry.builtin.part .mutate).Holds
      ((counted (withPermissions .defaults) 0).trail namingProgram.opening) :=
    clear_naming startable_defaults.valid rfl (by decide) (counted (withPermissions .defaults) 0) rfl
      (Engine.create_counting_of_fits startable_defaults.fits)
  have roomy := roomy_naming startable_defaults rfl 0
  have roomy' := roomy_naming startable_full rfl 0
  have same := indifferent Engine.faithful_counting (counted (withPermissions .defaults) 0) rfl
    .mutate .full full_of_ne_mutate fits _ clear roomy roomy'
  have clear' : Clear (Registry.builtin.part .mutate).Holds
      ((estimated (withPermissions .defaults)).trail namingProgram.opening) :=
    clear_naming startable_defaults.valid rfl (by decide) (estimated (withPermissions .defaults)) rfl
      (Engine.create_estimating_of_fits startable_defaults.fits)
  have replies := replies_permitting (withPermissions .defaults) rfl .mutate .full full_of_ne_mutate
    (by decide +kernel) namingProgram.opening clear'
  exact ⟨Engine.faithful_counting, rfl, full_of_ne_mutate, fits, clear, roomy, roomy', same, replies⟩

/-- A session whose heap holds the capabilities that some permissions give, and no more. -/
def tightSession (holder p : Permissions) : Session :=
  let bytes := Host.baseBytes +
    Sandbox.functionBytes * (Registry.builtin.installed holder).methodCount
  ⟨{ (withPermissions p).sandbox with limits := { Limits.default with memoryBytes := bytes } }, {}⟩

/-- On a heap that is nearly full, what is alive tells whether there is room for one object more. -/
theorem replies_making {p : Permissions}
    (fits : (tightSession .full p).sandbox.host.exceeds
      (Sandbox.functionBytes * (tightSession .full p).sandbox.granted.methodCount) = false) :
    ((counted (tightSession .full p) 0).run makingProgram.opening).map (fun a => a.reply.isOk) =
      [true, !(tightSession .full p).sandbox.host.exceeds
        (Sandbox.functionBytes * (tightSession .full p).sandbox.granted.methodCount +
          objectBytes)] := by
  have valid : (tightSession .full p).sandbox.registry.fault? = none := startable_full.valid
  let m := (tightSession .full p).opened.sandbox.machine (tightSession .full p).sandbox.firstVm {}
  obtain ⟨o, made⟩ : ∃ o, (makingProgram.run (tightSession .full p).sandbox.host).run
      (callAt (tightSession .full p).sandbox.host (tightSession .full p).sandbox.host.callDepth) m =
        .ok .undefined { m with heap := (m.heap.allocate o).2 } := run_makingProgram _
  have room : Json.nodeCost ≤ (tightSession .full p).sandbox.host.budget.maxBytes :=
    Nat.le_trans (by decide : Json.nodeCost ≤ Host.baseBytes) (Nat.le_add_right ..)
  have ran : runSource (tightSession .full p).sandbox.host (.program none makingProgram) m =
      (.ok .null, { m with heap := (m.heap.allocate o).2, clock := m.clock + 1 }) :=
    runSource_of_undefined (.program none makingProgram) rfl room made
  have more : (m.heap.allocate o).2.objects.size -
      (tightSession .full p).sandbox.firstVm.heap.objects.size = 1 := by
    rw [Heap.size_allocate]
    exact Nat.add_sub_cancel_left ..
  have evaluated := (perform_counted_eval (s := (tightSession .full p).opened) rfl
    (.program none makingProgram) {} rfl rfl ran more
    (Sandbox.functionBytes * (tightSession .full p).sandbox.granted.methodCount)).2
  simp only [Program.opening, run, perform_counted_init rfl valid fits, List.map_cons, List.map_nil,
    evaluated]
  rfl

/-- A permission shows although no script reads its namespace: by an assignment to it, if the heap is
too small for it, and if the heap gets full because it is there. -/
theorem permission_shows :
    (∀ x, x ≠ .mutate → Permissions.full.isGranted x = Permissions.defaults.isGranted x) ∧
      (withPermissions .full).events assigningProgram.opening ≠
        (withPermissions .defaults).events assigningProgram.opening ∧
      (tightSession .defaults .full).events [.init] ≠
        (tightSession .defaults .defaults).events [.init] ∧
      ((counted (tightSession .full .full) 0).run makingProgram.opening).map Performed.reply ≠
        ((counted (tightSession .full .defaults) 0).run makingProgram.opening).map
          Performed.reply := by
  refine ⟨full_of_ne_mutate, fun same => ?_, fun same => ?_, fun same => ?_⟩
  · -- The complaint tells whether the namespace is there.
    have granted := messages_assigning startable_full
    rw [same, messages_assigning startable_defaults] at granted
    exact absurd granted (by decide +kernel)
  · -- One heap has no room for the capabilities of one namespace more.
    have full : ((tightSession .defaults .full).events [.init]).map (fun e => e.2.isOk) =
      [false] := by decide +kernel
    have defaults : ((tightSession .defaults .defaults).events [.init]).map (fun e => e.2.isOk) =
      [true] := by decide +kernel
    rw [same, defaults] at full
    exact absurd full (by decide)
  · -- Both heaps hold the capabilities, and one of them an object besides.
    have answers := congrArg (List.map Except.isOk) same
    rw [List.map_map, List.map_map] at answers
    have full := replies_making (p := .full) (by decide +kernel)
    have defaults := replies_making (p := .defaults) (by decide +kernel)
    have differ := full.symm.trans (answers.trans defaults)
    exact absurd differ (by decide +kernel)

end Running

end ScriptHost
