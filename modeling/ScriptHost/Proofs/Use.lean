import ScriptHost.Proofs.Confinement
import ScriptHost.Proofs.Engines
import ScriptHost.Proofs.Lifecycle
import ScriptHost.Proofs.Names
import ScriptHost.Proofs.Walk

/-!
# How scripts use the root

* `Computation.Finds`: computations that give a value and depend on no hidden spot;
* `Heap.Rooted.finds_namespace`: reading a namespace depends on no other one;
* `Heap.Rooted.set_of_mem`, `Heap.Rooted.set_of_not_mem`: assignments to the root fail, but not in
  the same way for namespaces that are there and for names that are not;
* `Session.clear_naming`, `Session.messages_assigning`: what this comes to in a session, for a
  script that reads a namespace and for one that assigns to a namespace.
-/

namespace ScriptHost

variable {ε δ α β : Type}

/-! ### What is found -/

/-- A computation gives a value, changes nothing and depends on no hidden spot. -/
structure Computation.Finds (hidden : Spot → Prop) (apply : Apply) (calls : CallTrail) (m : Machine)
    (x : Computation ε α) (a : α) : Prop where
  run : x.run apply m = .ok a m
  clear : Clear hidden (x.action.trail apply calls m)

namespace Computation.Finds

variable {hidden : Spot → Prop} {apply : Apply} {calls : CallTrail} {m : Machine}

theorem give (a : α) : Finds hidden apply calls m (.give a : Computation ε α) a := ⟨rfl, nofun⟩

theorem look {q : Look α} (clear : Clear hidden (q.spots m.heap)) :
    Finds hidden apply calls m (.look q : Computation ε α) (q.ask m.heap) := ⟨rfl, clear⟩

theorem sequel {x : Computation ε α} {next : α → Computation δ β} {otherwise : ε → Computation δ β}
    {a : α} {b : β} (hx : Finds hidden apply calls m x a)
    (hnext : Finds hidden apply calls m (next a) b) :
    Finds hidden apply calls m (x.sequel next otherwise) b := by
  refine ⟨?_, ?_⟩
  · rw [run_sequel, hx.run]
    exact hnext.run
  · rw [trail_sequel, hx.run]
    exact Clear.append.2 ⟨hx.clear, hnext.clear⟩

theorem bind {x : Computation ε α} {next : α → Computation ε β} {a : α} {b : β}
    (hx : Finds hidden apply calls m x a) (hnext : Finds hidden apply calls m (next a) b) :
    Finds hidden apply calls m (x >>= next) b := hx.sequel hnext

end Computation.Finds

namespace Heap

variable {h : Heap} {r : Nat} {key : Key}

theorem storeSpots_of_plain (plain : (h.object r).kind = .plain) : h.storeSpots r = [] := by
  rw [storeSpots, plain]

section Readings

variable {hidden : Spot → Prop} {apply : Apply} {calls : CallTrail} {m : Machine} (hm : m.heap = h)
  (plain : (h.object r).kind = .plain) {p : Property} (own : h.own? (h.object r) key = some p)
  (frame : ¬ hidden (.frame r)) (property : ¬ hidden (.property r key))

include hm frame

theorem finds_readObject :
    (readObject r).Finds hidden apply calls m (h.object r).frame := by
  subst hm
  exact .look (Clear.cons.2 ⟨frame, nofun⟩)

include plain own property

theorem finds_readOwn : (readOwn r key).Finds hidden apply calls m (some p) := by
  subst hm
  rw [← own]
  refine .look (Clear.cons.2 ⟨frame, Clear.cons.2 ⟨property, ?_⟩⟩)
  rw [storeSpots_of_plain plain]
  exact nofun

theorem finds_hasProperty : (hasProperty r key).Finds hidden apply calls m true := by
  refine .bind (.bind (.look nofun) (.give _)) ?_
  rw [hasFrom]
  refine .bind (finds_readObject hm frame) ?_
  simp only [Object.kind_frame, plain]
  exact .bind (finds_readOwn hm plain own frame property) (.give true)

variable {v : Value} (content : p.content = .data v)

include content

theorem finds_getFrom (fuel : Nat) (receiver : Value) :
    (getFrom (fuel + 1) r receiver key).Finds hidden apply calls m v := by
  rw [getFrom]
  refine .bind (finds_readObject hm frame) ?_
  simp only [Object.kind_frame, plain]
  refine .bind (finds_readOwn hm plain own frame property) ?_
  simp only [readContent, content]
  exact .give v

theorem finds_getOf : (getOf r key).Finds hidden apply calls m v :=
  .bind (.bind (.look nofun) (.give _)) (finds_getFrom hm plain own frame property content _ _)

theorem finds_getProperty : (getProperty (.object r) key).Finds hidden apply calls m v :=
  .bind (.bind (.look nofun) (.give _)) (finds_getFrom hm plain own frame property content _ _)

end Readings

namespace Rooted

variable {names : List String} {root : Nat} (rooted : h.Rooted names root)

include rooted

/-! ### Reading -/

section Reading

variable {hidden : Spot → Prop} {apply : Apply} {calls : CallTrail} {m : Machine} (hm : m.heap = h)

include hm

/-- Reading the global name of the root depends on nothing but the global variable. -/
theorem finds_root (hh : h.Grounded) (frame : ¬ hidden (.frame globalRef))
    (property : ¬ hidden (.property globalRef rootName)) :
    (readVariable [] rootName).Finds hidden apply calls m (.object root) := by
  obtain ⟨p, kept, content, -⟩ := rooted.held
  have own : h.own? (h.object globalRef) (Key.named rootName) = some p := by
    rw [h.own?_of_plain hh.global, Object.stored?_of_index?_none _ _ index?_rootName, kept]
  exact .bind (finds_hasProperty hm hh.global own frame property)
    (finds_getOf hm hh.global own frame property content)

theorem run_root (hh : h.Grounded) :
    (readVariable [] rootName).run apply m = .ok (.object root) m :=
  have found : (readVariable [] rootName).Finds (fun _ => False) apply (fun _ _ _ _ => []) m
    (.object root) := rooted.finds_root hm hh id id
  found.run

/-- Reading a namespace depends on nothing but its property of the root. -/
theorem finds_namespace {name : String} (granted : name ∈ names) (frame : ¬ hidden (.frame root))
    (property : ¬ hidden (.property root name)) :
    ∃ r : Ref, (getProperty (.object root) name).Finds hidden apply calls m (.object r) := by
  rcases rooted.own name with ⟨p, own, -, r, content, -⟩ | ⟨-, absent⟩
  · exact ⟨r, finds_getProperty hm rooted.closed.plain own frame property content⟩
  · exact absurd granted absent

end Reading

/-! ### Assignments -/

section Assignments

variable (apply : Apply) {m : Machine} (hm : m.heap = h)

include hm

/-- Nothing can be assigned to a namespace. -/
theorem set_of_mem {name : String} (granted : name ∈ names) (v : Value) :
    (setProperty (.object root) name v).run apply m =
      (throwType (PropertyFault.readOnly name).message : Script Unit).run apply m := by
  rcases rooted.own name with ⟨p, own, -, r, content, frozen, -⟩ | ⟨-, absent⟩
  · have array : (h.object root).isArray = false := Object.isArray_of_plain rooted.closed.plain
    simp only [setProperty, demand, setOn, chainLimit, setFrom, setStored, Computation.run_bind,
      Computation.run_look, Computation.run_pure, Computation.run_readObject,
      Computation.run_readOwn, Object.kind_frame, Object.isArray_frame, hm, rooted.closed.plain,
      own, content, frozen, array, Bool.false_and, Bool.false_eq_true, Bool.not_false, if_true,
      if_false]
  · exact absurd granted absent

/-- Nothing can be assigned to the root under another name, which the complaint does not tell. -/
theorem set_of_not_mem (hh : h.Grounded) {name : String} (denied : name ∉ names)
    (inherited : h.own? (h.object Family.object.prototype) (Key.named name) = none) (v : Value) :
    (setProperty (.object root) name v).run apply m =
      (throwType PropertyFault.notExtensible.message : Script Unit).run apply m := by
  rcases rooted.own name with ⟨p, -, present, -⟩ | ⟨own, -⟩
  · exact absurd present denied
  · -- The walk takes two steps: from the root to what all objects inherit from, and no further.
    obtain ⟨size, nonempty⟩ : ∃ n, h.objects.size = n + 1 :=
      Nat.exists_eq_succ_of_ne_zero (Nat.ne_of_gt (Nat.lt_of_le_of_lt (Nat.zero_le _) hh.size))
    simp only [setProperty, demand, setOn, chainLimit, setFrom, createOn, Computation.run_bind,
      Computation.run_look, Computation.run_pure, Computation.run_readObject,
      Computation.run_readOwn, Look.ask, Object.kind_frame, Object.prototype_frame,
      Object.extensible_frame, hm, nonempty, rooted.closed.plain, own, rooted.parent, hh.base,
      inherited, hh.top, rooted.closed.extensible, Bool.not_false, if_true]

end Assignments

end Rooted

end Heap

/-! ### Scripts -/

/-- Reads a namespace. -/
def namingProgram : Program where
  body := [.eval (.get (.variable rootName) Permission.model.key)]

section Scripts

variable (host : Host) {apply : Apply} {m : Machine} (hh : m.heap.Grounded) {names : List String}
  {root : Nat} (rooted : m.heap.Rooted names root)

section Naming

variable {hidden : Spot → Prop} {calls : CallTrail}

include hh rooted

/-- The script depends on nothing but the variable and the property that it names. -/
theorem finds_namingProgram (granted : Permission.model.key ∈ names)
    (global : ¬ hidden (.frame globalRef) ∧ ¬ hidden (.property globalRef rootName))
    (property : ¬ hidden (.frame root) ∧ ¬ hidden (.property root Permission.model.key)) :
    (namingProgram.run host).Finds hidden apply calls m Value.undefined := by
  have read : (readVariable [] rootName).Finds hidden apply calls m (.object root) :=
    rooted.finds_root rfl hh global.1 global.2
  obtain ⟨r, found⟩ : ∃ r : Ref, (getProperty (.object root) Permission.model.key).Finds hidden
      apply calls m (.object r) := rooted.finds_namespace rfl granted property.1 property.2
  have named : (Stmt.run host [] (.eval (.get (.variable rootName) Permission.model.key))).Finds
      hidden apply calls m () := .bind (.bind read found) (.give ())
  have valid : namingProgram.fault? = none := by decide +kernel
  unfold Program.run
  rw [valid]
  exact .bind (.give ()) (.bind (.bind named (.give ())) (.give Value.undefined))

end Naming

/-- Makes an object and forgets it. -/
def makingProgram : Program where
  body := [.eval (.object [])]

theorem run_makingProgram :
    ∃ o, (makingProgram.run host).run apply m =
      .ok .undefined { m with heap := (m.heap.allocate o).2 } := by
  have valid : makingProgram.fault? = none := by decide +kernel
  unfold Program.run
  rw [valid]
  exact ⟨_, rfl⟩

/-- A missing value is null, if there is room for that. -/
theorem run_dump_undefined {budget : Budget} (room : Json.nodeCost ≤ budget.maxBytes)
    (apply : Apply) (m : Machine) :
    (dump budget .undefined).run apply m = .ok .null { m with clock := m.clock + 1 } := by
  have fits : ¬ saturatingAdd (saturatingAdd 0 Json.nodeCost) 0 > budget.maxBytes := by
    have one : saturatingAdd (saturatingAdd 0 Json.nodeCost) 0 = Json.nodeCost := by decide
    omega
  have paid := run_charge_of_blind budget 0 apply m (p := {}) (by decide)
  have walked : (dumpAt budget (maxDepth + 1) .undefined {}).run apply m =
      .ok (.null, ⟨Json.nodeCost, 1⟩) { m with clock := m.clock + 1 } := by
    show ((charge budget 0 >>= fun _ => (pure .null : Walker Json)) {}).run apply m = _
    rw [Walker.run_bind, paid, if_neg fits]
    rfl
  rw [run_dump_walk, walked]

/-- What is left of a source that gives nothing. -/
theorem runSource_of_undefined {host : Host} (source : Source) {m n : Machine}
    (noNul : source.nulIndex? = none) (room : Json.nodeCost ≤ host.budget.maxBytes)
    (ran : (source.run host).run (callAt host host.callDepth) m = .ok .undefined n) :
    runSource host source m = (.ok .null, { n with clock := n.clock + 1 }) := by
  unfold runSource runSourceBy Source.evaluate
  rw [noNul]
  simp only [Computation.run_sequel, ran, run_dump_undefined room, Computation.run_give]

/-- A handler that throws the message of what it catches. -/
def throwingMessage : List Stmt := [.throw (.get (.variable "e") "message")]

theorem run_throwingMessage (cell r : Nat)
    (caught : m.heap.cells.getD cell .undefined = .object r)
    (direct : (m.heap.object r).isProxy = false) {p : Property} {t : Text}
    (own : m.heap.own? (m.heap.object r) "message" = some p)
    (content : p.content = .data (.string t)) :
    (runAll host [("e", cell)] throwingMessage).run apply m = .error (.thrown (.string t)) m := by
  have read : (readVariable [("e", cell)] "e").run apply m = .ok (.object r) m :=
    congrArg (fun v => EStateM.Result.ok v m) caught
  simp only [throwingMessage, runAll, Stmt.run, Expr.eval, Computation.run_bind, read,
    Heap.run_getProperty apply rfl direct own, readContent, content, Computation.run_pure, raise,
    Computation.run_throw]

/-- The text of an error of the engine goes on as what is thrown. -/
theorem run_catchThrown {body : Script Unit} {message : String}
    (short : clip maxEngineMessage message = message)
    (fails : body.run apply m = (throwType message : Script Unit).run apply m) :
    ∃ heap, (catchThrown body fun v => do
        let cell ← newCell v
        runAll host [("e", cell)] throwingMessage).run apply m =
      .error (.thrown (.ofString message)) { m with heap } := by
  -- The heap with the error on it, and the same with the variable that the handler reads.
  let k : Heap := (m.heap.allocate (errorObject .typeError (some (.unicode message)))).2
  let k' : Heap := { k with cells := k.cells.push (.object m.heap.objects.size) }
  have made : k'.object m.heap.objects.size = errorObject .typeError (some (.unicode message)) :=
    m.heap.object_allocate_self _
  have thrown : body.run apply m =
      .error (.thrown (.object m.heap.objects.size)) { m with heap := k } := by
    rw [fails]
    simp only [throwType, throwNew, short]
    rfl
  refine ⟨k', ?_⟩
  rw [catchThrown, Computation.run_sequel, thrown]
  exact run_throwingMessage host k.cells.size m.heap.objects.size (m := { m with heap := k' })
    (by simp [k']) (by rw [made]; rfl) (by rw [made]; rfl) rfl

/-- Assigns to a namespace and throws the complaint. -/
def assigningProgram : Program where
  body := [.tryCatch [.assign (.variable rootName) Permission.mutate.key .null] "e" throwingMessage]

include hh rooted in
theorem run_assigningProgram {message : String} (short : clip maxEngineMessage message = message)
    (fails : (setProperty (.object root) Permission.mutate.key .null).run apply m =
      (throwType message : Script Unit).run apply m) :
    ∃ heap, (assigningProgram.run host).run apply m =
      .error (.thrown (.ofString message)) { m with heap } := by
  have read : (readVariable [] rootName).run apply m = .ok (.object root) m :=
    rooted.run_root rfl hh
  have assigned : (runAll host [] [.assign (.variable rootName) Permission.mutate.key .null]).run
      apply m = (throwType message : Script Unit).run apply m := by
    simp only [runAll, Stmt.run, Expr.eval, Computation.run_bind, Computation.run_pure, read, fails]
    rfl
  obtain ⟨heap, caught⟩ := run_catchThrown host short assigned
  have failed : (runAll host [] assigningProgram.body).run apply m =
      .error (.thrown (.ofString message)) { m with heap } := by
    rw [assigningProgram, runAll, Computation.run_bind, Stmt.run, caught]
  have valid : assigningProgram.fault? = none := by decide +kernel
  have undeclared : assigningProgram.declared = [] := rfl
  refine ⟨heap, ?_⟩
  simp only [Program.run, valid, undeclared, declareGlobals, Computation.run_bind,
    Computation.run_pure, failed]

end Scripts

/-! ### Sessions -/

/-- A sandbox is made ready and runs a program. -/
def Program.opening (p : Program) : List Operation := [.init, .eval (.program none p) {}]

namespace Session

/-- A session with the default settings but for its permissions. -/
def withPermissions (p : Permissions) : Session :=
  ⟨{ Sandbox.ofDefaults with permissions := p }, {}⟩

theorem perform_init_withPermissions {p : Permissions}
    (startable : (withPermissions p).sandbox.Startable) :
    (withPermissions p).perform .init = (.ok none, (withPermissions p).opened) :=
  perform_init_start startable rfl

/-- The machine that its first evaluation begins on. -/
def firstMachine (p : Permissions) : Machine :=
  (withPermissions p).sandbox.machine (withPermissions p).sandbox.firstVm {}

theorem grounded_firstMachine (p : Permissions) : (firstMachine p).heap.Grounded :=
  (Heap.grounded_install : (Heap.install .builtin p).Grounded)

/-- The built-in table has a namespace for every permission. -/
theorem key_mem_builtin (gate : Permission) :
    gate.key ∈ Registry.builtin.map Namespace.name := by
  cases gate <;> decide

/-- What follows a source that gives nothing depends on nothing. -/
theorem clear_trail_of_finds {hidden : Spot → Prop} {source : Source} {m : Machine}
    (noNul : source.nulIndex? = none)
    (found : (source.run Sandbox.ofDefaults.host).Finds hidden
      (callAt Sandbox.ofDefaults.host Sandbox.ofDefaults.host.callDepth)
      (callTrail Sandbox.ofDefaults.host Sandbox.ofDefaults.host.callDepth) m Value.undefined) :
    Clear hidden (Sandbox.ofDefaults.host.trail source m) := by
  unfold Host.trail Source.evaluate
  rw [noNul]
  dsimp only
  rw [Computation.trail_sequel, found.run]
  exact Clear.append.2 ⟨found.clear, (nofun : Clear _ [])⟩

/-- On every engine, a script that reads a namespace depends on nothing of another one. -/
theorem clear_naming {p : Permissions} (valid : Registry.builtin.fault? = none)
    (granted : p.isGranted .model = true) {gate : Permission} (other : gate ≠ .model) {e : Engine}
    (r : Running e) (hr : r.session = withPermissions p) {memory : e.Memory}
    (fits : e.create r.session.sandbox.host r.session.sandbox.granted = some memory) :
    Clear (Registry.builtin.part gate).Holds
      (r.trail namingProgram.opening) := by
  obtain ⟨covered, root⟩ := Registry.global_outside Registry.builtin gate
  have outside := Registry.root_outside Registry.builtin gate
  have named : Key.named Permission.model.key ≠ Key.named gate.key := by
    cases gate <;> first | exact absurd rfl other | decide
  have listed : Permission.model.key ∈ (Registry.builtin.installed p).map Namespace.name :=
    (Registry.key_mem_installed valid).2 ⟨key_mem_builtin .model, granted⟩
  have opens : r.perform .init = _ :=
    Running.perform_init (by rw [hr]; rfl) (by rw [hr]; exact valid) fits
  simp only [Program.opening, Running.trail, opens, hr]
  refine Clear.append.2 ⟨nofun, Clear.append.2 ⟨clear_trail_of_finds rfl ?_, nofun⟩⟩
  exact finds_namingProgram _ (grounded_firstMachine p) (Heap.rooted_part valid p gate) listed
    ⟨covered, fun held => held.elim covered fun here => root here.1⟩
    ⟨outside, fun held => held.elim outside fun here => named here.2⟩

/-- The message of the fault in an answer. -/
def message? : Reply → Option String
  | .error (.script fault) => some fault.message
  | _ => none

theorem message?_perform_eval {s : Session} {vm : Vm} (hs : s.sandbox.state = .ready vm)
    {source : Source} {options : EvalOptions} {asked : Bool}
    (prepared : prepareSource s.sandbox.transpiler source options = (.ok source, asked))
    {fault : ScriptFault} {m : Machine}
    (ran : runSource s.sandbox.host source (s.sandbox.machine vm s.backend) = (.error fault, m)) :
    message? (s.perform (.eval source options)).1 = some fault.message := by
  obtain ⟨told, reply, -, -, message, -⟩ := perform_eval_of_fault hs prepared ran
  rw [reply, ← message]
  rfl

/-- What an assignment to a namespace throws comes out as the message of the fault. -/
theorem messages_of_assignment {p : Permissions}
    (startable : (withPermissions p).sandbox.Startable) {message : String}
    (short : clip maxEngineMessage message = message)
    (fails : ∀ apply, (setProperty (.object (Registry.builtin.part .mutate).root)
        Permission.mutate.key .null).run apply (firstMachine p) =
      (throwType message : Script Unit).run apply (firstMachine p))
    (told : ∀ apply heap, ∃ n, (thrownFault Sandbox.ofDefaults.host.budget (.ofString message)).run
        apply { firstMachine p with heap } = .ok { kind := .thrown, message } n) :
    ((withPermissions p).events assigningProgram.opening).map
        (fun e => message? e.2) = [none, some message] := by
  obtain ⟨heap, thrown⟩ := run_assigningProgram Sandbox.ofDefaults.host (grounded_firstMachine p)
    (Heap.rooted_part startable.valid p .mutate) short
    (fails (callAt Sandbox.ofDefaults.host Sandbox.ofDefaults.host.callDepth))
  obtain ⟨n, told⟩ := told (callAt Sandbox.ofDefaults.host Sandbox.ofDefaults.host.callDepth) heap
  have ran : runSource Sandbox.ofDefaults.host (.program none assigningProgram) (firstMachine p) =
      (.error { kind := .thrown, message }, n) := by
    change ((Source.program none assigningProgram).run _).run _ _ = _ at thrown
    rw [runSource_of_thrown rfl thrown, told]
  simp only [Program.opening, events, perform_init_withPermissions startable, List.map_cons,
    List.map_nil]
  rw [message?_perform_eval (s := (withPermissions p).opened) rfl rfl ran]
  rfl

/-- The complaint about an assignment to a namespace tells whether it is there. -/
theorem messages_assigning {p : Permissions} (startable : (withPermissions p).sandbox.Startable) :
    ((withPermissions p).events assigningProgram.opening).map
        (fun e => message? e.2) =
      [none, some (if p.isGranted .mutate then "'mutate' is read-only"
        else "object is not extensible")] := by
  have rooted := Heap.rooted_part startable.valid p .mutate
  have there : Permission.mutate.key ∈ (Registry.builtin.installed p).map Namespace.name ↔
      p.isGranted .mutate = true :=
    (Registry.key_mem_installed startable.valid).trans (and_iff_right (key_mem_builtin .mutate))
  cases granted : p.isGranted .mutate with
  | true =>
    exact messages_of_assignment startable (by decide +kernel)
      (fun apply => rooted.set_of_mem apply rfl (there.2 granted) _) fun _ _ => ⟨_, rfl⟩
  | false =>
    have absent : Permission.mutate.key ∉ (Registry.builtin.installed p).map Namespace.name :=
      fun h => by simp [there.1 h] at granted
    exact messages_of_assignment startable (by decide +kernel)
      (fun apply => rooted.set_of_not_mem apply rfl Heap.grounded_install absent
        (Heap.own?_prototype_install startable.valid p .mutate) _) fun _ _ => ⟨_, rfl⟩

end Session

end ScriptHost
