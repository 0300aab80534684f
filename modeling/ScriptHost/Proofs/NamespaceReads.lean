import ScriptHost.Proofs.Confinement
import ScriptHost.Proofs.Guards

/-!
# What namespaces answer

A namespace answers reads by one rule, from the first evaluation of a session to the last, as long as
scripts leave alone what the guard of a namespace asks: a guard looks up at each read how sets are
asked, how properties are read and how errors are made.

* `Namespace.exists_available`: what a complaint lists;
* `Session.reaches_after`: the heaps of a session are reached from its first one;
* `Heap.AnswersByRule`: the rule, on a heap;
* `Session.answersByRule`: it holds on the heaps of a session that leave those objects alone.
-/

namespace ScriptHost

/-! ### Names in their order -/

namespace Units

variable {x y : UInt16} {a b c : List UInt16}

theorem lt_or_eq_or_lt (x y : UInt16) : x < y ∨ x = y ∨ y < x := by
  rw [UInt16.lt_iff_toNat_lt, UInt16.lt_iff_toNat_lt, ← UInt16.toNat_inj]
  exact Nat.lt_trichotomy ..

theorem le_cons_iff : le (x :: a) (y :: b) = true ↔ x < y ∨ x = y ∧ le a b = true := by
  rw [le]
  rcases lt_or_eq_or_lt x y with less | rfl | more
  · simp [less]
  · simp [UInt16.lt_irrefl]
  · simp [more, UInt16.lt_asymm more, (UInt16.ne_of_lt more).symm]

theorem le_total (a b : List UInt16) : le a b = true ∨ le b a = true := by
  induction a generalizing b with
  | nil => exact .inl rfl
  | cons x a ih =>
    cases b with
    | nil => exact .inr rfl
    | cons y b =>
      rw [le_cons_iff, le_cons_iff]
      rcases lt_or_eq_or_lt x y with less | rfl | more
      · exact .inl (.inl less)
      · exact (ih b).imp (fun le => .inr ⟨rfl, le⟩) fun le => .inr ⟨rfl, le⟩
      · exact .inr (.inl more)

theorem le_trans (first : le a b = true) (second : le b c = true) : le a c = true := by
  induction a generalizing b c with
  | nil => rfl
  | cons x a ih =>
    cases b with
    | nil => cases first
    | cons y b =>
      cases c with
      | nil => cases second
      | cons z c =>
        rw [le_cons_iff] at first second ⊢
        rcases first with less | ⟨rfl, first⟩
        · rcases second with less' | ⟨rfl, -⟩
          · exact .inl (UInt16.lt_trans less less')
          · exact .inl less
        · exact second.imp_right fun ⟨same, second⟩ => ⟨same, ih first second⟩

end Units

/-- What a complaint lists are the names of all methods, in the order of their units. -/
theorem Namespace.exists_available (ns : Namespace) :
    ∃ names : List String, names.Perm ns.methodNames ∧
      names.Pairwise (fun a b => Units.le (Units.ofString a) (Units.ofString b) = true) ∧
      ns.available = ", ".intercalate names := by
  let ranked := ns.methodNames.map fun n => (Units.ofString n, n)
  let sorted := ranked.mergeSort fun a b => Units.le a.1 b.1
  have perm : sorted.Perm ranked := List.mergeSort_perm ..
  have trans (a b c : List UInt16 × String) :
      Units.le a.1 b.1 = true → Units.le b.1 c.1 = true → Units.le a.1 c.1 = true :=
    Units.le_trans
  have total (a b : List UInt16 × String) : (Units.le a.1 b.1 || Units.le b.1 a.1) = true := by
    rw [Bool.or_eq_true]
    exact Units.le_total a.1 b.1
  have ordered : sorted.Pairwise fun a b => Units.le a.1 b.1 = true :=
    List.pairwise_mergeSort trans total ranked
  have spelled : ∀ e ∈ sorted, e.1 = Units.ofString e.2 := by
    intro e he
    obtain ⟨n, -, rfl⟩ := List.mem_map.1 (perm.mem_iff.1 he)
    rfl
  refine ⟨sorted.map Prod.snd, ?_, ?_, rfl⟩
  · have names : ranked.map Prod.snd = ns.methodNames := by
      rw [List.map_map]
      exact List.map_id _
    exact names ▸ perm.map Prod.snd
  · rw [List.pairwise_map]
    refine ordered.imp_of_mem fun ha hb le => ?_
    rwa [← spelled _ ha, ← spelled _ hb]

/-! ### Heaps of sessions -/

namespace Session

variable {start s : Session}

/-- The machine that an operation leaves is the one before it, a new one, or that of a run. -/
theorem Step.vm_cases {op : Operation} {reply : Reply} {t : Session} (step : s.Step op reply t)
    {vm : Vm} (hvm : vm ∈ t.sandbox.state.vm?) :
    vm ∈ s.sandbox.state.vm? ∨ vm = s.sandbox.firstVm ∨
      ∃ before ∈ s.sandbox.state.vm?, ∃ source, vm.heap =
        (runSource s.sandbox.host source (s.sandbox.machine before s.backend)).2.heap := by
  cases step with
  | misused | again | failed | unprepared => exact .inl hvm
  | started => exact .inr (.inl (Option.some.inj hvm).symm)
  | @ran before _ plain _ _ ready =>
    dsimp only [Sandbox.evalReady] at hvm
    rw [Sandbox.vm?_conclude] at hvm
    cases hvm
    exact .inr (.inr ⟨before, ready ▸ rfl, plain, rfl⟩)
  | disposed => cases hvm

/-- What every operation keeps of a session that began with the given one: its heaps go on by changes
of scripts from the first one. -/
structure Evolves (start s : Session) : Prop where
  settings : start.sandbox.Like s.sandbox
  heap : ∀ vm ∈ s.sandbox.state.vm?, start.sandbox.firstVm.heap.Reaches vm.heap

theorem evolves_perform (op : Operation) (hs : start.Evolves s) :
    start.Evolves (s.perform op).2 := by
  refine ⟨hs.settings.trans (s.perform_like op), fun vm hvm => ?_⟩
  rcases (s.step op).vm_cases hvm with same | rfl | ⟨before, hbefore, source, ran⟩
  · exact hs.heap vm same
  · rw [hs.settings.firstVm]
    exact .refl
  · rw [ran]
    exact (hs.heap before hbefore).trans (runSource_preserves Stepwise.reaches s.sandbox.host
      (callAt_reaches s.sandbox.host _) source (s.sandbox.machine before s.backend))

/-- The heaps of a session are reached from the one that it starts with, after every row of
operations. -/
theorem reaches_after (fresh : start.sandbox.state = .uninitialized) (ops : List Operation) {vm : Vm}
    (hvm : vm ∈ (start.after ops).sandbox.state.vm?) :
    start.sandbox.firstVm.heap.Reaches vm.heap :=
  have begins : start.Evolves start := ⟨.refl, fun vm hvm => by rw [fresh] at hvm; cases hvm⟩
  (after_induction (fun _ op => evolves_perform op) ops begins).heap vm hvm

end Session

/-! ### The rule -/

/-- Whether a text is the name of a method. -/
def Namespace.Has (ns : Namespace) (k : Text) : Prop := ∃ row ∈ ns.methods, k = .unicode row.name

/-- How a namespace answers that lies at a place, with the given functions for its methods.  A read
needs room for two calls, one within the other. -/
structure Heap.AnswersByRule (h : Heap) (host : Host) (ns : Namespace) (place : Nat)
    (functions : String → Nat) : Prop where
  /-- Scripts find the namespace under its name, in the root. -/
  found : ∀ (apply : Apply) (m : Machine), m.heap = h →
    (((Expr.variable rootName).get ns.name).eval host []).run apply m = .ok (.object place) m
  /-- The name of a method stands for the function that runs it. -/
  method : ∀ row ∈ ns.methods,
    (h.object (functions row.name)).kind = .function (.capability ns.name row.name) ∧
      ∀ depth m, m.heap = h →
        (getProperty (.object place) (Key.named row.name)).run (callAt host (depth + 2)) m =
          .ok (.object (functions row.name)) m
  /-- Any other name stands for what all objects inherit under it. -/
  inherited : ∀ k p, ¬ ns.Has k → h.own? (h.object Family.object.prototype) (.text k) = some p →
    ∀ depth m, m.heap = h →
      (getProperty (.object place) (.text k)).run (callAt host (depth + 2)) m =
        (readContent p (.object place)).run (callAt host depth) m
  /-- Two names stand for nothing if they stand for nothing else. -/
  overlooked : ∀ k, ¬ ns.Has k → h.own? (h.object Family.object.prototype) (.text k) = none →
    k = .unicode "then" ∨ k = .unicode "toJSON" → ∀ depth m, m.heap = h →
      (getProperty (.object place) (.text k)).run (callAt host (depth + 2)) m = .ok .undefined m
  /-- All others are complained of, with a new error that comes of it and nothing else. -/
  unknown : ∀ k, ¬ ns.Has k → h.own? (h.object Family.object.prototype) (.text k) = none →
    k ≠ .unicode "then" → k ≠ .unicode "toJSON" → ∀ depth m, m.heap = h →
      (getProperty (.object place) (.text k)).run (callAt host (depth + 2)) m =
        .error (.thrown (.object h.objects.size))
          { m with heap := (h.allocate (errorObject .typeError (ns.complaint k))).2 }
  /-- The complaint names the namespace and the name, and lists the methods in the order of their
  units. -/
  complaint : ∃ names : List String, names.Perm ns.methodNames ∧
    names.Pairwise (fun a b => Units.le (Units.ofString a) (Units.ofString b) = true) ∧
    ∀ k, ns.complaint k = .unicode ("bim." ++ ns.name ++ ".") ++ k ++
      .unicode (" is not a function (available: " ++ ", ".intercalate names ++ ")")
  /-- There is a name in the namespace if it stands for a method or is inherited. -/
  contains : ∀ k, ∃ answer, (answer = true ↔
      ns.Has k ∨ (h.own? (h.object Family.object.prototype) (.text k)).isSome) ∧
    ∀ (apply : Apply) (m : Machine), m.heap = h →
      (hasProperty place (.text k)).run apply m = .ok answer m

namespace Heap

variable {h h' : Heap} {ns : Namespace} {g : Gate}

theorem Stands.shared?_of_unknown (stands : h.Stands ns g) {k : Text} (other : ¬ ns.Has k) :
    h.shared? g k = h.own? (h.object Family.object.prototype) (.text k) := by
  rw [shared?, stands.own_of_unknown fun row hrow name => other ⟨row, hrow, name⟩, Option.none_or]

/-- What all objects inherit decides about names of no method. -/
theorem Minds.run_getProxy_of_unknown (minds : h.Minds ns g) {k : Text} (other : ¬ ns.Has k)
    (host : Host) (depth : Nat) {m : Machine} (hm : m.heap = h) :
    (getProperty (.object g.proxy) (.text k)).run (callAt host (depth + 2)) m =
      ns.answer k (.object g.proxy) (callAt host depth) m
        (h.own? (h.object Family.object.prototype) (.text k)) := by
  rw [minds.run_getProxy host depth hm k, minds.stands.shared?_of_unknown other]

/-- A heap that minds a namespace answers so. -/
theorem Minds.answers (minds : h.Minds ns g) {names : List String} {root : Nat}
    (exposes : h.Exposes names root)
    (found : ∀ (apply : Apply) (m : Machine), m.heap = h →
      (getProperty (.object root) (Key.named ns.name)).run apply m = .ok (.object g.proxy) m)
    {functions : String → Nat}
    (own : ∀ row ∈ ns.methods, h.own? (h.object g.target) (Key.named row.name) =
      some (frozenProperty (.object (functions row.name)))) (host : Host) :
    h.AnswersByRule host ns g.proxy functions where
  found apply m hm := by
    have root : ((Expr.variable rootName).eval host []).run apply m = .ok (.object root) m := by
      rw [Expr.eval]
      exact exposes.held apply m hm
    rw [Expr.eval]
    simp only [Computation.run_bind, root]
    exact found apply m hm
  method row hrow := by
    constructor
    · obtain ⟨f, there, kind⟩ := minds.stands.own_of_method hrow rfl
      have same := there.symm.trans (own row hrow)
      simp only [frozenProperty, Property.data, Option.some.injEq, Property.mk.injEq,
        Content.data.injEq, Value.object.injEq, and_true] at same
      exact same ▸ kind
    · intro depth m hm
      have shared : h.shared? g (.unicode row.name) =
          some (frozenProperty (.object (functions row.name))) := by
        rw [shared?]
        exact congrArg (Option.or · _) (own row hrow)
      refine (minds.run_getProxy host depth hm (.unicode row.name)).trans ?_
      rw [shared]
      rfl
  inherited k p other base depth m hm := by
    rw [minds.run_getProxy_of_unknown other host depth hm, base, Namespace.answer]
  overlooked k other base passes depth m hm := by
    have passes : isOverlooked k = true := by
      simpa [isOverlooked] using passes
    rw [minds.run_getProxy_of_unknown other host depth hm, base, Namespace.answer, if_pos passes]
  unknown k other base notThen notDocument depth m hm := by
    have complained : isOverlooked k = false := by
      simp [isOverlooked, notThen, notDocument]
    rw [minds.run_getProxy_of_unknown other host depth hm, base, Namespace.answer,
      if_neg (Bool.not_eq_true _ ▸ complained), hm]
  complaint := by
    obtain ⟨names, perm, ordered, spelled⟩ := ns.exists_available
    exact ⟨names, perm, ordered, fun k => by rw [← spelled]; rfl⟩
  contains k := by
    refine ⟨(h.shared? g k).isSome, ?_, fun apply m hm => minds.run_hasProxy apply hm k⟩
    by_cases has : ns.Has k
    · obtain ⟨row, hrow, name⟩ := has
      obtain ⟨f, there, -⟩ := minds.stands.own_of_method hrow name
      rw [shared?, there]
      exact ⟨fun _ => .inl ⟨row, hrow, name⟩, fun _ => rfl⟩
    · rw [minds.stands.shared?_of_unknown has]
      exact ⟨.inr, fun there => there.resolve_left has⟩

/-- A new symbol changes no object. -/
theorem leavesAlone_newSymbol (h : Heap) : h.LeavesAlone (Change.newSymbol.apply h) :=
  ⟨fun _ _ _ => rfl, fun _ _ => rfl⟩

theorem reaches_newSymbol (h : Heap) : h.Reaches (Change.newSymbol.apply h) :=
  .step .refl .newSymbol

end Heap

namespace Session

/-- Each granted namespace of a session answers by one rule, with the same functions at all times:
after every row of operations, and in the course of the next evaluation, on each heap on which the
properties that guards ask for, and the objects of the namespaces that scripts can get hold of, are
as they were when the session started. -/
theorem answersByRule (start : Session) (fresh : start.sandbox.state = .uninitialized)
    (valid : start.sandbox.registry.fault? = none) {ns : Namespace}
    (hns : ns ∈ start.sandbox.granted) (methods : ∀ row ∈ ns.methods, row.name ≠ "__proto__") :
    ∃ (place : Nat) (functions : String → Nat), ∀ ops,
      ∀ vm ∈ (start.after ops).sandbox.state.vm?, ∀ h, vm.heap.Reaches h →
        start.sandbox.firstVm.heap.LeavesAlone h →
        h.AnswersByRule (start.after ops).sandbox.host ns place functions := by
  obtain ⟨g, found, minds⟩ := Heap.minds_install valid hns methods
  have rooted := Heap.rooted_part valid start.sandbox.permissions ns.permission
  -- place and functions are those of the first heap, whatever comes later
  obtain ⟨functions, own⟩ := minds.stands.exists_functions
  refine ⟨g.proxy, functions, fun ops vm hvm h later alone => ?_⟩
  have reached := (reaches_after fresh ops hvm).trans later
  have minds' := minds.reaches reached alone
  have rooted' := rooted.reaches minds.ground reached
  have indexless : ∀ n ∈ start.sandbox.granted.map Namespace.name, (Key.named n).index? = none := by
    intro n hn
    obtain ⟨ns, hns, rfl⟩ := List.mem_map.1 hn
    exact (named_of_valid valid hns).1
  refine minds'.answers (rooted'.exposes minds'.ground indexless) ?_ ?_ _
  · -- the root is sealed, so the name of the namespace stands for the same place
    intro apply m hm
    have same := reached.eq_of_sealed rooted.inside rooted.closed rooted.elsewhere
    have own : h.own? (h.object (start.sandbox.registry.part ns.permission).root)
        (Key.named ns.name) = some (frozenProperty (.object g.proxy)) := by
      rw [h.own?_of_plain rooted'.closed.plain,
        Object.stored?_of_no_elements _ _ rooted'.closed.elements, same]
      exact found
    exact Heap.run_getProperty apply hm (Object.isProxy_of_plain rooted'.closed.plain) own
  · intro row hrow
    rw [minds.stands.own_of_reaches reached]
    exact own row hrow

/-- A session with the default settings, read in the course of its first evaluation, when a script
has made a symbol. -/
theorem answersByRule_ofDefaults :
    Sandbox.ofDefaults.state = .uninitialized ∧ Sandbox.ofDefaults.registry.fault? = none ∧
      Registry.viewerNamespace ∈ Sandbox.ofDefaults.granted ∧
      (∀ row ∈ Registry.viewerNamespace.methods, row.name ≠ "__proto__") ∧
      ∃ (place : Nat) (functions : String → Nat) (h : Heap),
        Sandbox.ofDefaults.firstVm ∈
          ((⟨.ofDefaults, {}⟩ : Session).after [.init]).sandbox.state.vm? ∧
        Sandbox.ofDefaults.firstVm.heap.Reaches h ∧ Sandbox.ofDefaults.firstVm.heap.LeavesAlone h ∧
        h.AnswersByRule ((⟨.ofDefaults, {}⟩ : Session).after [.init]).sandbox.host
          Registry.viewerNamespace place functions := by
  have startable : Sandbox.ofDefaults.Startable := ⟨by decide +kernel, by decide +kernel⟩
  have granted : Registry.viewerNamespace ∈ Sandbox.ofDefaults.granted :=
    Registry.mem_installed.2 ⟨.tail _ (.tail _ (.head _)), by decide +kernel⟩
  have methods : ∀ row ∈ Registry.viewerNamespace.methods, row.name ≠ "__proto__" := by
    decide +kernel
  have ready : ((⟨.ofDefaults, {}⟩ : Session).after [.init]).sandbox.state =
      .ready Sandbox.ofDefaults.firstVm := by
    rw [after_cons, perform_init_start startable rfl]
    rfl
  have there : Sandbox.ofDefaults.firstVm ∈
      ((⟨.ofDefaults, {}⟩ : Session).after [.init]).sandbox.state.vm? := by
    rw [ready]
    rfl
  obtain ⟨place, functions, rule⟩ :=
    answersByRule ⟨.ofDefaults, {}⟩ rfl startable.valid granted methods
  have reached := Heap.reaches_newSymbol Sandbox.ofDefaults.firstVm.heap
  have alone := Heap.leavesAlone_newSymbol Sandbox.ofDefaults.firstVm.heap
  exact ⟨rfl, startable.valid, granted, methods, place, functions, _, there, reached, alone,
    rule [.init] _ there _ reached alone⟩

end Session

end ScriptHost
