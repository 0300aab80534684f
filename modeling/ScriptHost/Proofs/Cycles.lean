import ScriptHost.Proofs.CutOff
import ScriptHost.Proofs.Inert
import ScriptHost.Sandbox

/-!
# Cyclic values

Nothing keeps account of the objects that a conversion has met, so what stops it on a value that
leads back to itself is its depth alone, or its budget.

* `Scene.path_of_cycle`: paths around a cycle;
* `Walker.Thrifty`, `visits_le`: a budget bounds the visits of every walk;
* `EndsByShape`, `endsByShape`: how the conversion of a value ends, told by its graph;
* `getter_cuts_cycle`: where reading changes the graph, none of this need hold.
-/

namespace ScriptHost

namespace Scene

/-! ### Paths -/

section Paths

variable {g : Scene} {v w : Value}

theorem Path.shorter {n : Nat} (path : g.Path (n + 1) v) : g.Path n v := by
  induction n generalizing v with
  | zero => trivial
  | succ n ih =>
    obtain ⟨w, edge, path⟩ := path
    exact ⟨w, edge, ih path⟩

/-- What leads to a value from which there is a path has a path of the same length. -/
theorem Path.of_reaches {n : Nat} (reached : Relation.ReflTransGen g.Edge v w)
    (path : g.Path n w) : g.Path n v := by
  induction reached using Relation.ReflTransGen.head_induction_on with
  | refl => exact path
  | head edge _ ih => exact Path.shorter ⟨_, edge, ih⟩

/-- Around a cycle there are paths of every length. -/
theorem path_of_cycle (cycle : Relation.TransGen g.Edge w w) (n : Nat) : g.Path n w := by
  obtain ⟨u, edge, back⟩ := Relation.TransGen.head'_iff.mp cycle
  induction n with
  | zero => trivial
  | succ n ih => exact ⟨u, edge, ih.of_reaches back⟩

end Paths

end Scene

/-! ### Visits -/

/-- How many nodes were visited when a walk ended, well or not. -/
def Walker.visitedAt {α : Type} :
    EStateM.Result (ConversionError × Payment) Machine (α × Payment) → Nat
  | .ok (_, p) _ => p.visited
  | .error (_, p) _ => p.visited

/-- A payment within a budget that covers all visits. -/
def Payment.Covered (budget : Budget) (p : Payment) : Prop :=
  Json.nodeCost * p.visited ≤ p.spent ∧ p.spent ≤ budget.maxBytes

namespace Walker

variable {α β : Type}

/-- A part of a walk that pays for every visit, whatever it reads. -/
structure Thrifty (budget : Budget) (x : Walker α) : Prop where
  ok : ∀ apply m p a p' m', p.Covered budget → (x p).run apply m = .ok (a, p') m' →
    p'.Covered budget
  error : ∀ apply m p e p' m', p.Covered budget → (x p).run apply m = .error (e, p') m' →
    Json.nodeCost * p'.visited ≤ budget.maxBytes

namespace Thrifty

variable {budget : Budget}

theorem unpaid {x : Walker α} (hx : Unpaid x) : Thrifty budget x where
  ok _ _ _ _ _ _ covered ok := (hx.of_ok ok).1 ▸ covered
  error _ _ _ _ _ _ covered failed :=
    (hx.of_error failed).1 ▸ Nat.le_trans covered.1 covered.2

theorem tooDeep : Thrifty budget (fail .tooDeep : Walker α) where
  ok := by
    rintro _ _ _ _ _ _ _ ⟨⟩
  error := by
    rintro _ _ _ _ _ _ covered ⟨⟩
    exact Nat.le_trans covered.1 covered.2

theorem bind {x : Walker α} {next : α → Walker β} (first : Thrifty budget x)
    (second : ∀ a, Thrifty budget (next a)) : Thrifty budget (x >>= next) where
  ok apply m p b p' m' covered ok := by
    obtain ⟨a, p₁, m₁, start, rest⟩ := ok_bind ok
    exact (second a).ok _ _ _ _ _ _ (first.ok _ _ _ _ _ _ covered start) rest
  error apply m p e p' m' covered failed := by
    rw [run_bind] at failed
    cases h : (x p).run apply m with
    | error r m₁ =>
      rw [h] at failed
      cases failed
      exact first.error _ _ _ _ _ _ covered h
    | ok r m₁ =>
      rw [h] at failed
      exact (second _).error _ _ _ _ _ _ (first.ok _ _ _ _ _ _ covered h) failed

/-- A charge pays for its visit before it is made. -/
theorem charge (counted : budget.maxBytes < maxCount) (payload : Nat) :
    Thrifty budget (charge budget payload) where
  ok apply m p a p' m' covered ok := by
    unfold ScriptHost.charge at ok
    dsimp only at ok
    split at ok
    · cases ok
    · next room =>
      simp only [Computation.run_bind, Computation.run_tick] at ok
      split at ok
      · cases ok
      · cases ok
        simp only [Payment.Covered, saturatingAdd, Json.nodeCost] at *
        omega
  error apply m p e p' m' covered failed := by
    unfold ScriptHost.charge at failed
    dsimp only at failed
    split at failed
    · cases failed
      exact Nat.le_trans covered.1 covered.2
    · next room =>
      simp only [Computation.run_bind, Computation.run_tick] at failed
      split at failed
      · cases failed
        simp only [Payment.Covered, saturatingAdd, Json.nodeCost] at *
        omega
      · cases failed

theorem rule (counted : budget.maxBytes < maxCount) :
    Rule budget budget fun x _ => Thrifty budget x where
  unpaid := unpaid
  tooDeep := tooDeep
  charge := charge counted
  bind := bind

end Thrifty

end Walker

/-- Whatever the value, and however its parts are shared, its walk visits no more nodes than the
budget can pay for. -/
theorem visits_le {budget : Budget} (counted : budget.maxBytes < maxCount) (v : Value)
    (apply : Apply) (m : Machine) :
    Json.nodeCost * Walker.visitedAt ((dumpAt budget (maxDepth + 1) v {}).run apply m) ≤
      budget.maxBytes := by
  have thrifty := (Walker.Thrifty.rule counted).dumpAt (maxDepth + 1) v
  have start : Payment.Covered budget {} := ⟨Nat.le_refl 0, Nat.zero_le _⟩
  cases h : (dumpAt budget (maxDepth + 1) v {}).run apply m with
  | ok r m' =>
    have covered := thrifty.ok _ _ _ _ _ _ start h
    exact Nat.le_trans covered.1 covered.2
  | error r m' => exact thrifty.error _ _ _ _ _ _ start h

/-! ### Conversions -/

/-- How the conversion of a value ends, told by the graph of its parts. -/
structure EndsByShape (apply : Apply) (m : Machine) (v : Value) : Prop where
  /-- If a path of more kept edges starts at it than a document has levels, it fails under every
  budget. -/
  deep : Scene.Steady ⟨apply, m.heap⟩ (fun _ _ => True) v →
    Scene.Path ⟨apply, m.heap⟩ (maxDepth + 1) v →
      ∀ budget, ∃ e m', (dump budget v).run apply m = .error e m'
  /-- So it is if the value leads to a cycle. -/
  cyclic : Scene.Steady ⟨apply, m.heap⟩ (fun _ _ => True) v →
    ∀ w, Relation.ReflTransGen (Scene.Edge ⟨apply, m.heap⟩) v w →
      Relation.TransGen (Scene.Edge ⟨apply, m.heap⟩) w w →
        ∀ budget, ∃ e m', (dump budget v).run apply m = .error e m'
  /-- Otherwise, unless the engine complains, it gives the tree that the value unfolds to under
  every budget that covers what this takes, and is too large for every other. -/
  shallow : Scene.Steady ⟨apply, m.heap⟩ (fun _ _ => True) v →
    ¬ Scene.Path ⟨apply, m.heap⟩ (maxDepth + 1) v →
      (∀ e m', (dump .unlimited v).run apply m ≠ .error (.engine e) m') →
        ∃ j n m', Scene.Unfolds ⟨apply, m.heap⟩ (maxDepth + 1) v j ∧
          (weigh v).run apply m = .ok n m' ∧ m'.heap = m.heap ∧
            ∀ budget : Budget, budget.deadline = none →
              (min n maxCount ≤ budget.maxBytes → (dump budget v).run apply m = .ok j m') ∧
                (budget.maxBytes < min n maxCount →
                  ∃ m', (dump budget v).run apply m = .error (.tooLarge budget.maxBytes) m')
  /-- Whatever the value is, the walk ends before it has visited more than the budget pays for. -/
  visits : ∀ budget : Budget, budget.maxBytes < maxCount →
    Json.nodeCost * Walker.visitedAt ((dumpAt budget (maxDepth + 1) v {}).run apply m) ≤
      budget.maxBytes

section Conversions

variable {apply : Apply} {m m' : Machine} {v : Value}

/-- A conversion that ends well has met no path that is too long. -/
theorem ok_of_steady (steady : Scene.Steady ⟨apply, m.heap⟩ (fun _ _ => True) v) {budget : Budget}
    {j : Json} (ok : (dump budget v).run apply m = .ok j m') :
    m'.heap = m.heap ∧ ¬ Scene.Path ⟨apply, m.heap⟩ (maxDepth + 1) v ∧
      Scene.Unfolds ⟨apply, m.heap⟩ (maxDepth + 1) v j := by
  rw [run_dump_walk] at ok
  split at ok
  · next walked =>
    cases ok
    obtain ⟨later, shape⟩ := (Scene.ends_dumpAt budget _ steady).ok m {} _ _ _ rfl walked
    exact ⟨later.heap, shape⟩
  · cases ok

theorem fails_of_path (steady : Scene.Steady ⟨apply, m.heap⟩ (fun _ _ => True) v)
    (path : Scene.Path ⟨apply, m.heap⟩ (maxDepth + 1) v) (budget : Budget) :
    ∃ e m', (dump budget v).run apply m = .error e m' := by
  cases h : (dump budget v).run apply m with
  | ok j m' => exact absurd path (ok_of_steady steady h).2.1
  | error e m' => exact ⟨e, m', rfl⟩

/-- Without a path that is too long, and without a complaint of the engine, a conversion without a
budget ends well. -/
theorem ok_of_shallow (steady : Scene.Steady ⟨apply, m.heap⟩ (fun _ _ => True) v)
    (shallow : ¬ Scene.Path ⟨apply, m.heap⟩ (maxDepth + 1) v)
    (quiet : ∀ e m', (dump .unlimited v).run apply m ≠ .error (.engine e) m') :
    ∃ j m', (dump .unlimited v).run apply m = .ok j m' := by
  cases h : (dump .unlimited v).run apply m with
  | ok j m' => exact ⟨j, m', rfl⟩
  | error e m' =>
    rcases (dump_cutsOff v apply m).complains e m' h with rfl | ⟨cause, rfl⟩
    · rw [run_dump_walk] at h
      split at h
      · cases h
      · next walked =>
        cases h
        have ends := Scene.ends_dumpAt .unlimited (maxDepth + 1) steady
        exact absurd ((ends.error m {} _ _ _ rfl walked).2 rfl) shallow
    · exact absurd h (quiet cause m')

/-- How a conversion ends is told by what can be reached from its value, as long as reading that
changes nothing. -/
theorem endsByShape (apply : Apply) (m : Machine) (v : Value) : EndsByShape apply m v where
  deep := fails_of_path
  cyclic steady w reached cycle :=
    fails_of_path steady ((Scene.path_of_cycle cycle _).of_reaches reached)
  shallow steady shallow quiet := by
    obtain ⟨j, m', ok⟩ := ok_of_shallow steady shallow quiet
    obtain ⟨same, -, unfolds⟩ := ok_of_steady steady ok
    have cuts := dump_cutsOff v apply m
    obtain ⟨n, weighed, spent⟩ := cuts.takes j m' ok
    refine ⟨j, n, m', unfolds, weighed, same, fun budget timeless => ?_⟩
    refine ⟨fun room => ?_, fun small => ?_⟩
    · rw [cuts.within budget timeless (spent ▸ room), ok]
    · exact cuts.beyond budget timeless (spent ▸ small)
  visits budget counted := visits_le counted v apply m

end Conversions

/-! ### A ring and a pair -/

/-- An object that holds itself, and a list that holds another one twice. -/
def ringMachine : Machine where
  heap :=
    { objects := #[
        { kind := .plain, prototype := none, properties := [("self", .plain (.object 0))] },
        listObject [.object 2, .object 2],
        listObject []] }
  backend := {}
  logs := {}

/-- What is seen of these where calls of functions tell nothing. -/
def ringScene : Scene := ⟨fun _ _ _ m => .ok .undefined m, ringMachine.heap⟩

theorem edge_ring : ringScene.Edge (.object 0) (.object 0) := by
  have direct : (ringScene.heap.object 0).isProxy = false := rfl
  have reads : ringScene.Tells (getOf 0 "self") (.object 0) :=
    Scene.tells_of_data direct (p := .plain (.object 0)) (by decide) rfl
  exact .field rfl rfl rfl (fun m hm => Heap.run_shownKeysOf _ hm direct) (by decide) reads rfl

/-- The ring does not convert.  The pair does, under every budget that covers three visits to it and
what it holds, and under no other. -/
theorem endsByShape_ring :
    (∀ budget, ∃ e m', (dump budget (.object 0)).run ringScene.apply ringMachine = .error e m') ∧
      ∃ j n m', ringScene.Unfolds (maxDepth + 1) (.object 1) j ∧
        (weigh (.object 1)).run ringScene.apply ringMachine = .ok n m' ∧ n = 48 ∧
          (dump ⟨48, none⟩ (.object 1)).run ringScene.apply ringMachine = .ok j m' ∧
            ∃ m', (dump ⟨47, none⟩ (.object 1)).run ringScene.apply ringMachine =
              .error (.tooLarge 47) m' := by
  have keeps : ringScene.heap.keepsData [.object 0, .object 1] = true := by decide +kernel
  have ring : Scene.Steady ⟨ringScene.apply, ringMachine.heap⟩ (fun _ _ => True) (.object 0) :=
    Scene.steady_of_keepsData keeps (.head _)
  have pair : Scene.Steady ⟨ringScene.apply, ringMachine.heap⟩ (fun _ _ => True) (.object 1) :=
    Scene.steady_of_keepsData keeps (.tail _ (.head _))
  refine ⟨(endsByShape ringScene.apply ringMachine (.object 0)).cyclic ring _ .refl
    (.single edge_ring), ?_⟩
  have weighed : valueAfter? ((weigh (.object 1)).run ringScene.apply ringMachine) = some 48 := by
    decide +kernel
  have converts : (valueAfter? ((dump .unlimited (.object 1)).run ringScene.apply
      ringMachine)).isSome = true := by decide +kernel
  obtain ⟨document, given⟩ := Option.isSome_iff_exists.mp converts
  obtain ⟨m₁, ok⟩ := ok_of_valueAfter? given
  have quiet : ∀ e m', (dump .unlimited (.object 1)).run ringScene.apply ringMachine ≠
      .error (.engine e) m' := by
    intro e m' h
    rw [ok] at h
    cases h
  have shallow : ¬ ringScene.Path (maxDepth + 1) (.object 1) := (ok_of_steady pair ok).2.1
  obtain ⟨j, n, m', unfolds, takes, -, under⟩ :=
    (endsByShape ringScene.apply ringMachine (.object 1)).shallow pair shallow quiet
  rw [takes] at weighed
  obtain rfl : n = 48 := Option.some.inj weighed
  exact ⟨j, 48, m', unfolds, takes, rfl, (under ⟨48, none⟩ rfl).1 (Nat.min_le_left ..),
    (under ⟨47, none⟩ rfl).2 (by decide)⟩

/-! ### Getters -/

/-- An object that holds itself, under a name that comes after a getter: this removes what stands
under that name. -/
def cutMachine : Machine where
  heap :=
    { objects := #[
        { kind := .plain, prototype := none
          properties := [("cut", ⟨.accessor (.object 1) .undefined, .ordinary⟩),
            ("self", .plain (.object 0))] },
        functionObject (.bound 2 .undefined [.object 0, .ofString "self"]) (.unicode "cut") 0,
        functionObject (.builtin (.reflect .deleteProperty)) (.unicode "deleteProperty") 2] }
  backend := {}
  logs := {}

/-- What scripts of a session see of it. -/
def cutScene : Scene :=
  ⟨callAt Sandbox.ofDefaults.host Sandbox.ofDefaults.host.callDepth, cutMachine.heap⟩

/-- The document has one field, which is true. -/
def Json.isFlag (name : String) : Json → Bool
  | .obj [(key, .bool true)] => key = name
  | _ => false

theorem Json.eq_of_isFlag {name : String} {j : Json} (flag : j.isFlag name = true) :
    j = .obj [(name, .bool true)] := by
  unfold isFlag at flag
  split at flag
  · rw [decide_eq_true_eq] at flag
    rw [flag]
  · cases flag

/-- The object stands on a cycle of kept edges, and converts nevertheless: when the walk comes to
the edge, it is gone. -/
theorem getter_cuts_cycle :
    Relation.TransGen cutScene.Edge (.object 0) (.object 0) ∧
      ∃ m', (dump .default (.object 0)).run cutScene.apply cutMachine =
        .ok (.obj [("cut", .bool true)]) m' := by
  constructor
  · have direct : (cutScene.heap.object 0).isProxy = false := rfl
    have reads : cutScene.Tells (getOf 0 "self") (.object 0) :=
      Scene.tells_of_data direct (p := .plain (.object 0)) (by decide) rfl
    exact .single (.field rfl rfl rfl (fun m hm => Heap.run_shownKeysOf _ hm direct) (by decide)
      reads rfl)
  · have converts : (valueAfter? ((dump .default (.object 0)).run cutScene.apply
        cutMachine)).any (Json.isFlag "cut") = true := by decide +kernel
    obtain ⟨j, given, flag⟩ := (Option.any_eq_true ..).mp converts
    rw [← Json.eq_of_isFlag flag]
    exact ok_of_valueAfter? given

end ScriptHost
