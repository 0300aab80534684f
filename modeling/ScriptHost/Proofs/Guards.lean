import ScriptHost.Proofs.Gates
import ScriptHost.Proofs.HostFailures
import ScriptHost.Proofs.Prototypes

/-!
# What guards do

A guard reads what a namespace or what all objects inherit from has, overlooks two names, and throws
an error for each other one.  For this it asks what scripts can change, so all of this is about heaps
that mind the namespace.

* `Heap.hasFrom_of_proxy`, `Heap.getFrom_of_proxy`: what a proxy gives and has;
* `Heap.run_makeError`: a new error of a class;
* `Heap.Stands.own_of_method`, `Heap.Stands.own_of_unknown`: the own properties of a namespace;
* `Namespace.answer`: what reading a name of a namespace comes to;
* `Heap.Minds.run_getProxy`, `Heap.Minds.run_hasProxy`: that is what a read of the namespace gives,
  and there is a name in it if that reads something that is there.
-/

namespace ScriptHost

namespace Heap

/-! ### Proxies -/

section Proxies

variable {h : Heap} {r : Nat} {key : Key} (apply : Apply) {m : Machine} (hm : m.heap = h)

include hm

/-- A proxy whose handler has nothing for a question leaves it to its target. -/
theorem hasFrom_of_proxy {target handler : Ref}
    (hr : (h.object r).kind = .proxy target handler false) {fuel : Nat}
    (untrapped : (getFrom fuel handler (.object handler) "has").run apply m = .ok .undefined m) :
    (hasFrom (fuel + 1) r key).run apply m = (hasFrom fuel target key).run apply m := by
  rw [hasFrom]
  simp only [Computation.run_bind, Computation.run_readObject, Object.kind_frame, hm, hr, trap?,
    Bool.false_eq_true, if_false, untrapped, Value.isNullish, if_true, Computation.run_pure]

/-- A proxy whose handler has a function for reading gives what that function gives, where the own
property of its target allows it. -/
theorem getFrom_of_proxy {target handler : Ref}
    (hr : (h.object r).kind = .proxy target handler false) {fuel : Nat} {f : Ref}
    (trapped : (getFrom fuel handler (.object handler) "get").run apply m = .ok (.object f) m)
    {receiver : Value} {result : EStateM.Result Halt Machine Value}
    (called : (call (.object f) (.object handler) [.object target, key.toValue, receiver]).run
      apply m = result)
    (allowed : ∀ v m', result = .ok v m' → ∃ kept, (ownFrom fuel target key).run apply m' =
      .ok kept m' ∧ (kept.all fun p => p.allows v) = true) :
    (getFrom (fuel + 1) r receiver key).run apply m = result := by
  rw [getFrom]
  simp only [Computation.run_bind, Computation.run_readObject, Object.kind_frame, hm, hr, trap?,
    Bool.false_eq_true, if_false, trapped, Value.isNullish, Computation.run_pure, called]
  cases result with
  | error e m' => rfl
  | ok v m' =>
    obtain ⟨kept, own, allows⟩ := allowed v m' rfl
    simp only [own, allows, if_true, Computation.run_pure]

end Proxies

/-- A method of an object is called with the object as its receiver. -/
theorem run_callMethod {apply : Apply} {m : Machine} {r : Ref} {name : String} {f : Ref}
    (args : List Value) (found : (getNamed (.object r) name).run apply m = .ok (.object f) m) :
    (callMethod (.object r) name args).run apply m =
      apply (.object f) (.plain (.object r)) args m := by
  simp only [callMethod, Computation.run_bind, found]
  rfl

end Heap

/-! ### New errors -/

namespace Heap

theorem modify_allocate (h : Heap) (o : Object) (f : Object → Object) :
    (h.allocate o).2.modify h.objects.size f = (h.allocate (f o)).2 := by
  have objects : (h.objects.push o).modify h.objects.size f = h.objects.push (f o) := by
    apply Array.ext
    · simp
    · intro i inside _
      have inside : i < h.objects.size + 1 := by simpa using inside
      rw [Array.getElem_modify, Array.getElem_push, Array.getElem_push]
      split <;> split <;> first | rfl | omega
  simp only [modify, allocate, objects]

/-- A definition gives a new error another property. -/
theorem define_allocate (h : Heap) {o : Object} (error : o.kind = .error)
    (extensible : o.extensible = true) (elements : o.elements = #[]) {key : Key}
    (absent : o.properties.lookup key = none) (v : Value) (a : Attributes) :
    (h.allocate o).2.define h.objects.size key (.ofProperty (.data v a)) =
      (h.allocate { o with properties := o.properties ++ [(key, .data v a)] }).2 := by
  have same := h.object_allocate_self o
  have own : (h.allocate o).2.own? o key = none := by
    simp only [own?, error]
    rw [o.stored?_of_no_elements _ elements, absent]
  have fault : (h.allocate o).2.definitionFault? h.objects.size key (.ofProperty (.data v a)) =
      none := by
    simp [definitionFault?, same, own, extensible, error]
  have put : o.put key (.data v a) =
      { o with properties := o.properties ++ [(key, .data v a)] } := by
    rw [Object.put_of_no_items _ _ _ (by rw [Object.hasItems, error]) elements,
      putIn_of_lookup_none absent]
  rw [← put, ← h.modify_allocate o fun o => o.put key (.data v a)]
  simp only [define, fault, same, own]
  rfl

variable {h : Heap} (apply : Apply) {m : Machine} (hm : m.heap = h)

include hm

/-- The constructor of a class makes errors of that class as long as it says so itself. -/
theorem run_makeError {c : ErrorClass} (simple : c ≠ .aggregateError) {f : Nat}
    (kind : (h.object f).kind.isSimple = true) {p : Property}
    (found : (h.object f).properties.lookup (Key.named "prototype") = some p)
    (pins : p.Pins (Family.error c).prototype) (message : Text) :
    (makeError c (.making f) [.string message]).run apply m =
      .ok (.object h.objects.size) { m with heap := (h.allocate (errorObject c message)).2 } := by
  have own : h.own? (h.object f) (Key.named "prototype") = some p := by
    rw [own?_of_isSimple _ kind,
      Object.stored?_of_index?_none _ _ (by decide : (Key.named "prototype").index? = none), found]
  have read : (getOf f (Key.named "prototype")).run apply m =
      .ok (.object (Family.error c).prototype) m := by
    rw [run_getOf apply hm (Object.isProxy_of_isSimple kind) own, readContent, pins.1]
    rfl
  -- the object comes first, then one property after the other
  let o : Object := { kind := .error, prototype := some (Family.error c).prototype }
  have made : (newInstance (.making f) (.error c) .error).run apply m =
      .ok h.objects.size { m with heap := (h.allocate o).2 } := by
    subst hm
    simp only [newInstance, prototypeFor, Computation.run_bind, read, Computation.run_pure]
    rfl
  let o₁ : Object := { o with properties := [("message", .hidden (.string message))] }
  have first : (h.allocate o).2.define h.objects.size (Key.named "message")
      (.ofProperty (.hidden (.string message))) = (h.allocate o₁).2 :=
    define_allocate h rfl rfl rfl rfl (.string message) _
  have second : (h.allocate o₁).2.define h.objects.size (Key.named "stack")
      (.ofProperty (.hidden (.ofString ""))) = (h.allocate (errorObject c message)).2 :=
    define_allocate h rfl rfl rfl rfl (.ofString "") _
  have text : (toText (.string message)).run apply { m with heap := (h.allocate o).2 } =
      .ok message { m with heap := (h.allocate o).2 } := rfl
  have given : argument [.string message] 0 = .string message := rfl
  have alone : argument [.string message] 1 = .undefined := rfl
  have defined : (Value.string message != .undefined) = true := rfl
  simp only [makeError, makeError.add, Computation.run_bind, made, if_neg simple, given, alone,
    defined, if_true, text, Computation.run_change, Change.apply, first, Computation.run_pure, second]

end Heap

/-! ### Capabilities -/

namespace Heap.Stands

variable {h : Heap} {ns : Namespace} {g : Gate} (stands : h.Stands ns g)

include stands

theorem own_eq (key : Key) :
    h.own? (h.object g.target) key = (h.object g.target).properties.lookup key := by
  rw [own?_of_plain _ stands.closed.plain, Object.stored?_of_no_elements _ _ stands.closed.elements]

/-- Under the name of a method there is the function for it. -/
theorem own_of_method {k : Text} {m : Method} (hm : m ∈ ns.methods) (name : k = .unicode m.name) :
    ∃ f : Nat, h.own? (h.object g.target) (.text k) = some (frozenProperty (.object f)) ∧
      (h.object f).kind = .function (.capability ns.name m.name) := by
  subst name
  have listed : Key.named m.name ∈ (h.object g.target).properties.map Prod.fst := by
    rw [stands.keys]
    exact List.mem_map_of_mem hm
  rw [stands.own_eq]
  cases found : (h.object g.target).properties.lookup (.text (.unicode m.name)) with
  | none =>
    obtain ⟨e, he, key⟩ := List.mem_map.1 listed
    have other := List.lookup_eq_none_iff.1 found e he
    exact absurd key.symm (bne_iff_ne.1 other)
  | some p =>
    obtain ⟨before, after, same, -⟩ := List.lookup_eq_some_iff.1 found
    have member : (Key.text (.unicode m.name), p) ∈ (h.object g.target).properties := by simp [same]
    obtain ⟨m', -, key, f, -, -, property, kind⟩ := stands.functions _ member
    have named : m.name = m'.name := Key.named_inj.1 key
    exact ⟨f, congrArg some property, by rw [kind, named]⟩

/-- So there is one function for each method. -/
theorem exists_functions : ∃ functions : String → Nat, ∀ row ∈ ns.methods,
    h.own? (h.object g.target) (Key.named row.name) =
      some (frozenProperty (.object (functions row.name))) := by
  have one (name : String) : ∃ f : Nat, ∀ row ∈ ns.methods, row.name = name →
      h.own? (h.object g.target) (Key.named name) = some (frozenProperty (.object f)) := by
    -- a name of no method may have any function
    by_cases known : ∃ row ∈ ns.methods, row.name = name
    · obtain ⟨row, hrow, rfl⟩ := known
      obtain ⟨f, own, -⟩ := stands.own_of_method hrow rfl
      exact ⟨f, fun _ _ _ => own⟩
    · exact ⟨0, fun row hrow same => absurd ⟨row, hrow, same⟩ known⟩
  obtain ⟨functions, own⟩ := Classical.skolem.1 one
  exact ⟨functions, fun row hrow => own row.name row hrow rfl⟩

/-- Under any other name there is nothing. -/
theorem own_of_unknown {k : Text} (other : ∀ m ∈ ns.methods, k ≠ .unicode m.name) :
    h.own? (h.object g.target) (.text k) = none := by
  rw [stands.own_eq, List.lookup_eq_none_iff]
  intro e he
  obtain ⟨m, hm, key, -⟩ := stands.functions e he
  rw [key]
  exact bne_iff_ne.2 fun same => other m hm (Key.text.inj same)

/-- No change of a script changes that. -/
theorem own_of_reaches {h' : Heap} (reached : h.Reaches h') (key : Key) :
    h'.own? (h'.object g.target) key = h.own? (h.object g.target) key := by
  have inside := Nat.lt_trans stands.target.2 stands.inside
  have same := reached.eq_of_sealed inside stands.closed (Nat.ne_of_gt stands.target.1)
  rw [stands.own_eq, (stands.reaches reached).own_eq, same]

/-- What is there is a function that nothing changes. -/
theorem own_frozen {key : Key} {p : Property} (own : h.own? (h.object g.target) key = some p) :
    ∃ f : Nat, p = frozenProperty (.object f) := by
  rw [stands.own_eq] at own
  obtain ⟨before, after, same, -⟩ := List.lookup_eq_some_iff.1 own
  obtain ⟨m, -, -, f, -, -, property, -⟩ := stands.functions (key, p) (by simp [same])
  exact ⟨f, property⟩

end Heap.Stands

/-! ### What a guard asks -/

/-- Calls lead from a heap to another one by changes. -/
theorem callAt_reaches (host : Host) (depth : Nat) (f : Value) (how : Invocation) (args : List Value)
    (m : Machine) : m.heap.Reaches (stateAfter (callAt host depth f how args m)).heap :=
  callAt_preserves Stepwise.reaches host (fun _ _ _ _ _ _ _ _ _ before => before)
    (fun _ _ _ before => before) depth f how args m

/-- What an object of a namespace has under a name: its own property, or one that all objects
inherit. -/
def Heap.shared? (h : Heap) (g : Gate) (k : Text) : Option Property :=
  (h.own? (h.object g.target) (.text k)).or (h.own? (h.object Family.object.prototype) (.text k))

/-- The complaint about a name that a namespace lacks. -/
def Namespace.complaint (ns : Namespace) (k : Text) : Text :=
  .unicode (rootName ++ "." ++ ns.name ++ ".") ++ k ++
    .unicode (" is not a function (available: " ++ ns.available ++ ")")

/-- Whether a namespace may lack a name without complaint. -/
def isOverlooked (k : Text) : Bool := k = .unicode "then" || k = .unicode "toJSON"

/-- What reading a name of a namespace comes to that stands for a property, or for none. -/
def Namespace.answer (ns : Namespace) (k : Text) (receiver : Value) (apply : Apply) (m : Machine) :
    Option Property → EStateM.Result Halt Machine Value
  | some p => (readContent p receiver).run apply m
  | none =>
    if isOverlooked k then .ok .undefined m
    else .error (.thrown (.object m.heap.objects.size))
      { m with heap := (m.heap.allocate (errorObject .typeError (ns.complaint k))).2 }

/-- These names are those in the set that a guard asks. -/
theorem isSome_find_passthrough (k : Text) :
    (Entries.find? #[some (.ofString "toJSON", .ofString "toJSON"),
      some (.ofString "then", .ofString "then")] (.string k)).isSome = isOverlooked k := by
  have asked (s : String) : (Value.ofString s).sameZero (.string k) = decide (k = .unicode s) := by
    rw [Bool.eq_iff_iff, decide_eq_true_iff, Value.ofString, Value.sameZero, beq_iff_eq,
      Value.string.injEq]
    · exact eq_comm
    · exact fun _ _ same => nomatch same
  rw [Entries.find?, Array.findIdx?_isSome]
  simp only [List.any_toArray, List.any_cons, List.any_nil, Option.any_some, asked, Bool.or_false]
  exact Bool.or_comm ..

/-- Where reading a name ends well, the namespace itself has nothing else under it. -/
theorem Heap.Stands.gives_of_answer {h : Heap} {ns : Namespace} {g : Gate} (stands : h.Stands ns g)
    (host : Host) (depth : Nat) {m m' : Machine} (hm : m.heap = h) {k : Text} {receiver v : Value}
    (gave : ns.answer k receiver (callAt host depth) m (h.shared? g k) = .ok v m') :
    h.Reaches m'.heap ∧ ∀ p ∈ h.own? (h.object g.target) (.text k), p.allows v = true := by
  subst hm
  rw [shared?] at gave
  cases own : m.heap.own? (m.heap.object g.target) (.text k) with
  | some p =>
    obtain ⟨f, rfl⟩ := stands.own_frozen own
    rw [own] at gave
    cases gave
    refine ⟨.refl, ?_⟩
    rintro p ⟨⟩
    exact beq_self_eq_true (Value.object f)
  | none =>
    rw [own, Option.none_or] at gave
    refine ⟨?_, by simp⟩
    cases base : m.heap.own? (m.heap.object Family.object.prototype) (.text k) with
    | some p =>
      -- an inherited getter may be a script, which can change the heap
      rw [base, Namespace.answer] at gave
      have reached := Computation.preserves Stepwise.reaches (callAt_reaches host depth)
        (readContent p receiver) m
      rw [gave] at reached
      exact reached
    | none =>
      rw [base, Namespace.answer] at gave
      split at gave
      · cases gave
        exact .refl
      · cases gave

namespace Heap.Minds

variable {h : Heap} {ns : Namespace} {g : Gate} (minds : h.Minds ns g)

include minds

theorem exists_size : ∃ n, h.objects.size = n + 2 := by
  have few : 2 ≤ globalRef := by decide
  have inside := Nat.le_trans few (Nat.le_of_lt minds.ground.size)
  exact ⟨h.objects.size - 2, (Nat.sub_add_cancel inside).symm⟩

theorem own_global {x : Fixture} (here : x.place = globalRef) :
    ∃ (f : Nat) (a : Attributes), h.own? (h.object globalRef) (Key.named x.name) =
      some (.data (.object f) a) ∧ x.Is h f := by
  obtain ⟨f, -, -, held, is⟩ := minds.gives x
  obtain ⟨a, own⟩ := HasObject.own (here ▸ held) minds.ground.global x.indexless
  exact ⟨f, a, own, is⟩

/-! ### Without calls -/

section Looks

variable (apply : Apply) {m : Machine} (hm : m.heap = h) (k : Text)

include hm

/-- What holds the capabilities gives what it has, or else what all objects inherit. -/
theorem run_getTarget (receiver : Value) :
    (getFrom (h.objects.size + 1) g.target receiver (.text k)).run apply m =
      match h.shared? g k with
      | some p => (readContent p receiver).run apply m
      | none => .ok .undefined m := by
  obtain ⟨size, some_⟩ := minds.exists_size
  rw [some_]
  exact getFrom_of_base apply hm minds.ground minds.stands.closed.plain minds.stands.parent _ _

/-- And it has the same. -/
theorem run_hasTarget {fuel : Nat} (enough : 2 ≤ fuel) :
    (hasFrom fuel g.target (.text k)).run apply m = .ok (h.shared? g k).isSome m := by
  obtain ⟨fuel, rfl⟩ := Nat.exists_eq_add_of_le' enough
  rw [hasFrom_of_base apply hm minds.ground minds.stands.closed.plain minds.stands.parent,
    shared?, Option.isSome_or]

/-- A name is in a namespace if the namespace or what all objects inherit from has it. -/
theorem run_hasProxy :
    (hasProperty g.proxy (.text k)).run apply m = .ok (h.shared? g k).isSome m := by
  obtain ⟨size, some_⟩ := minds.exists_size
  have plain : (h.object g.handler).kind = .plain := by rw [minds.handler]; rfl
  have own : h.own? (h.object g.handler) (Key.named "has") = none := by
    rw [minds.handler]
    rfl
  have parent : (h.object g.handler).prototype = some Family.object.prototype := by
    rw [minds.handler]
    rfl
  -- the handler guards nothing but reading
  have untrapped : (getFrom (size + 2) g.handler (.object g.handler) "has").run apply m =
      .ok .undefined m := by
    rw [getFrom_of_base apply hm minds.ground plain parent, own, minds.untested]
    rfl
  simp only [hasProperty, chainLimit, Computation.run_bind, Computation.run_look,
    Computation.run_pure, Look.ask, hm, some_]
  rw [hasFrom_of_proxy apply hm minds.stands.proxy untrapped]
  exact minds.run_hasTarget apply hm k (Nat.le_add_left 2 size)

end Looks

/-! ### With calls -/

section Calls

variable (host : Host) (depth : Nat) {m : Machine} (hm : m.heap = h) (k : Text)

include hm

/-- The set of overlooked names, asked by its method. -/
theorem run_overlooks :
    (callMethod (.object g.passthrough) "has" [.string k]).run (callAt host (depth + 1)) m =
      .ok (.bool (isOverlooked k)) m := by
  obtain ⟨size, some_⟩ := minds.exists_size
  obtain ⟨f, -, -, held, kind⟩ := minds.gives .sets
  obtain ⟨a, own⟩ : ∃ a, h.own? (h.object (Family.collection .set).prototype) (Key.named "has") =
      some (.data (.object f) a) := held.own minds.plain Fixture.sets.indexless
  -- the set has no such property itself, so the search goes on to what all sets inherit
  have direct : (h.object g.passthrough).isProxy = false := by rw [minds.passthrough]; rfl
  have absent : h.own? (h.object g.passthrough) (Key.named "has") = none := by
    rw [minds.passthrough]
    rfl
  have goesOn : stopsAt (h.object g.passthrough) (Key.named "has") = false := by
    rw [minds.passthrough]
    rfl
  have parent : (h.object g.passthrough).prototype = some (Family.collection .set).prototype := by
    rw [minds.passthrough]
    rfl
  have read : (getNamed (.object g.passthrough) (Key.named "has")).run (callAt host (depth + 1)) m =
      .ok (.object f) m := by
    simp only [getNamed, getSettled, chainLimit, Computation.run_bind, Computation.run_look,
      Computation.run_pure, Look.ask, hm, some_]
    rw [getFrom_of_parent _ hm direct goesOn absent parent,
      getFrom_of_own _ hm (Object.isProxy_of_plain minds.plain) own]
    rfl
  rw [run_callMethod _ read, callAt_builtin kind depth _ _ hm]
  have entries : (collectionEntries .set (.object g.passthrough)).run (callAt host depth) m =
      .ok (g.passthrough, #[some (.ofString "toJSON", .ofString "toJSON"),
        some (.ofString "then", .ofString "then")]) m := by
    simp only [collectionEntries, Computation.run_bind, Computation.run_readObject,
      Object.kind_frame, hm, minds.passthrough, passthroughObject, if_true, Computation.run_pure]
  show (CollectionMethod.run .has .set (.object g.passthrough) [.string k]).run
    (callAt host depth) m = _
  simp only [CollectionMethod.run, Computation.run_bind, entries, Computation.run_pure]
  rw [← isSome_find_passthrough]
  rfl

/-- What reads properties, asked for one of what holds the capabilities. -/
theorem run_reflects (receiver : Value) :
    (readGlobal "Reflect" >>= fun reflect =>
      callMethod reflect "get" [.object g.target, .string k, receiver]).run
        (callAt host (depth + 1)) m =
      (getFrom (h.objects.size + 1) g.target receiver (.text k)).run (callAt host depth) m := by
  obtain ⟨f, a, own, plain, get, -, held, kind⟩ := minds.own_global (x := .reflection) rfl
  have global : (readGlobal "Reflect").run (callAt host (depth + 1)) m = .ok (.object f) m :=
    run_readGlobal (Object.isProxy_of_plain minds.ground.global) own hm
  obtain ⟨b, found⟩ := held.own plain (by decide)
  have read : (getNamed (.object f) (Key.named "get")).run (callAt host (depth + 1)) m =
      .ok (.object get) m :=
    run_getProperty _ hm (Object.isProxy_of_plain plain) found
  have called : (ReflectFunction.get.run [.object g.target, .string k, receiver]).run
      (callAt host depth) m =
        (getFrom (m.heap.objects.size + 1) g.target receiver (.text k)).run (callAt host depth) m :=
    rfl
  simp only [Computation.run_bind, global]
  rw [run_callMethod _ read, callAt_builtin kind depth _ _ hm]
  exact called.trans (by rw [hm])

/-- What makes errors of types, asked for one that is thrown. -/
theorem run_refuses (message : Text) :
    (do raise (← constructNew (← readGlobal "TypeError") [.string message]) : Script Value).run
        (callAt host (depth + 1)) m =
      .error (.thrown (.object h.objects.size))
        { m with heap := (h.allocate (errorObject .typeError message)).2 } := by
  obtain ⟨f, a, own, kind, p, found, pins⟩ := minds.own_global (x := .typeErrors) rfl
  have global : (readGlobal "TypeError").run (callAt host (depth + 1)) m = .ok (.object f) m :=
    run_readGlobal (Object.isProxy_of_plain minds.ground.global) own hm
  have simple : (h.object f).kind.isSimple = true := by rw [kind]; rfl
  have made : (constructNew (.object f) [.string message]).run (callAt host (depth + 1)) m =
      .ok (.object h.objects.size)
        { m with heap := (h.allocate (errorObject .typeError message)).2 } := by
    show callValue host (.object f) (.making f) [.string message] (callAt host depth) m = _
    have makes (n : Nat) :
        constructs h n (.builtin (.construct (.error .typeError))) = true := by
      cases n <;> rfl
    rw [callValue_making host _ f kind _ hm, if_pos (makes _)]
    exact run_makeError _ hm (by decide) simple found pins message
  -- a new error has its trace already
  have traced : ((h.allocate (errorObject .typeError message)).2.modify h.objects.size
      Object.trace) = (h.allocate (errorObject .typeError message)).2 := by
    rw [modify_allocate]
    rfl
  simp only [Computation.run_bind, global, made, raise, Computation.run_change, Change.apply, traced,
    Computation.run_throw]

/-- A guard reads what there is, and complains of what is neither there nor overlooked. -/
theorem run_guardRead (receiver : Value) :
    (guardRead ns.name ns.available g.passthrough g.target (.string k) receiver).run
        (callAt host (depth + 1)) m =
      ns.answer k receiver (callAt host depth) m (h.shared? g k) := by
  have reads := minds.run_reflects host depth hm k receiver
  rw [minds.run_getTarget _ hm k] at reads
  have asked : (hasProperty g.target (.text k)).run (callAt host (depth + 1)) m =
      .ok (h.shared? g k).isSome m := by
    obtain ⟨size, some_⟩ := minds.exists_size
    simp only [hasProperty, chainLimit, Computation.run_bind, Computation.run_look,
      Computation.run_pure, Look.ask, hm]
    exact minds.run_hasTarget _ hm k (by omega)
  have overlooked := minds.run_overlooks host depth hm k
  have text : (toText (.string k)).run (callAt host (depth + 1)) m = .ok k m := rfl
  rw [guardRead]
  cases found : h.shared? g k with
  | some p =>
    rw [found] at reads asked
    simp only [Computation.run_bind, asked, Option.isSome_some, if_true, Computation.run_pure]
    exact reads
  | none =>
    rw [found] at reads asked
    rw [Namespace.answer]
    cases passes : isOverlooked k with
    | true =>
      rw [passes] at overlooked
      simp only [Computation.run_bind, asked, overlooked, Option.isSome_none, Bool.false_eq_true,
        if_false, Computation.run_pure, Value.truthy, if_true]
      exact reads
    | false =>
      rw [passes] at overlooked
      simp only [Computation.run_bind, asked, overlooked, Option.isSome_none, Bool.false_eq_true,
        if_false, Computation.run_pure, Value.truthy, text]
      rw [hm]
      exact minds.run_refuses host depth hm (ns.complaint k)

/-- A read of a namespace gives what the guard gives. -/
theorem run_getProxy :
    (getProperty (.object g.proxy) (.text k)).run (callAt host (depth + 2)) m =
      ns.answer k (.object g.proxy) (callAt host depth) m (h.shared? g k) := by
  obtain ⟨size, some_⟩ := minds.exists_size
  have direct : (h.object g.handler).isProxy = false := by rw [minds.handler]; rfl
  have own : h.own? (h.object g.handler) (Key.named "get") = some (.plain (.object g.guard)) := by
    rw [minds.handler]
    rfl
  have trapped : (getFrom (size + 2) g.handler (.object g.handler) "get").run
      (callAt host (depth + 2)) m = .ok (.object g.guard) m :=
    getFrom_of_own _ hm direct own _ _
  have called : (call (.object g.guard) (.object g.handler)
      [.object g.target, .string k, .object g.proxy]).run (callAt host (depth + 2)) m =
        (guardRead ns.name ns.available g.passthrough g.target (.string k) (.object g.proxy)).run
          (callAt host (depth + 1)) m :=
    callAt_builtin minds.stands.guard (depth + 1) _ _ hm
  rw [minds.run_guardRead host depth hm k (.object g.proxy)] at called
  have read : (getProperty (.object g.proxy) (.text k)).run (callAt host (depth + 2)) m =
      (getFrom (size + 3) g.proxy (.object g.proxy) (.text k)).run (callAt host (depth + 2)) m := by
    simp only [getProperty, getSettled, chainLimit, Computation.run_bind, Computation.run_look,
      Computation.run_pure, Look.ask, hm, some_]
  rw [read]
  -- whatever ran meanwhile, the target is as it was, so the proxy lets the value through
  refine getFrom_of_proxy _ hm minds.stands.proxy trapped called fun v m' gave => ?_
  obtain ⟨reached, own⟩ := minds.stands.gives_of_answer host depth hm gave
  refine ⟨_, ownFrom_of_direct _ rfl ?_ _, ?_⟩
  · exact Object.isProxy_of_plain (minds.stands.reaches reached).closed.plain
  · rw [minds.stands.own_of_reaches reached]
    exact (Option.all_eq_true ..).2 own

end Calls

end Heap.Minds

end ScriptHost
