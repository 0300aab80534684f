import ScriptHost.Proofs.Depicts
import ScriptHost.Proofs.Dispatch
import ScriptHost.Proofs.Routes

/-!
# The two ways to name an entity

A script names an entity by a model and a number, as two arguments of `query.entity` or as the
fields of an object in a list of references.  Each way has its own check of the number.

* `expressIdOf?_toDocument`: the check on documents is the one on numbers;
* `run_convertArguments_named`, `run_convertArguments_pair`: how the two ways read it;
* `AsksEntity`, `RefusesEntity`, `ReadsRefs`: what can come of them;
* `Agree`, `agree`: they accept the same numbers, if there is room for the list;
* `small_budget_parts_ways`: they need not if there is none.
-/

namespace ScriptHost

/-! ### Numbers -/

theorem Double.toInt?_of_not_finite {d : Double} (infinite : d.isFinite = false) :
    d.toInt? = none := by
  unfold Double.isFinite at infinite
  unfold Double.toInt?
  cases h : d.decode with
  | finite neg m e =>
    rw [h] at infinite
    cases infinite
  | infinite neg => rfl
  | nan => rfl

/-- A number names the same entity as its document, which is whole, a double or null. -/
theorem expressIdOf?_toDocument (d : Double) :
    EntityRef.expressIdOf? d.toDocument = d.expressId? := by
  unfold Double.toDocument
  cases safe : d.safeInt? with
  | some n =>
    have whole : d.toInt? = some n := (Option.filter_eq_some_iff.1 safe).1
    simp only [EntityRef.expressIdOf?, Double.expressId?, whole, Option.bind_some]
  | none =>
    by_cases finite : d.isFinite = true
    · simp only [finite, if_true, EntityRef.expressIdOf?]
    · -- what is not finite is null, and no integer
      have none_ : d.toInt? = none := Double.toInt?_of_not_finite (Bool.not_eq_true _ ▸ finite)
      simp only [finite, if_false, EntityRef.expressIdOf?, Double.expressId?, none_, Option.bind_none,
        Bool.false_eq_true]

/-! ### The two ways -/

/-- The row of `query.entity`. -/
def entityRow : Method := Registry.queryNamespace.methods[2]

/-- The document of an object that names an entity, in a list. -/
def namedDocument (name : String) (d : Double) : Json :=
  .arr [.obj [("expressId", d.toDocument), ("modelId", .str name)]]

/-- At a place there is a list of one object, which has a model and a number. -/
structure Heap.ListsEntity (h : Heap) (list : Nat) (id : Text) (d : Double) : Prop where
  inside : list < h.objects.size
  named : ∃ r : Nat, r < h.objects.size ∧ h.object list = listObject [.object r] ∧
    (h.object r).Lists [("modelId", .string id), ("expressId", .number d)]

section Ways

variable {id : Text} {name : String} {d : Double} {list : Nat} {m : Machine} {budget : Budget}
  (apply : Apply)

theorem Heap.ListsEntity.depicts {h : Heap} (lists : h.ListsEntity list id d)
    (spelled : id.toUnicode = .ok name) :
    h.Depicts 0 (.object list) (namedDocument name d) := by
  obtain ⟨r, inside, items, fields⟩ := lists.named
  have order : Json.keysIncreasing [("expressId", d.toDocument), ("modelId", .str name)] = true :=
    Json.keysIncreasing_iff.2 (List.pairwise_pair.2 (show "expressId" < "modelId" by decide))
  have number : documentKey "expressId" = "expressId" := by decide
  have model : documentKey "modelId" = "modelId" := by decide
  have item : h.Depicts 0 (.object r)
      (.obj [("expressId", d.toDocument), ("modelId", .str name)]) :=
    @Heap.Depicts.obj h 0 r _
      [("expressId", .number d, d.toDocument), ("modelId", .string id, .str name)]
      (Nat.zero_le _) inside fields (.swap ..) order
      (List.forall_mem_cons.2 ⟨number, List.forall_mem_singleton.2 model⟩)
      (List.forall_mem_cons.2
        ⟨.number d, List.forall_mem_singleton.2 (.string id name spelled)⟩)
  exact @Heap.Depicts.arr h 0 list [(.object r, _)] (Nat.zero_le _) lists.inside items
    (show 1 ≤ maxLength by decide) (List.forall_mem_singleton.2 item)

theorem walk_namedDocument (name : String) (d : Double) :
    (namedDocument name d).walkCost = 128 + name.utf8ByteSize ∧
      (namedDocument name d).walkVisits = 7 := by
  obtain ⟨visits, cost⟩ := walk_toDocument d
  have number : "expressId".utf8ByteSize = 9 := by decide
  have model : "modelId".utf8ByteSize = 7 := by decide
  have node : Json.nodeCost = 16 := rfl
  constructor
  · simp only [namedDocument, Json.walkCost, Json.itemsWalkCost, Json.fieldsWalkCost, cost, number,
      model, node]
    omega
  · simp only [namedDocument, Json.walkVisits, Json.itemsWalkVisits, Json.fieldsWalkVisits, visits]

theorem within_namedDocument (name : String) (d : Double) :
    (namedDocument name d).Within (maxDepth + 1) := by
  refine Json.within_arr.2 (List.forall_mem_singleton.2 (Json.within_obj.2 ?_))
  refine List.forall_mem_cons.2 ⟨within_toDocument d _, List.forall_mem_singleton.2 ?_⟩
  exact Json.within_leaf (by rintro n k ⟨⟩; rfl) _

/-- The references in such a list: the one that the number makes, if it can be one. -/
theorem referencesOf_namedDocument (name : String) (d : Double) :
    referencesOf (namedDocument name d) = (d.expressId?.map fun k => ⟨name, k⟩).toList := by
  have bare : EntityRef.ofBare? (.obj [("expressId", d.toDocument), ("modelId", .str name)]) =
      d.expressId?.map fun k => ⟨name, k⟩ := by
    have model : (Json.obj [("expressId", d.toDocument), ("modelId", .str name)]).field? "modelId" =
        some (.str name) := rfl
    have number : (Json.obj [("expressId", d.toDocument), ("modelId", .str name)]).field?
        "expressId" = some d.toDocument := rfl
    rw [← expressIdOf?_toDocument]
    simp only [EntityRef.ofBare?, model, number, Json.asString?, Option.bind_eq_bind,
      Option.bind_some]
    cases EntityRef.expressIdOf? d.toDocument <;> rfl
  have unwrapped : EntityRef.ofJson? (.obj [("expressId", d.toDocument), ("modelId", .str name)]) =
      d.expressId?.map fun k => ⟨name, k⟩ := by
    rw [← bare]
    rfl
  simp only [referencesOf, namedDocument, List.filterMap_cons, List.filterMap_nil, unwrapped]
  cases d.expressId? <;> rfl

/-- The list of references that a script gives so.  Its conversion looks at no clock. -/
theorem run_convertArguments_named (budget : Budget) (lists : m.heap.ListsEntity list id d)
    (spelled : id.toUnicode = .ok name) :
    (128 + name.utf8ByteSize ≤ budget.maxBytes →
      ∃ clock, (convertArguments budget [.entityRefList] [.object list]).run apply m =
        .ok [.refs (d.expressId?.map fun k => ⟨name, k⟩).toList] { m with clock }) ∧
    (budget.maxBytes < 128 + name.utf8ByteSize → budget.maxBytes < maxCount →
      ∃ m', (convertArguments budget [.entityRefList] [.object list]).run apply m =
        .error (.tooLarge budget.maxBytes) m') := by
  have converted := converted_of_depicts (lists.depicts spelled) (within_namedDocument name d) budget
    apply
  obtain ⟨cost, visits⟩ := walk_namedDocument name d
  simp only [convertArguments, convertArgument, List.head?_cons, Computation.run_bind]
  generalize (dump budget (.object list)).run apply m = r at converted
  cases converted with
  | given clock room =>
    rw [cost] at room
    refine ⟨fun _ => ⟨clock, ?_⟩, fun beyond counted => by omega⟩
    rw [← referencesOf_namedDocument]
    rfl
  | tooLarge beyond m' =>
    rw [cost] at beyond
    exact ⟨fun room => by omega, fun _ _ => ⟨m', rfl⟩⟩
  | late limited looked m' =>
    rw [visits] at looked
    exact absurd looked (by decide)

/-- The two arguments of `query.entity`. -/
theorem run_convertArguments_pair (spelled : id.toUnicode = .ok name) :
    (convertArguments budget entityRow.args [.string id, .number d]).run apply m =
      .ok [.text (some name), .number (some d)] m := by
  have text : (convertText (.string id)).run apply m = .ok name m := by
    have unicode : (Conversion.unicode id).run apply m = .ok name m := by
      rw [Conversion.unicode, spelled]
      rfl
    exact unicode
  have first : (convertArgument budget .string [.string id, .number d]).run apply m =
      .ok (.text (some name)) m := by
    simp only [convertArgument, List.head?_cons, Option.filter_some, Value.isNullish, Bool.not_false,
      if_true, Computation.run_bind, text, Computation.run_pure]
  have second : (convertArgument budget .number [.number d]).run apply m =
      .ok (.number (some d)) m := rfl
  show (convertArguments budget [.string, .number] [.string id, .number d]).run apply m = _
  simp only [convertArguments, List.tail_cons, Computation.run_bind, first, second,
    Computation.run_pure]

/-- What `query.entity` complains of where a number names no entity. -/
def entityComplaint (d : Double) : CapabilityError :=
  .invalidArgument ("expressId must be a non-negative integer (got " ++ d.render .message ++ ")")

/-- What `query.entity` asks of the backend. -/
def entityCall (name : String) (k : UInt32) : Call :=
  ⟨"query", "entity", [.str name, .nat k.toNat]⟩

theorem call_entity_of_some {k : UInt32} (hk : d.expressId? = some k) (b : Backend) :
    entityRow.invoke.call [.text (some name), .number (some d)] b =
      Capability.queryEntity name k b := by
  show (Registry.requireExpressId (.number (some d)) >>= fun k => Capability.queryEntity name k) b = _
  have number : Registry.requireExpressId (.number (some d)) = pure k := by
    simp only [Registry.requireExpressId, Argument.number?, hk]
  rw [number]
  rfl

theorem call_entity_of_none (hk : d.expressId? = none) (b : Backend) :
    entityRow.invoke.call [.text (some name), .number (some d)] b =
      .error (entityComplaint d) b := by
  show (Registry.requireExpressId (.number (some d)) >>= fun k => Capability.queryEntity name k) b = _
  have number : Registry.requireExpressId (.number (some d)) = throw (entityComplaint d) := by
    simp only [Registry.requireExpressId, Argument.number?, hk]
    rfl
  rw [number]
  rfl

end Ways

/-! ### Calls -/

/-- Backends that only record more calls. -/
theorem Machine.stepwise_records : Stepwise fun m m' : Machine =>
    ∃ more : List Call, m'.backend.calls = m.backend.calls ++ more.toArray where
  refl _ := ⟨[], by simp⟩
  trans := by
    rintro a b c ⟨first, calls⟩ ⟨second, calls'⟩
    exact ⟨first ++ second, by rw [calls', calls]; simp⟩
  change _ _ := ⟨[], by simp⟩
  time _ _ _ _ := ⟨[], by simp⟩

/-- Calls from scripts only add to what the backend has recorded. -/
theorem callAt_records (limits : Limits) (depth : Nat) (f : Value) (how : Invocation)
    (args : List Value) (m : Machine) :
    ∃ more : List Call, (stateAfter (callAt ⟨.builtin, limits⟩ depth f how args m)).backend.calls =
      m.backend.calls ++ more.toArray := by
  refine callAt_preserves
    (P := fun m m' => ∃ more : List Call, m'.backend.calls = m.backend.calls ++ more.toArray)
    Machine.stepwise_records ⟨.builtin, limits⟩ ?_ ?_ depth f how args m
  · rintro m m' f ns method row given - found ⟨before, calls⟩
    obtain ⟨ns, hns, -, hrow, -⟩ := Registry.mem_of_row? found
    obtain ⟨more, calls', -⟩ := Registry.faithful_builtin ns hns row hrow given m'.backend
    exact ⟨before ++ more, by rw [calls', calls]; simp⟩
  · exact fun m m' e before => before

/-- The backend is asked for an entity before anything else, when `query.entity` is called with two
arguments. -/
def AsksEntity (limits : Limits) (depth : Nat) (budget : Budget) (id : Text) (d : Double)
    (m : Machine) (call : Call) : Prop :=
  ∃ more : List Call, (stateAfter (dispatch budget "query" entityRow [.string id, .number d]
    (callAt ⟨.builtin, limits⟩ depth) m)).backend.calls = (m.backend.calls.push call) ++ more.toArray

/-- `query.entity` complains of the number that it is called with, and the backend is not asked. -/
def RefusesEntity (limits : Limits) (depth : Nat) (budget : Budget) (id : Text) (d : Double)
    (m : Machine) : Prop :=
  Raises .error (capabilityPath "query" "entity" ++ ": " ++ (entityComplaint d).message) m
    (dispatch budget "query" entityRow [.string id, .number d] (callAt ⟨.builtin, limits⟩ depth) m)

/-- A list is read as some references, and nothing but the clock of the machine runs on. -/
def ReadsRefs (limits : Limits) (depth : Nat) (budget : Budget) (list : Ref) (m : Machine)
    (refs : List EntityRef) : Prop :=
  ∃ clock, (convertArguments budget [.entityRefList] [.object list]).run
    (callAt ⟨.builtin, limits⟩ depth) m = .ok [.refs refs] { m with clock }

section Calls

variable {limits : Limits} {depth : Nat} {budget : Budget} {id : Text} {name : String} {d : Double}
  {m : Machine}

/-- The backend cannot be asked for two entities first. -/
theorem eq_of_asksEntity {k k' : UInt32}
    (asks : AsksEntity limits depth budget id d m (entityCall name k))
    (asks' : AsksEntity limits depth budget id d m (entityCall name k')) : k = k' := by
  obtain ⟨more, calls⟩ := asks
  obtain ⟨more', calls'⟩ := asks'
  have same := congrArg Array.toList (calls.symm.trans calls')
  simp only [Array.toList_append, Array.toList_push, List.append_assoc, List.append_cancel_left_eq,
    List.singleton_append, List.cons.injEq, entityCall, Call.mk.injEq, Json.nat, Json.int.injEq] at same
  exact UInt32.toNat_inj.1 (by omega)

/-- If the number is complained of, the backend is not asked for anything. -/
theorem not_asksEntity (refuses : RefusesEntity limits depth budget id d m) (call : Call) :
    ¬ AsksEntity limits depth budget id d m call := by
  rintro ⟨more, calls⟩
  obtain ⟨r, h, ended, -⟩ := refuses
  rw [ended] at calls
  have longer := congrArg Array.size calls
  simp only [stateAfter, Array.size_append, Array.size_push] at longer
  omega

variable (spelled : id.toUnicode = .ok name)

include spelled

/-- A number that names an entity reaches the backend. -/
theorem asksEntity_of_some {k : UInt32} (hk : d.expressId? = some k) :
    AsksEntity limits depth budget id d m (entityCall name k) := by
  have read : (convertArguments budget entityRow.args [.string id, .number d]).run
      (callAt ⟨.builtin, limits⟩ depth) m = .ok [.text (some name), .number (some d)] m :=
    run_convertArguments_pair _ spelled
  have acted : entityRow.invoke.call [.text (some name), .number (some d)] m.backend =
      Capability.queryEntity name k m.backend := call_entity_of_some hk m.backend
  have calls : (stateAfter (Capability.queryEntity name k m.backend)).calls =
      m.backend.calls.push (entityCall name k) := by
    unfold Capability.queryEntity Capability.respond
    dsimp only
    split <;> rfl
  cases answer : Capability.queryEntity name k m.backend with
  | error e b =>
    rw [answer] at acted calls
    obtain ⟨r, h, ended, -⟩ : Raises .error (capabilityPath "query" entityRow.name ++ ": " ++ e.message)
        { m with backend := b } (dispatch budget "query" entityRow _ _ m) :=
      dispatch_of_failure read acted
    refine ⟨[], ?_⟩
    rw [ended]
    simpa [stateAfter] using calls
  | ok j b =>
    rw [answer] at acted calls
    have ended : dispatch budget "query" entityRow _ _ m = _ := dispatch_of_success read acted
    -- handing the response back may run scripts, which can only ask for more
    obtain ⟨more, later⟩ := Computation.preserves Machine.stepwise_records
      (callAt_records limits depth)
      (duringCall (capabilityPath "query" entityRow.name) (marshalResult entityRow.returns j))
      { m with backend := b }
    refine ⟨more, ?_⟩
    rw [ended, later]
    exact congrArg (· ++ more.toArray) calls

/-- A number that names none is complained of. -/
theorem refusesEntity_of_none (hk : d.expressId? = none) :
    RefusesEntity limits depth budget id d m := by
  have read : (convertArguments budget entityRow.args [.string id, .number d]).run
      (callAt ⟨.builtin, limits⟩ depth) m = .ok [.text (some name), .number (some d)] m :=
    run_convertArguments_pair _ spelled
  have acted : entityRow.invoke.call [.text (some name), .number (some d)] m.backend =
      .error (entityComplaint d) m.backend := call_entity_of_none hk m.backend
  have raised : Raises .error
      (capabilityPath "query" entityRow.name ++ ": " ++ (entityComplaint d).message) m
      (dispatch budget "query" entityRow _ _ m) := dispatch_of_failure read acted
  exact raised

end Calls

/-- The two ways to name an entity, by a model and a number, accept the same numbers and take them for
the same entity. -/
structure Agree (limits : Limits) (depth : Nat) (budget : Budget) (id : Text) (name : String)
    (d : Double) (list : Nat) (m : Machine) : Prop where
  /-- Some entity reaches the backend, or the number is complained of. -/
  decided : (∃ k, AsksEntity limits depth budget id d m (entityCall name k)) ∨
    RefusesEntity limits depth budget id d m
  /-- An entity reaches the backend just if the list is read as the reference to it, provided that the
  budget has room for the list. -/
  accepted : 128 + name.utf8ByteSize ≤ budget.maxBytes → ∀ k,
    AsksEntity limits depth budget id d m (entityCall name k) ↔
      ReadsRefs limits depth budget list m [⟨name, k⟩]
  /-- The number is complained of just if the list is read as none. -/
  refused : 128 + name.utf8ByteSize ≤ budget.maxBytes →
    (RefusesEntity limits depth budget id d m ↔ ReadsRefs limits depth budget list m [])
  /-- If there is no room, then it is the list that is too large, whatever the number. -/
  tooLarge : budget.maxBytes < 128 + name.utf8ByteSize → budget.maxBytes < maxCount →
    ∃ m', (convertArguments budget [.entityRefList] [.object list]).run
      (callAt ⟨.builtin, limits⟩ depth) m = .error (.tooLarge budget.maxBytes) m'

/-- The two ways agree on every number, for every model and under every budget that has room for the
list, with or without a deadline.  Where there is no room, the list is too large. -/
theorem agree (limits : Limits) (depth : Nat) (budget : Budget) {id : Text} {name : String}
    (spelled : id.toUnicode = .ok name) (d : Double) {list : Nat} {m : Machine}
    (lists : m.heap.ListsEntity list id d) : Agree limits depth budget id name d list m := by
  obtain ⟨fits, beyond⟩ := run_convertArguments_named
    (callAt ⟨.builtin, limits⟩ depth) budget lists spelled
  have reads (room : 128 + name.utf8ByteSize ≤ budget.maxBytes) (refs : List EntityRef) :
      ReadsRefs limits depth budget list m refs ↔
        (d.expressId?.map fun k => (⟨name, k⟩ : EntityRef)).toList = refs := by
    obtain ⟨clock, read⟩ := fits room
    constructor
    · rintro ⟨clock', read'⟩
      have same := read.symm.trans read'
      injection same with same
      injection same with same
      injection same
    · rintro rfl
      exact ⟨clock, read⟩
  cases number : d.expressId? with
  | some k =>
    have asks : AsksEntity limits depth budget id d m (entityCall name k) :=
      asksEntity_of_some spelled number
    refine ⟨.inl ⟨k, asks⟩, fun room k' => ?_, fun room => ?_, beyond⟩
    · rw [reads room, number]
      constructor
      · intro asks'
        rw [eq_of_asksEntity asks asks']
        rfl
      · intro same
        injection same with same
        injection same with _ same
        rwa [← same]
    · rw [reads room, number]
      exact ⟨fun refuses => absurd asks (not_asksEntity refuses _), nofun⟩
  | none =>
    have refuses : RefusesEntity limits depth budget id d m := refusesEntity_of_none spelled number
    refine ⟨.inr refuses, fun room k' => ?_, fun room => ?_, beyond⟩
    · rw [reads room, number]
      exact ⟨fun asks => absurd asks (not_asksEntity refuses _), nofun⟩
    · rw [reads room, number]
      exact ⟨fun _ => rfl, fun _ => refuses⟩

/-- A machine with a list that names an entity by a number. -/
def namingMachine (id : Text) (d : Double) : Machine where
  heap :=
    (Building.add (recordObject [("modelId", .string id), ("expressId", .number d)]) >>= fun r =>
      Building.add (listObject [.object r])).run Heap.bare |>.2
  backend := {}
  logs := {}

theorem listsEntity_namingMachine (id : Text) (d : Double) :
    (namingMachine id d).heap.ListsEntity (Heap.bare.objects.size + 1) id d := by
  have size : (Heap.bare.allocate
      (recordObject [("modelId", .string id), ("expressId", .number d)])).2.objects.size =
      Heap.bare.objects.size + 1 := Heap.size_allocate ..
  have inside : Heap.bare.objects.size < (Heap.bare.allocate
      (recordObject [("modelId", .string id), ("expressId", .number d)])).2.objects.size := by
    rw [size]
    exact Nat.lt_succ_self _
  have heap : (namingMachine id d).heap = ((Heap.bare.allocate
      (recordObject [("modelId", .string id), ("expressId", .number d)])).2.allocate
        (listObject [.object Heap.bare.objects.size])).2 := rfl
  rw [heap, ← size]
  refine ⟨?_, Heap.bare.objects.size, ?_, Heap.object_allocate_self .., ?_⟩
  · rw [Heap.size_allocate]
    exact Nat.lt_succ_self _
  · rw [Heap.size_allocate]
    exact Nat.lt_succ_of_lt inside
  · rw [Heap.object_allocate_of_lt _ inside, Heap.object_allocate_self]
    exact ⟨rfl, rfl, rfl⟩

/-- Negative zero is a number that both ways take for the first entity. -/
theorem agree_negativeZero :
    (Text.unicode "m").toUnicode = .ok "m" ∧
      (namingMachine (.unicode "m") (.zero true)).heap.ListsEntity (Heap.bare.objects.size + 1)
        (.unicode "m") (.zero true) ∧
      ReadsRefs .default 1 .default (Heap.bare.objects.size + 1)
        (namingMachine (.unicode "m") (.zero true)) [⟨"m", 0⟩] := by
  have lists := listsEntity_namingMachine (.unicode "m") (.zero true)
  have number : (Double.zero true).expressId? = some 0 := by decide +kernel
  have asks : AsksEntity .default 1 .default (.unicode "m") (.zero true)
      (namingMachine (.unicode "m") (.zero true)) (entityCall "m" 0) := asksEntity_of_some rfl number
  exact ⟨rfl, lists, ((agree .default 1 .default rfl (.zero true) lists).accepted (by decide) 0).1 asks⟩

/-- A budget with no room for the list tells the two ways apart: the entity reaches the backend, and
the list is not read as the reference to it. -/
theorem small_budget_parts_ways :
    AsksEntity .default 1 ⟨100, none⟩ (.unicode "m") (.ofInt 5)
        (namingMachine (.unicode "m") (.ofInt 5)) (entityCall "m" 5) ∧
      ¬ ReadsRefs .default 1 ⟨100, none⟩ (Heap.bare.objects.size + 1)
        (namingMachine (.unicode "m") (.ofInt 5)) [⟨"m", 5⟩] := by
  refine ⟨asksEntity_of_some rfl (by decide +kernel), ?_⟩
  rintro ⟨clock, read⟩
  obtain ⟨-, beyond⟩ := run_convertArguments_named (callAt ⟨.builtin, .default⟩ 1) ⟨100, none⟩
    (listsEntity_namingMachine (.unicode "m") (.ofInt 5)) rfl
  obtain ⟨m', tooLarge⟩ := beyond (by decide) (by decide)
  rw [tooLarge] at read
  cases read

end ScriptHost
