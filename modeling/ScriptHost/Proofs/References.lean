import ScriptHost.Proofs.Fillings

/-!
# References that go to a script and back

A document goes to a script as a new value, and the script hands that value to a capability that takes
references.

* `EntityRef.IsNamedBy`: the documents of a reference, in themselves or wrapped in others;
* `InTime`: what a walk gives unless its time is up;
* `Json.ReadAs`: a document that is read as some references when it comes back;
* `Json.CarriesReferences`, `carriesReferences`: what becomes of the references in a document;
* `cutDocument_loses`: a key that is cut at its end hides one.
-/

namespace ScriptHost

/-! ### Documents of references -/

namespace EntityRef

/-- The document of a reference, or one that has it under its field `ref`, whatever else it has. -/
def IsNamedBy (r : EntityRef) (j : Json) : Prop :=
  j = r.toJson ∨ ∃ fields, j = .obj fields ∧ Json.lookup? "ref" fields = some r.toJson

theorem expressIdOfInt?_toNat (k : UInt32) : expressIdOfInt? k.toNat = some k := by
  have bound : twoTo 32 = 2 ^ 32 := by decide
  have small : k.toNat < twoTo 32 := bound ▸ k.toNat_lt
  have fits : (decide (0 ≤ (k.toNat : Int)) && decide ((k.toNat : Int) < twoTo 32)) = true := by
    simp only [Bool.and_eq_true, decide_eq_true_eq]
    omega
  rw [expressIdOfInt?, if_pos fits, Int.toNat_natCast, UInt32.ofNat_toNat]

theorem ofBare?_of_fields {j a b : Json} {name : String} {k : UInt32}
    (ha : j.field? "modelId" = some a) (text : a.asString? = some name)
    (hb : j.field? "expressId" = some b) (number : expressIdOf? b = some k) :
    ofBare? j = some ⟨name, k⟩ := by
  simp only [ofBare?, ha, text, hb, number, Option.bind_eq_bind, Option.bind_some]

theorem ofBare?_toJson (r : EntityRef) : ofBare? r.toJson = some r := by
  have number : expressIdOf? (.nat r.expressId.toNat) = some r.expressId := by
    rw [Json.nat, expressIdOf?, expressIdOfInt?_toNat]
  exact ofBare?_of_fields rfl rfl rfl number

/-- Either carries the reference. -/
theorem ofJson?_of_isNamedBy {r : EntityRef} {j : Json} (named : r.IsNamedBy j) :
    ofJson? j = some r := by
  rcases named with rfl | ⟨fields, rfl, wrapped⟩
  · have bare : r.toJson.field? "ref" = none := rfl
    rw [ofJson?, bare, ofBare?_toJson]
    rfl
  · rw [ofJson?, Json.field?, wrapped, Option.bind_some, ofBare?_toJson]
    rfl

theorem filterMap_ofJson?_of_isNamedBy {items : List Json} {refs : List EntityRef}
    (named : List.Forall₂ IsNamedBy refs items) : items.filterMap ofJson? = refs := by
  induction named with
  | nil => rfl
  | cons first _ ih => rw [List.filterMap_cons_some (ofJson?_of_isNamedBy first), ih]

theorem nodes_toJson {p : Json → Prop} (r : EntityRef) (root : p r.toJson)
    (number : p (.nat r.expressId.toNat)) (text : p (.str r.modelId)) : r.toJson.Nodes p := by
  refine Json.nodes_obj root fun f hf => ?_
  rcases List.mem_cons.1 hf with rfl | hf
  · exact Json.nodes_leaf (by rintro n k ⟨⟩; rfl) number
  · rw [List.mem_singleton.1 hf]
    exact Json.nodes_leaf (by rintro n k ⟨⟩; rfl) text

theorem isHosts_toJson (r : EntityRef) : r.toJson.Nodes Json.IsHosts := by
  have increasing : ("expressId" < "modelId") = True := by decide
  refine r.nodes_toJson (by simp [toJson, Json.IsHosts, Json.keysIncreasing, increasing]) ?_ trivial
  have small := r.expressId.toNat_lt
  have bound : 2 ^ 32 < twoTo 63 ∧ twoTo 63 < twoTo 64 := by decide
  show -(twoTo 63 : Int) ≤ r.expressId.toNat ∧ (r.expressId.toNat : Int) < twoTo 64
  omega

theorem wholeKeys_toJson (r : EntityRef) : r.toJson.Nodes Json.WholeKeys :=
  r.nodes_toJson (List.forall_mem_cons.2 ⟨show documentKey "expressId" = "expressId" by decide,
    List.forall_mem_singleton.2 (show documentKey "modelId" = "modelId" by decide)⟩) trivial trivial

theorem within_toJson (r : EntityRef) (levels : Nat) : r.toJson.Within (levels + 2) := by
  refine Json.within_obj.2 (List.forall_mem_cons.2 ⟨?_, List.forall_mem_singleton.2 ?_⟩)
  all_goals exact Json.within_leaf (by rintro n k ⟨⟩; rfl) _

variable {refs : List EntityRef}

theorem nodes_map_toJson {p : Json → Prop} (root : p (.arr (refs.map toJson)))
    (each : ∀ r : EntityRef, r.toJson.Nodes p) : (Json.arr (refs.map toJson)).Nodes p := by
  refine Json.nodes_arr root fun j hj => ?_
  obtain ⟨r, -, rfl⟩ := List.mem_map.1 hj
  exact each r

theorem isHosts_map_toJson (short : refs.length ≤ maxLength) :
    (Json.arr (refs.map toJson)).Nodes Json.IsHosts :=
  nodes_map_toJson (show (refs.map toJson).length ≤ maxLength by rwa [List.length_map])
    isHosts_toJson

/-- A list of references becomes a value, whatever is left to call. -/
theorem marshal_map_toJson {m : Machine} (pristine : m.heap.Pristine) (apply : Apply)
    (short : refs.length ≤ maxLength) :
    ∃ v m', (marshal (.arr (refs.map toJson))).run apply m = .ok v m' := by
  have settable : (Json.arr (refs.map toJson)).Nodes m.heap.SettableKeys :=
    nodes_map_toJson trivial fun r =>
      r.nodes_toJson (List.forall_mem_cons.2 ⟨pristine.settable "expressId" (by decide),
        List.forall_mem_singleton.2 (pristine.settable "modelId" (by decide))⟩) trivial trivial
  have within : (Json.arr (refs.map toJson)).Within (maxDepth + 1) := by
    refine Json.within_arr.2 fun j hj => ?_
    obtain ⟨r, -, rfl⟩ := List.mem_map.1 hj
    exact r.within_toJson _
  rcases Json.settles (isHosts_map_toJson short) (maxDepth + 1) apply m pristine.ground settable with
    ⟨-, v, h', ran, -⟩ | ⟨deep, -⟩
  · exact ⟨v, _, ran⟩
  · exact absurd within deep

end EntityRef

/-! ### References that come back -/

/-- What a walk gives, unless its time is up: it has some property, and nothing but the clock of the
machine has run on.  The time can only be up if there is a deadline and so many nodes are visited that
it is looked at. -/
def InTime {α : Type} (budget : Budget) (visits : Nat) (m : Machine) (good : α → Prop)
    (r : EStateM.Result ConversionError Machine α) : Prop :=
  (∃ a clock, r = .ok a { m with clock } ∧ good a) ∨
    (budget.deadline.isSome = true ∧ clockStride ≤ visits ∧ ∃ m', r = .error .deadlineExpired m')

namespace Json

/-- A document that goes to a script is read as some references when the script hands it to a
capability, under every budget with room for it. -/
def ReadAs (host : Host) (depth : Nat) (m : Machine) (j : Json) (refs : List EntityRef) : Prop :=
  ∀ v m', (marshal j).run (callAt host depth) m = .ok v m' →
    ∀ (again : Apply) (budget : Budget) (rest : List Value), j.walkCost ≤ budget.maxBytes →
      InTime budget j.walkVisits m' (fun given => given = [Argument.refs refs])
        ((convertArguments budget [.entityRefList] (v :: rest)).run again m')

/-- What becomes of the references in a document that goes from a machine to a script and back. -/
structure CarriesReferences (host : Host) (depth : Nat) (m : Machine) (j : Json) : Prop where
  /-- As long as calls can be made, it becomes a value just if none of its nodes lies too many levels
  below the root. -/
  given : depth ≠ 0 → ((∃ v m', (marshal j).run (callAt host depth) m = .ok v m') ↔
    ∀ n k, j.NodeAt n k → n ≤ maxDepth)
  /-- The document that comes back carries the same reference, under every budget with room for the
  walk. -/
  document : ∀ v m', (marshal j).run (callAt host depth) m = .ok v m' →
    ∀ (again : Apply) (budget : Budget), j.walkCost ≤ budget.maxBytes →
      InTime budget j.walkVisits m' (fun k => EntityRef.ofJson? k = EntityRef.ofJson? j)
        ((dump budget v).run again m')
  /-- A list is read as the references of its items, those left out that have none. -/
  items : ∀ items, j = .arr items → j.ReadAs host depth m (items.filterMap EntityRef.ofJson?)
  /-- Anything else is read as its own reference. -/
  single : (∀ items, j ≠ .arr items) → j.ReadAs host depth m (EntityRef.ofJson? j).toList

section Claims

variable {host : Host} {depth : Nat} {m : Machine} {j : Json}

theorem inTime_dump {v : Value} {start : Nat} (depicts : m.heap.Depicts start v j.echo)
    (within : j.Within (maxDepth + 1)) (again : Apply) {budget : Budget}
    (room : j.walkCost ≤ budget.maxBytes) :
    InTime budget j.walkVisits m (fun k => k = j.echo) ((dump budget v).run again m) := by
  obtain ⟨cost, visits⟩ := walk_echo j
  have converted := converted_of_depicts depicts (within_echo within) budget again
  generalize (dump budget v).run again m = r at converted ⊢
  cases converted with
  | given clock _ => exact .inl ⟨_, clock, rfl, rfl⟩
  | tooLarge beyond m' => exact absurd beyond (Nat.not_lt_of_le (Nat.le_trans cost room))
  | late limited looked m' => exact .inr ⟨limited, Nat.le_trans looked visits, m', rfl⟩

/-- What becomes a value comes back as a document, whatever is left to call. -/
theorem inTime_echo (pristine : m.heap.Pristine) (hosts : j.Nodes IsHosts) (whole : j.Nodes WholeKeys)
    {v : Value} {m' : Machine} (ran : (marshal j).run (callAt host depth) m = .ok v m')
    (again : Apply) {budget : Budget} (room : j.walkCost ≤ budget.maxBytes) :
    InTime budget j.walkVisits m' (fun k => k = j.echo) ((dump budget v).run again m') := by
  rcases settlesWithParents host depth hosts whole (maxDepth + 1) m pristine with
    ⟨within, w, h', ran', -, depicts, -⟩ | ⟨e, m₁, ran', -⟩
  · cases ran'.symm.trans ran
    exact inTime_dump depicts within again room
  · cases ran'.symm.trans ran

theorem readAs_referencesOf (pristine : m.heap.Pristine) (hosts : j.Nodes IsHosts)
    (whole : j.Nodes WholeKeys) : j.ReadAs host depth m (referencesOf j) := by
  intro v m' ran again budget rest room
  have back := inTime_echo pristine hosts whole ran again room
  simp only [convertArguments, convertArgument, List.head?_cons, Computation.run_bind]
  rcases back with ⟨k, clock, dumped, rfl⟩ | ⟨limited, looked, m₁, dumped⟩
  · left
    refine ⟨_, clock, ?_, rfl⟩
    simp only [dumped, referencesOf_echo, Computation.run_pure]
  · right
    refine ⟨limited, looked, m₁, ?_⟩
    simp only [dumped]

variable (host depth) in
theorem carries (pristine : m.heap.Pristine) (hosts : j.Nodes IsHosts) (whole : j.Nodes WholeKeys) :
    j.CarriesReferences host depth m where
  given callable := by
    rw [← within_maxDepth]
    rcases settlesWithParents host depth hosts whole (maxDepth + 1) m pristine with
      ⟨within, v, h', ran, -⟩ | ⟨e, m₁, ran, why⟩
    · exact ⟨fun _ => within, fun _ => ⟨v, _, ran⟩⟩
    · obtain ⟨-, deep⟩ := why.resolve_left callable
      exact ⟨fun ⟨v, m', ran'⟩ => (by cases ran.symm.trans ran'), fun within => absurd within deep⟩
  document v m' ran again budget room :=
    (inTime_echo pristine hosts whole ran again room).imp_left fun ⟨k, clock, dumped, same⟩ =>
      ⟨k, clock, dumped, same ▸ EntityRef.ofJson?_echo j⟩
  items items list := by
    subst list
    exact readAs_referencesOf pristine hosts whole
  single notList := by
    have own : referencesOf j = (EntityRef.ofJson? j).toList := by
      cases j with
      | arr items => exact absurd rfl (notList items)
      | _ => rfl
    rw [← own]
    exact readAs_referencesOf pristine hosts whole

end Claims

end Json

/-- References survive the way to a script and back: those in any document of the host whose keys are
taken as they are, those in the documents of a list of references, and those wrapped in others. -/
theorem carriesReferences (host : Host) (depth : Nat) {m : Machine} (pristine : m.heap.Pristine) :
    (∀ j : Json, j.Nodes Json.IsHosts → j.Nodes Json.WholeKeys → j.CarriesReferences host depth m) ∧
    (∀ refs : List EntityRef, refs.length ≤ maxLength →
      (∃ v m', (marshal (.arr (refs.map EntityRef.toJson))).run (callAt host depth) m = .ok v m') ∧
        (Json.arr (refs.map EntityRef.toJson)).ReadAs host depth m refs) ∧
    ∀ (refs : List EntityRef) (items : List Json), List.Forall₂ EntityRef.IsNamedBy refs items →
      items.filterMap EntityRef.ofJson? = refs ∧
        ((Json.arr items).Nodes Json.IsHosts → (Json.arr items).Nodes Json.WholeKeys →
          (Json.arr items).ReadAs host depth m refs) := by
  have named {refs : List EntityRef} {items : List Json}
      (named : List.Forall₂ EntityRef.IsNamedBy refs items) (hosts : (Json.arr items).Nodes Json.IsHosts)
      (whole : (Json.arr items).Nodes Json.WholeKeys) : (Json.arr items).ReadAs host depth m refs := by
    have carried := (Json.carries host depth pristine hosts whole).items items rfl
    rwa [EntityRef.filterMap_ofJson?_of_isNamedBy named] at carried
  refine ⟨fun j hosts whole => Json.carries host depth pristine hosts whole, fun refs short => ?_,
    fun refs items wrapped =>
      ⟨EntityRef.filterMap_ofJson?_of_isNamedBy wrapped, named wrapped⟩⟩
  have plain : List.Forall₂ EntityRef.IsNamedBy refs (refs.map EntityRef.toJson) :=
    List.forall₂_map_right_iff.2 (List.forall₂_same.2 fun r _ => .inl rfl)
  exact ⟨EntityRef.marshal_map_toJson pristine _ short, named plain
    (EntityRef.isHosts_map_toJson short)
    (EntityRef.nodes_map_toJson trivial EntityRef.wholeKeys_toJson)⟩

/-- A machine on which prototypes can be set. -/
def objectsMachine : Machine where
  heap := Heap.bare.after Realm.addObjects
  backend := .empty
  logs := {}

theorem pristine_objectsMachine : objectsMachine.heap.Pristine := by
  have heap : objectsMachine.heap = Heap.bare.after Realm.addObjects := by rw [objectsMachine]
  rw [heap]
  exact Heap.pristine_addObjects

/-- A list of a text, a reference under the field `ref` of an object with a prototype, and the
reference itself, whose number is a double. -/
def mixedDocument : Json :=
  .arr [.str "none", .obj [("__proto__", .arr []), ("ref", (EntityRef.mk "m" 7).toJson)],
    .obj [("expressId", .double (.ofInt 7)), ("modelId", .str "m")]]

/-- That list is read as the reference, twice. -/
theorem carriesReferences_mixedDocument :
    objectsMachine.heap.Pristine ∧ mixedDocument.Nodes Json.IsHosts ∧
      mixedDocument.Nodes Json.WholeKeys ∧
      (∃ v m', (marshal mixedDocument).run (callAt ⟨.builtin, .default⟩ 1) objectsMachine = .ok v m') ∧
      mixedDocument.ReadAs ⟨.builtin, .default⟩ 1 objectsMachine [⟨"m", 7⟩, ⟨"m", 7⟩] := by
  have pristine : objectsMachine.heap.Pristine := pristine_objectsMachine
  have hosts : mixedDocument.Nodes Json.IsHosts := by
    refine Json.nodes_arr (show 3 ≤ maxLength by decide) (List.forall_mem_cons.2 ⟨?_,
      List.forall_mem_cons.2 ⟨?_, List.forall_mem_singleton.2 ?_⟩⟩)
    · exact Json.nodes_leaf (by rintro n k ⟨⟩; rfl) trivial
    · refine Json.nodes_obj (show Json.keysIncreasing _ = true by decide) (List.forall_mem_cons.2
        ⟨?_, List.forall_mem_singleton.2 (EntityRef.isHosts_toJson _)⟩)
      exact Json.nodes_arr (Nat.zero_le _) (List.forall_mem_nil _)
    · refine Json.nodes_obj (show Json.keysIncreasing _ = true by decide) (List.forall_mem_cons.2
        ⟨?_, List.forall_mem_singleton.2 ?_⟩)
      · exact Json.nodes_leaf (by rintro n k ⟨⟩; rfl)
          (show (Double.ofInt 7).isFinite = true by decide +kernel)
      · exact Json.nodes_leaf (by rintro n k ⟨⟩; rfl) trivial
  have whole : mixedDocument.Nodes Json.WholeKeys := by
    refine Json.nodes_arr trivial (List.forall_mem_cons.2 ⟨?_,
      List.forall_mem_cons.2 ⟨?_, List.forall_mem_singleton.2 ?_⟩⟩)
    · exact Json.nodes_leaf (by rintro n k ⟨⟩; rfl) trivial
    · refine Json.nodes_obj (List.forall_mem_cons.2 ⟨by decide, List.forall_mem_singleton.2 (by decide)⟩)
        (List.forall_mem_cons.2 ⟨?_, List.forall_mem_singleton.2 (EntityRef.wholeKeys_toJson _)⟩)
      exact Json.nodes_arr trivial (List.forall_mem_nil _)
    · refine Json.nodes_obj (List.forall_mem_cons.2 ⟨by decide, List.forall_mem_singleton.2 (by decide)⟩)
        (List.forall_mem_cons.2 ⟨?_, List.forall_mem_singleton.2 ?_⟩)
      all_goals exact Json.nodes_leaf (by rintro n k ⟨⟩; rfl) trivial
  have carried := (carriesReferences ⟨.builtin, .default⟩ 1 pristine).1 mixedDocument hosts whole
  have read : referencesOf mixedDocument = [⟨"m", 7⟩, ⟨"m", 7⟩] := by decide +kernel
  have list : mixedDocument.ReadAs ⟨.builtin, .default⟩ 1 objectsMachine (referencesOf mixedDocument) :=
    carried.items _ rfl
  rw [read] at list
  have within : mixedDocument.Within (maxDepth + 1) := by
    refine Json.within_arr.2 (List.forall_mem_cons.2 ⟨Json.within_leaf (by rintro n k ⟨⟩; rfl) _,
      List.forall_mem_cons.2 ⟨?_, List.forall_mem_singleton.2 ?_⟩⟩)
    · refine Json.within_obj.2 (List.forall_mem_cons.2
        ⟨?_, List.forall_mem_singleton.2 (EntityRef.within_toJson _ _)⟩)
      exact Json.within_arr.2 (List.forall_mem_nil _)
    · refine Json.within_obj.2 (List.forall_mem_cons.2 ⟨?_, List.forall_mem_singleton.2 ?_⟩)
      all_goals exact Json.within_leaf (by rintro n k ⟨⟩; rfl) _
  exact ⟨pristine, hosts, whole, (carried.given (by decide)).2 (Json.within_maxDepth.1 within), list⟩

/-- A document with two keys that are one up to its end. -/
def cutDocument : Json := .obj [("ref", (EntityRef.mk "m" 1).toJson), ("ref\x00", .int 5)]

/-- The references among the arguments that a conversion has given. -/
def refsOfResult : EStateM.Result ConversionError Machine (List Argument) → List (List EntityRef)
  | .ok given _ => given.map Argument.entityRefs
  | .error .. => []

/-- The reference in it does not come back: the value of the longer key takes its place. -/
theorem cutDocument_loses :
    cutDocument.Nodes Json.IsHosts ∧ referencesOf cutDocument = [⟨"m", 1⟩] ∧
      ¬ cutDocument.ReadAs ⟨.builtin, .default⟩ 1 Json.bareMachine [⟨"m", 1⟩] := by
  have hosts : cutDocument.Nodes Json.IsHosts := by
    refine Json.nodes_obj (show Json.keysIncreasing _ = true by decide) (List.forall_mem_cons.2
      ⟨EntityRef.isHosts_toJson _, List.forall_mem_singleton.2 ?_⟩)
    exact Json.nodes_leaf (by rintro n k ⟨⟩; rfl)
      (show -(twoTo 63 : Int) ≤ 5 ∧ (5 : Int) < twoTo 64 by decide)
  refine ⟨hosts, by decide +kernel, fun readAs => ?_⟩
  have read : refsOfResult ((marshal cutDocument >>= fun v =>
      convertArguments .default [.entityRefList] [v]).run (callAt ⟨.builtin, .default⟩ 1)
        Json.bareMachine) = [[]] := by decide +kernel
  rw [Computation.run_bind] at read
  cases ran : (marshal cutDocument).run (callAt ⟨.builtin, .default⟩ 1) Json.bareMachine with
  | error e m' =>
    rw [ran] at read
    cases read
  | ok v m' =>
    rw [ran] at read
    rcases readAs v m' ran (callAt ⟨.builtin, .default⟩ 1) .default [] (by decide +kernel) with
      ⟨given, clock, converted, rfl⟩ | ⟨limited, -⟩
    · dsimp only at read
      rw [converted] at read
      cases read
    · cases limited

end ScriptHost
