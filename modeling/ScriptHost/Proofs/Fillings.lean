import ScriptHost.Proofs.Echo

/-!
# Documents that become values with prototypes

Unlike `Heap.Recorded` and `Json.settles`, what is told here holds of all keys: a field `__proto__`
sets the prototype of the object that is being made.

* `Heap.Filled`: a heap on which a new object is being filled, whose prototype may be set meanwhile;
* `Json.SettlesWithParents`: whether a document becomes a value that depicts what comes back;
* `Json.settlesWithParents`: each document of the host does, unless it lies too deep or no more calls
  can be made.
-/

namespace ScriptHost

/-! ### New objects -/

namespace Heap

variable {h h' h'' : Heap} {done : List (String × Json)} {rows : List (String × Value × Json)}

/-- A heap that has come from another one by a new object, which some fields of a document have filled;
`rows` are those that are properties of its own. -/
structure Filled (h : Heap) (done : List (String × Json)) (rows : List (String × Value × Json))
    (h' : Heap) : Prop where
  kept : Keeps 0 h h'
  inside : h.objects.size < h'.objects.size
  lists : (h'.object h.objects.size).Lists (rows.map fun e => (e.1, e.2.1))
  extensible : (h'.object h.objects.size).extensible = true
  inherits : h'.Inherits (h.objects.size + 1) (h'.object h.objects.size).prototype
  untouched : (∀ f ∈ done, f.1 ≠ protoName) →
    (h'.object h.objects.size).prototype = some Family.object.prototype
  echoes : (rows.map fun e => (e.1, e.2.2)) = Json.echoFields done
  fields : ∀ e ∈ rows, h'.Depicts (h.objects.size + 1) e.2.1 e.2.2

namespace Filled

theorem start : h.Filled [] [] (h.allocate (recordObject [])).2 where
  kept := .allocate _
  inside := by
    rw [h.size_allocate]
    exact Nat.lt_succ_self _
  lists := by
    rw [h.object_allocate_self]
    exact ⟨rfl, rfl, rfl⟩
  extensible := by
    rw [h.object_allocate_self]
    rfl
  inherits := by
    rw [h.object_allocate_self]
    exact .inr (.inl rfl)
  untouched _ := by
    rw [h.object_allocate_self]
    rfl
  echoes := rfl
  fields _ he := nomatch he

theorem keeps (filled : h.Filled done rows h') (kept : Keeps 0 h' h'') : h.Filled done rows h'' := by
  have same := kept.object _ (Nat.zero_le _) filled.inside
  exact
    { kept := filled.kept.trans kept
      inside := Nat.lt_of_lt_of_le filled.inside kept.size
      lists := same ▸ filled.lists
      extensible := same ▸ filled.extensible
      inherits := same ▸ filled.inherits.keeps (kept.later (Nat.zero_le _))
      untouched := same ▸ filled.untouched
      echoes := filled.echoes
      fields := fun e he => (filled.fields e he).keeps (kept.later (Nat.zero_le _)) }

/-- A change of the new object leaves those that were there before, and the values of its fields. -/
theorem kept_modify (filled : h.Filled done rows h') (f : Object → Object) :
    Keeps 0 h (h'.modify h.objects.size f) where
  size := by
    rw [h'.size_modify]
    exact filled.kept.size
  object r _ inside := by
    rw [h'.object_modify_of_ne (Nat.ne_of_lt inside)]
    exact filled.kept.object r (Nat.zero_le _) inside

/-- Its names are names of the fields. -/
theorem named (filled : h.Filled done rows h') {e : String × Value × Json} (he : e ∈ rows) :
    ∃ f ∈ done, e.1 = f.1 := by
  have listed : (e.1, e.2.2) ∈ Json.echoFields done := by
    rw [← filled.echoes]
    exact List.mem_map_of_mem (f := fun e : String × Value × Json => (e.1, e.2.2)) he
  obtain ⟨f, hf, -, same⟩ := Json.mem_echoFields listed
  exact ⟨f, hf, congrArg Prod.fst same⟩

theorem own?_of_absent (filled : h.Filled done rows h') {name : String}
    (absent : ∀ f ∈ done, f.1 ≠ name) :
    h'.own? (h'.object h.objects.size) (Key.named name) = none := by
  refine own?_of_lists_of_absent filled.lists fun g hg => ?_
  obtain ⟨e, he, rfl⟩ := List.mem_map.1 hg
  obtain ⟨f, hf, same⟩ := filled.named he
  exact fun here => absent f hf (same.symm.trans here)

/-- A field under a new name becomes a property. -/
theorem put (filled : h.Filled done rows h') {name : String} {v : Value} {j : Json}
    (other : name ≠ protoName) (absent : ∀ f ∈ done, f.1 ≠ name)
    (depicts : h'.Depicts (h.objects.size + 1) v j.echo) :
    h.Filled (done ++ [(name, j)]) (rows ++ [(name, v, j.echo)])
      (h'.modify h.objects.size fun o => o.put (Key.named name) (.plain v)) := by
  have own := filled.own?_of_absent absent
  have lists := filled.lists
  have object : (h'.modify h.objects.size fun o => o.put (Key.named name) (.plain v)).object
      h.objects.size = { h'.object h.objects.size with
        properties := (h'.object h.objects.size).properties ++ [(Key.named name, .plain v)] } := by
    rw [h'.own?_of_plain lists.kind, Object.stored?_of_no_elements _ _ lists.elements] at own
    rw [h'.object_modify_self filled.inside,
      Object.put_of_no_items _ _ _ (Object.hasItems_of_plain lists.kind) lists.elements,
      putIn_of_lookup_none own]
  have kept : Keeps (h.objects.size + 1) h'
      (h'.modify h.objects.size fun o => o.put (Key.named name) (.plain v)) :=
    .modify (Nat.lt_succ_self _) _
  exact
    { kept := filled.kept_modify _
      inside := by
        rw [h'.size_modify]
        exact filled.inside
      lists := by
        rw [object]
        refine ⟨lists.kind, lists.elements, ?_⟩
        rw [lists.properties, List.map_append, List.map_append]
        rfl
      extensible := by
        rw [object]
        exact filled.extensible
      inherits := by
        rw [object]
        exact filled.inherits.keeps kept
      untouched := fun none_ => by
        rw [object]
        exact filled.untouched fun f hf => none_ f (List.mem_append_left _ hf)
      echoes := by
        rw [List.map_append, filled.echoes, Json.echoFields_append, List.map_singleton,
          Json.echoFields_cons other, Json.echoFields]
      fields := fun e he => by
        rcases List.mem_append.1 he with old | new
        · exact (filled.fields e old).keeps kept
        · rw [List.mem_singleton.1 new]
          exact depicts.keeps kept }

/-- A field under the name of the prototype becomes what the object inherits, if it can. -/
theorem withParent (filled : h.Filled done rows h') {v : Value} (j : Json)
    (descends : ∀ p, v = .object p → h'.Descends (h.objects.size + 1) p) :
    h.Filled (done ++ [(protoName, j)]) rows (h'.withParent h.objects.size v) := by
  have echoes : (rows.map fun e => (e.1, e.2.2)) = Json.echoFields (done ++ [(protoName, j)]) := by
    rw [filled.echoes, Json.echoFields_append, Json.echoFields_cons_proto, Json.echoFields,
      List.append_nil]
  -- from here on nothing is known of the prototype
  have named : ¬ ∀ f ∈ done ++ [(protoName, j)], f.1 ≠ protoName := fun none_ =>
    none_ _ (List.mem_append_right _ (List.mem_singleton_self _)) rfl
  -- whatever the new prototype is, nothing else changes
  have changed (parent : Option Nat) (inherits : h'.Inherits (h.objects.size + 1) parent) :
      h.Filled (done ++ [(protoName, j)]) rows
        (h'.modify h.objects.size fun o => { o with prototype := parent }) := by
    have object := h'.object_modify_self filled.inside fun o => { o with prototype := parent }
    have kept : Keeps (h.objects.size + 1) h'
        (h'.modify h.objects.size fun o => { o with prototype := parent }) :=
      .modify (Nat.lt_succ_self _) _
    exact
      { kept := filled.kept_modify _
        inside := by
          rw [h'.size_modify]
          exact filled.inside
        lists := by
          rw [object]
          exact ⟨filled.lists.kind, filled.lists.elements, filled.lists.properties⟩
        extensible := by
          rw [object]
          exact filled.extensible
        inherits := by
          rw [object]
          exact inherits.keeps kept
        untouched := fun none_ => absurd none_ named
        echoes
        fields := fun e he => (filled.fields e he).keeps kept }
  cases v with
  | null => exact changed none (.inl rfl)
  | object p => exact changed (some p) (.inr (.inr ⟨p, rfl, descends p rfl⟩))
  | _ => exact { filled with untouched := fun none_ => absurd none_ named, echoes }

end Filled

end Heap

/-! ### Documents that become values -/

theorem Conversion.run_ofScript_of_error {α : Type} {s : Script α} {apply : Apply} {m m' : Machine}
    {e : Halt} (failed : s.run apply m = .error e m') :
    (Conversion.ofScript s).run apply m = .error (.engine (.halted e)) m' := by
  rw [Conversion.ofScript, Computation.run_sequel, failed]
  rfl

namespace Json

/-- How what becomes of some documents fails: there is one that lies too deep, or no more calls can be
made. -/
def Refuses {α : Type} (depth : Nat) (deep : Prop) (r : EStateM.Result ConversionError Machine α) :
    Prop :=
  ∃ e m', r = .error e m' ∧ (depth = 0 ∨ e = .tooDeep ∧ deep)

/-- What such a failure ends fails in the same way. -/
theorem Refuses.ends {α β : Type} {depth : Nat} {deep deep' : Prop}
    {r : EStateM.Result ConversionError Machine α} {r' : EStateM.Result ConversionError Machine β}
    (refuses : Refuses depth deep r) (deeper : deep → deep')
    (ends : ∀ e m', r = .error e m' → r' = .error e m') : Refuses depth deep' r' := by
  obtain ⟨e, m', failed, why⟩ := refuses
  exact ⟨e, m', ends e m' failed, why.imp_right (And.imp_right deeper)⟩

/-- A document that becomes, with so many levels, a new value that depicts what comes back, or that lies
too deep for them. -/
def SettlesWithParents (host : Host) (depth levels : Nat) (j : Json) : Prop :=
  ∀ m : Machine, m.heap.Pristine →
    (j.Within levels ∧ ∃ (v : Value) (h' : Heap),
      (marshalAt levels j).run (callAt host depth) m = .ok v { m with heap := h' } ∧
        Heap.Keeps 0 m.heap h' ∧ h'.Depicts m.heap.objects.size v j.echo ∧
        ∀ r, v = .object r → h'.Descends m.heap.objects.size r) ∨
    Refuses depth (¬ j.Within levels) ((marshalAt levels j).run (callAt host depth) m)

section Loops

variable (host : Host) (depth : Nat) {levels : Nat} {m : Machine}

/-- Items become values one after another, up to the first that lies too deep. -/
theorem run_marshalItems_echo {items : List Json}
    (settles : ∀ j ∈ items, j.SettlesWithParents host depth levels) (pristine : m.heap.Pristine) :
    ((∀ j ∈ items, j.Within levels) ∧ ∃ (rows : List (Value × Json)) (h' : Heap),
      (marshalItems levels items).run (callAt host depth) m =
          .ok (rows.map Prod.fst) { m with heap := h' } ∧
        rows.map Prod.snd = echoItems items ∧ Heap.Keeps 0 m.heap h' ∧
          ∀ e ∈ rows, h'.Depicts m.heap.objects.size e.1 e.2) ∨
    Refuses depth (∃ j ∈ items, ¬ j.Within levels)
      ((marshalItems levels items).run (callAt host depth) m) := by
  induction items generalizing m with
  | nil =>
    left
    exact ⟨List.forall_mem_nil _, [], m.heap, rfl, rfl, .refl, List.forall_mem_nil _⟩
  | cons j rest ih =>
    obtain ⟨first, later⟩ := List.forall_mem_cons.1 settles
    rcases first m pristine with ⟨within, v, h₁, ran, kept, depicts, -⟩ | refuses
    · rcases ih (m := { m with heap := h₁ }) later (pristine.keeps kept) with
        ⟨withinRest, rows, h₂, ranRest, listed, keptRest, depictsRest⟩ | refuses
      · left
        refine ⟨List.forall_mem_cons.2 ⟨within, withinRest⟩, (v, j.echo) :: rows, h₂, ?_,
          by rw [List.map_cons, listed, echoItems], kept.trans keptRest, fun e he => ?_⟩
        · simp only [marshalItems, Computation.run_bind, ran, ranRest, Computation.run_pure]
          rfl
        · rcases List.mem_cons.1 he with rfl | old
          · exact depicts.keeps (keptRest.later (Nat.zero_le _))
          · exact (depictsRest e old).earlier kept.size
      · right
        refine refuses.ends List.exists_mem_cons_of_exists fun e m' failed => ?_
        simp only [marshalItems, Computation.run_bind, ran, failed]
    · right
      refine refuses.ends (fun deep => ⟨j, List.mem_cons_self .., deep⟩) fun e m' failed => ?_
      simp only [marshalItems, Computation.run_bind, failed]

variable {h : Heap}

/-- A field becomes a property of the new object, or what it inherits, if the setter can be called. -/
theorem run_setField {done : List (String × Json)} {rows : List (String × Value × Json)} {h' : Heap}
    {f : String × Json} {v : Value} (pristine : h.Pristine) (filled : h.Filled done rows h')
    (hm : m.heap = h') (absent : ∀ e ∈ done, e.1 ≠ f.1)
    (depicts : h'.Depicts (h.objects.size + 1) v f.2.echo)
    (descends : ∀ p, v = .object p → h'.Descends (h.objects.size + 1) p) :
    (∃ rows' h'', (setProperty (.object h.objects.size) (Key.named f.1) v).run
        (callAt host depth) m = .ok () { m with heap := h'' } ∧ h.Filled (done ++ [f]) rows' h'') ∨
    (depth = 0 ∧ ∃ e m', (setProperty (.object h.objects.size) (Key.named f.1) v).run
        (callAt host depth) m = .error e m') := by
  obtain ⟨name, j⟩ := f
  have own := filled.own?_of_absent absent
  have newer : globalRef < h.objects.size := pristine.ground.size
  have here := pristine.keeps filled.kept
  by_cases proto : name = protoName
  · subst proto
    -- no field before was of this name, so the prototype is the first one
    have parent := filled.untouched absent
    exact (Heap.run_setProperty_proto host depth hm here newer filled.lists filled.extensible parent
      own descends).imp_left fun set => ⟨rows, _, set, filled.withParent j descends⟩
  · left
    exact ⟨_, _, Heap.run_setProperty_of_inherits _ hm here proto newer filled.lists
      filled.extensible filled.inherits own, filled.put proto absent depicts⟩

/-- Fields come to the new object one after another, up to the first that lies too deep.  The induction
is on the fields that are left; `Filled` tells of those that are done. -/
theorem run_marshalFields_echo {done : List (String × Json)} {rows : List (String × Value × Json)}
    {fields : List (String × Json)} (settles : ∀ f ∈ fields, f.2.SettlesWithParents host depth levels)
    (pristine : h.Pristine) (absent : ∀ e ∈ done, ∀ f ∈ fields, e.1 ≠ f.1)
    (distinct : fields.Pairwise fun a b => a.1 ≠ b.1) (before : h.Filled done rows m.heap) :
    ((∀ f ∈ fields, f.2.Within levels) ∧ ∃ rows' h',
        (marshalFields levels h.objects.size fields).run (callAt host depth) m =
            .ok () { m with heap := h' } ∧
          h.Filled (done ++ fields) rows' h') ∨
    Refuses depth (∃ f ∈ fields, ¬ f.2.Within levels)
      ((marshalFields levels h.objects.size fields).run (callAt host depth) m) := by
  induction fields generalizing done rows m with
  | nil =>
    left
    exact ⟨List.forall_mem_nil _, rows, m.heap, rfl, by rwa [List.append_nil]⟩
  | cons f rest ih =>
    obtain ⟨first, later⟩ := List.forall_mem_cons.1 settles
    obtain ⟨others, distinctLater⟩ := List.pairwise_cons.1 distinct
    have absentFirst : ∀ e ∈ done, e.1 ≠ f.1 := fun e he => absent e he f (List.mem_cons_self ..)
    rcases first m (pristine.keeps before.kept) with
      ⟨within, v, h₁, ran, kept, depicts, descends⟩ | refuses
    · have started : h.objects.size + 1 ≤ m.heap.objects.size := before.inside
      have set : _ ∨ _ := run_setField host depth (m := { m with heap := h₁ }) pristine
        (before.keeps kept) rfl absentFirst (depicts.earlier started)
        fun p hp => (descends p hp).earlier started
      rcases set with ⟨rows₁, h₂, set, filled⟩ | ⟨flat, e, m', set⟩
      · have absentLater : ∀ e ∈ done ++ [f], ∀ g ∈ rest, e.1 ≠ g.1 := by
          intro e he g hg
          rcases List.mem_append.1 he with old | new
          · exact absent e old g (List.mem_cons_of_mem _ hg)
          · rw [List.mem_singleton.1 new]
            exact others g hg
        have step : (marshalFields levels h.objects.size (f :: rest)).run (callAt host depth) m =
            (marshalFields levels h.objects.size rest).run (callAt host depth)
              { m with heap := h₂ } := by
          simp only [marshalFields, Computation.run_bind, ran]
          rw [Conversion.run_ofScript set]
        rcases ih (m := { m with heap := h₂ }) later absentLater distinctLater filled with
          ⟨withinRest, rows', h', ranRest, filledRest⟩ | refuses
        · left
          refine ⟨List.forall_mem_cons.2 ⟨within, withinRest⟩, rows', h', step.trans ranRest, ?_⟩
          rwa [List.append_assoc] at filledRest
        · right
          exact refuses.ends List.exists_mem_cons_of_exists fun e m' failed => step.trans failed
      · right
        refine ⟨.engine (.halted e), m', ?_, .inl flat⟩
        simp only [marshalFields, Computation.run_bind, ran, Conversion.run_ofScript_of_error set]
    · right
      refine refuses.ends (fun deep => ⟨f, List.mem_cons_self .., deep⟩) fun e m' failed => ?_
      simp only [marshalFields, Computation.run_bind, failed]

end Loops

section Settling

variable {host : Host} {depth : Nat} {j : Json}

/-- A document without parts becomes a value that is no object, if there is a level left. -/
theorem settlesWithParents_leaf {v : Value} (leaf : ∀ n k, j.NodeAt n k → n = 0)
    (ran : ∀ levels, marshalAt (levels + 1) j = pure v)
    (depicts : ∀ (h : Heap) (start : Nat), h.Depicts start v j.echo) (simple : ∀ r, v ≠ .object r)
    (levels : Nat) : j.SettlesWithParents host depth levels := by
  intro m _
  cases levels with
  | zero =>
    right
    exact ⟨.tooDeep, m, by rw [marshalAt_zero]; rfl, .inr ⟨rfl, not_within_zero⟩⟩
  | succ levels =>
    left
    refine ⟨within_leaf leaf levels, v, m.heap, ?_, .refl, depicts _ _,
      fun r object => absurd object (simple r)⟩
    rw [ran]
    rfl

theorem settlesWithParents_arr {items : List Json} (short : items.length ≤ maxLength)
    (settles : ∀ j ∈ items, ∀ levels, j.SettlesWithParents host depth levels) (levels : Nat) :
    (Json.arr items).SettlesWithParents host depth levels := by
  intro m pristine
  cases levels with
  | zero =>
    right
    exact ⟨.tooDeep, m, rfl, .inr ⟨rfl, not_within_zero⟩⟩
  | succ levels =>
    have unfolded : marshalAt (levels + 1) (.arr items) =
        marshalItems levels items >>= fun vs => Conversion.ofScript (newList vs) := rfl
    rw [unfolded, within_arr]
    rcases run_marshalItems_echo host depth (fun j hj => settles j hj levels) pristine with
      ⟨within, rows, h₁, ran, listed, kept, depicts⟩ | refuses
    · left
      have object := h₁.object_allocate_self (listObject (rows.map Prod.fst))
      have inside : h₁.objects.size < (h₁.allocate (listObject (rows.map Prod.fst))).2.objects.size := by
        rw [h₁.size_allocate]
        exact Nat.lt_succ_self _
      have allocated : Heap.Keeps m.heap.objects.size h₁
          (h₁.allocate (listObject (rows.map Prod.fst))).2 := .allocate _
      have length : rows.length ≤ maxLength := by
        have same := congrArg List.length listed
        rw [echoItems_eq_map, List.length_map, List.length_map] at same
        omega
      refine ⟨within, .object h₁.objects.size, (h₁.allocate (listObject (rows.map Prod.fst))).2, ?_,
        kept.trans (.allocate _), ?_, ?_⟩
      · simp only [Computation.run_bind, ran]
        exact run_newList _ _ _
      · rw [echo, ← listed]
        exact .arr kept.size inside object length fun e he => (depicts e he).keeps allocated
      · rintro r ⟨⟩
        exact .list kept.size inside object
    · right
      refine refuses.ends ?_ fun e m' failed => ?_
      · rintro ⟨k, hk, deep⟩ within
        exact deep (within k hk)
      · simp only [Computation.run_bind, failed]

theorem settlesWithParents_obj {fields : List (String × Json)}
    (increasing : keysIncreasing fields = true) (whole : ∀ f ∈ fields, documentKey f.1 = f.1)
    (settles : ∀ f ∈ fields, ∀ levels, f.2.SettlesWithParents host depth levels) (levels : Nat) :
    (Json.obj fields).SettlesWithParents host depth levels := by
  intro m pristine
  cases levels with
  | zero =>
    right
    exact ⟨.tooDeep, m, rfl, .inr ⟨rfl, not_within_zero⟩⟩
  | succ levels =>
    have unfolded : marshalAt (levels + 1) (.obj fields) =
        Conversion.ofScript newObject >>= fun r =>
          marshalFields levels r fields >>= fun _ => pure (.object r) := rfl
    rw [unfolded, within_obj]
    rcases run_marshalFields_echo host depth
      (m := { m with heap := (m.heap.allocate (recordObject [])).2 })
      (fun f hf => settles f hf levels) pristine (List.forall_mem_nil _)
      (distinct_of_increasing increasing) .start with
      ⟨within, rows, h', ran, filled⟩ | refuses
    · left
      rw [List.nil_append] at filled
      have wholeRows : ∀ e ∈ rows, documentKey e.1 = e.1 := by
        intro e he
        obtain ⟨f, hf, same⟩ := filled.named he
        exact same ▸ whole f hf
      refine ⟨within, .object m.heap.objects.size, h', ?_, filled.kept, ?_, ?_⟩
      · simp only [Computation.run_bind, run_newObject, ran, Computation.run_pure]
      · rw [echo, ← filled.echoes]
        refine .obj (Nat.le_refl _) filled.inside filled.lists (.refl _) ?_ wholeRows
          fun e he => (filled.fields e he).earlier (Nat.le_succ _)
        rw [filled.echoes]
        exact keysIncreasing_echoFields increasing
      · rintro r ⟨⟩
        exact filled.inherits.descends filled.inside filled.lists (Nat.le_refl _)
    · right
      refine refuses.ends ?_ fun e m' failed => ?_
      · rintro ⟨f, hf, deep⟩ within
        exact deep (within f hf)
      · simp only [Computation.run_bind, run_newObject, failed]

variable (host depth) in
/-- Each document of the host becomes a value that depicts what comes back, unless it lies too deep or
no more calls can be made. -/
theorem settlesWithParents (hosts : j.Nodes IsHosts) (whole : j.Nodes WholeKeys) (levels : Nat) :
    j.SettlesWithParents host depth levels := by
  induction j using induct generalizing levels with
  | null =>
    exact settlesWithParents_leaf (by rintro n k ⟨⟩; rfl) (fun _ => rfl) (fun _ _ => .null)
      (by rintro r ⟨⟩) levels
  | bool b =>
    exact settlesWithParents_leaf (by rintro n k ⟨⟩; rfl) (fun _ => rfl) (fun _ _ => .bool b)
      (by rintro r ⟨⟩) levels
  | int n =>
    exact settlesWithParents_leaf (by rintro n k ⟨⟩; rfl) (fun _ => rfl) (fun _ _ => .number _)
      (by rintro r ⟨⟩) levels
  | double d =>
    exact settlesWithParents_leaf (by rintro n k ⟨⟩; rfl) (fun _ => rfl) (fun _ _ => .number d)
      (by rintro r ⟨⟩) levels
  | str s =>
    exact settlesWithParents_leaf (by rintro n k ⟨⟩; rfl) (fun _ => rfl) (fun _ _ => .string _ s rfl)
      (by rintro r ⟨⟩) levels
  | arr items ih =>
    exact settlesWithParents_arr hosts.root
      (fun j hj levels => ih j hj (hosts.item hj) (whole.item hj) levels) levels
  | obj fields ih =>
    exact settlesWithParents_obj hosts.root whole.root
      (fun f hf levels => ih f hf (hosts.field hf) (whole.field hf) levels) levels

end Settling

end Json

end ScriptHost
