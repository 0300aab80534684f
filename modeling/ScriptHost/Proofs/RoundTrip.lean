import ScriptHost.Conversion.Marshal
import ScriptHost.Proofs.Depicts

/-!
# From documents to values and back

* `Heap.Recorded`: a heap on which a new record is being filled;
* `Json.Marshals`: whether a document becomes a new value in its form;
* `Json.marshals_of_within`, `Json.overflows_of_not_within`: it does just as far as no node lies
  too deep;
* `Json.RoundTrip`, `roundTrip`: what becomes of a document that goes to a script and back.
-/

namespace ScriptHost

/-! ### What stays -/

namespace Heap

variable {h h' h'' : Heap}

/-- The heap lets an object take the keys of a document's object for its own. -/
def SettableKeys (h : Heap) : Json → Prop
  | .obj fields => ∀ f ∈ fields, h.Settable f.1
  | _ => True

theorem Grounded.keeps (ground : h.Grounded) (kept : Keeps 0 h h') : h'.Grounded where
  size := Nat.lt_of_lt_of_le ground.size kept.size
  global := by rw [kept.object _ (Nat.zero_le _) ground.size, ground.global]
  base := by rw [kept.object _ (Nat.zero_le _) ground.base_inside, ground.base]
  top := by rw [kept.object _ (Nat.zero_le _) ground.base_inside, ground.top]

theorem Settable.keeps {key : Key} (settable : h.Settable key) (ground : h.Grounded)
    (kept : Keeps 0 h h') : h'.Settable key := by
  intro p own
  rw [kept.object _ (Nat.zero_le _) ground.base_inside, h'.own?_of_plain ground.base,
    ← h.own?_of_plain ground.base] at own
  exact settable p own

theorem SettableKeys.keeps {j : Json} (settable : h.SettableKeys j) (ground : h.Grounded)
    (kept : Keeps 0 h h') : h'.SettableKeys j := by
  cases j with
  | obj fields => exact fun f hf => (settable f hf).keeps ground kept
  | _ => trivial

/-- The heap that everything is built on lets an object take any keys. -/
theorem settableKeys_bare (j : Json) : Heap.bare.SettableKeys j := by
  have none (key : Key) : Heap.bare.own? (Heap.bare.object Family.object.prototype) key = none := by
    rw [Heap.own?_of_plain _ rfl, Object.stored?_of_no_elements _ _ rfl]
    rfl
  cases j with
  | obj fields =>
    rintro f _ p own
    rw [none] at own
    cases own
  | _ => trivial

/-! ### New records -/

/-- A heap that has come from another one by a new record with some fields, whose values lie after
it. -/
structure Recorded (h : Heap) (rows : List (String × Value × Json)) (h' : Heap) : Prop where
  kept : Keeps 0 h h'
  inside : h.objects.size < h'.objects.size
  object : h'.object h.objects.size = recordObject (rows.map fun e => (e.1, e.2.1))
  fields : ∀ e ∈ rows, h'.Shows (h.objects.size + 1) e.2.1 e.2.2

namespace Recorded

variable {rows : List (String × Value × Json)}

theorem start : h.Recorded [] (h.allocate (recordObject [])).2 where
  kept := .allocate _
  inside := by
    rw [h.size_allocate]
    exact Nat.lt_succ_self _
  object := h.object_allocate_self _
  fields _ he := nomatch he

theorem keeps (recorded : h.Recorded rows h') (kept : Keeps 0 h' h'') : h.Recorded rows h'' where
  kept := recorded.kept.trans kept
  inside := Nat.lt_of_lt_of_le recorded.inside kept.size
  object := (kept.object _ (Nat.zero_le _) recorded.inside).trans recorded.object
  fields e he := (recorded.fields e he).keeps (kept.later (Nat.zero_le _))

/-- A field under a new name comes last. -/
theorem put (recorded : h.Recorded rows h') {name : String} {v : Value} {j : Json}
    (absent : h'.own? (h'.object h.objects.size) (Key.named name) = none)
    (shows : h'.Shows (h.objects.size + 1) v j) :
    h.Recorded (rows ++ [(name, v, j)])
      (h'.modify h.objects.size fun o => o.put (Key.named name) (.plain v)) where
  kept := {
    size := by
      rw [h'.size_modify]
      exact recorded.kept.size
    object := fun r _ inside => by
      rw [h'.object_modify_of_ne (Nat.ne_of_lt inside)]
      exact recorded.kept.object r (Nat.zero_le _) inside }
  inside := by
    rw [h'.size_modify]
    exact recorded.inside
  object := by
    rw [recorded.object, h'.own?_of_plain rfl, Object.stored?_of_no_elements _ _ rfl] at absent
    rw [h'.object_modify_self recorded.inside, recorded.object,
      Object.put_of_no_items _ _ _ (Object.hasItems_of_plain rfl) rfl, putIn_of_lookup_none absent]
    simp [recordObject]
  fields e he := by
    have kept : Keeps (h.objects.size + 1) h'
        (h'.modify h.objects.size fun o => o.put (Key.named name) (.plain v)) :=
      .modify (Nat.lt_succ_self _) _
    rcases List.mem_append.1 he with old | new
    · exact (recorded.fields e old).keeps kept
    · rw [List.mem_singleton.1 new]
      exact shows.keeps kept

end Recorded

end Heap

/-! ### Documents that become values -/

theorem Conversion.run_ofScript {α : Type} {s : Script α} {apply : Apply} {m m' : Machine} {a : α}
    (ok : s.run apply m = .ok a m') : (Conversion.ofScript s).run apply m = .ok a m' := by
  rw [Conversion.ofScript, Computation.run_sequel, ok]
  rfl

theorem run_newList (items : List Value) (apply : Apply) (m : Machine) :
    (Conversion.ofScript (newList items)).run apply m =
      .ok (.object m.heap.objects.size)
        { m with heap := (m.heap.allocate (listObject items)).2 } := by
  have made : { kind := .array (items.map some).toArray.size false
                prototype := some Family.array.prototype
                elements := (items.map some).toArray.map fun v => v.map Property.plain } =
      listObject items := by
    simp [listObject, Function.comp_def]
  refine Conversion.run_ofScript ?_
  simp only [newList, newArray, allocate, Computation.run_bind, Computation.run_look,
    Computation.run_change, Computation.run_pure, Change.apply, Look.ask, made]

theorem run_newObject (apply : Apply) (m : Machine) :
    (Conversion.ofScript newObject).run apply m =
      .ok m.heap.objects.size { m with heap := (m.heap.allocate (recordObject [])).2 } := rfl

namespace Json

/-- A document that becomes, with so many levels, a new value in its form, or that lies too deep for
them. -/
def Settles (levels : Nat) (j : Json) : Prop :=
  ∀ (apply : Apply) (m : Machine), m.heap.Grounded → j.Nodes m.heap.SettableKeys →
    (j.Within levels ∧ ∃ (v : Value) (h' : Heap),
      (marshalAt levels j).run apply m = .ok v { m with heap := h' } ∧
        Heap.Keeps 0 m.heap h' ∧ h'.Shows m.heap.objects.size v j) ∨
    (¬ j.Within levels ∧ ∃ m', (marshalAt levels j).run apply m = .error .tooDeep m')

theorem marshalAt_zero (j : Json) : marshalAt 0 j = throw .tooDeep := by
  cases j <;> rfl

section Loops

variable {levels : Nat} (apply : Apply) {m : Machine}

/-- Items become values one after another, up to the first that lies too deep. -/
theorem run_marshalItems {items : List Json} (settles : ∀ j ∈ items, j.Settles levels)
    (ground : m.heap.Grounded) (settable : ∀ j ∈ items, j.Nodes m.heap.SettableKeys) :
    ((∀ j ∈ items, j.Within levels) ∧ ∃ (rows : List (Value × Json)) (h' : Heap),
      (marshalItems levels items).run apply m = .ok (rows.map Prod.fst) { m with heap := h' } ∧
        rows.map Prod.snd = items ∧ Heap.Keeps 0 m.heap h' ∧
          ∀ e ∈ rows, h'.Shows m.heap.objects.size e.1 e.2) ∨
    ((∃ j ∈ items, ¬ j.Within levels) ∧
      ∃ m', (marshalItems levels items).run apply m = .error .tooDeep m') := by
  induction items generalizing m with
  | nil =>
    left
    exact ⟨List.forall_mem_nil _, [], m.heap, rfl, rfl, .refl, List.forall_mem_nil _⟩
  | cons j rest ih =>
    obtain ⟨first, later⟩ := List.forall_mem_cons.1 settles
    obtain ⟨settableFirst, settableLater⟩ := List.forall_mem_cons.1 settable
    rcases first apply m ground settableFirst with ⟨within, v, h₁, ran, kept, shows⟩ | ⟨deep, m', ran⟩
    · rcases ih (m := { m with heap := h₁ }) later (ground.keeps kept)
        (fun j hj n k below => (settableLater j hj n k below).keeps ground kept) with
        ⟨withinRest, rows, h₂, ranRest, listed, keptRest, showsRest⟩ | ⟨⟨k, hk, deep⟩, m', ranRest⟩
      · left
        refine ⟨List.forall_mem_cons.2 ⟨within, withinRest⟩, (v, j) :: rows, h₂, ?_,
          by rw [List.map_cons, listed], kept.trans keptRest, fun e he => ?_⟩
        · simp only [marshalItems, Computation.run_bind, ran, ranRest, Computation.run_pure]
          rfl
        · rcases List.mem_cons.1 he with rfl | old
          · exact shows.keeps (keptRest.later (Nat.zero_le _))
          · exact (showsRest e old).earlier kept.size
      · right
        refine ⟨⟨k, List.mem_cons_of_mem _ hk, deep⟩, m', ?_⟩
        simp only [marshalItems, Computation.run_bind, ran, ranRest]
    · right
      refine ⟨⟨j, List.mem_cons_self .., deep⟩, m', ?_⟩
      simp only [marshalItems, Computation.run_bind, ran]

variable {h : Heap}

/-- One field of a record.  The others go on from the heap where it has that field. -/
theorem run_marshalField {done : List (String × Value × Json)} {f : String × Json}
    (rest : List (String × Json))
    (settles : f.2.Settles levels) (ground : h.Grounded) (settable : h.Settable f.1)
    (settableBelow : f.2.Nodes h.SettableKeys) (absent : ∀ e ∈ done, e.1 ≠ f.1)
    (before : h.Recorded done m.heap) :
    (f.2.Within levels ∧ ∃ (v : Value) (h' : Heap),
      (marshalFields levels h.objects.size (f :: rest)).run apply m =
        (marshalFields levels h.objects.size rest).run apply { m with heap := h' } ∧
          h.Recorded (done ++ [(f.1, v, f.2)]) h') ∨
    (¬ f.2.Within levels ∧
      ∃ m', (marshalFields levels h.objects.size (f :: rest)).run apply m = .error .tooDeep m') := by
  rcases settles apply m (ground.keeps before.kept)
    (fun n k below => (settableBelow n k below).keeps ground before.kept) with
    ⟨within, v, h₁, ran, kept, shows⟩ | ⟨deep, m', ran⟩
  · have between := before.keeps kept
    have object := between.object
    have own : h₁.own? (h₁.object h.objects.size) (Key.named f.1) = none := by
      rw [object]
      refine Heap.own?_of_lists_of_absent (Object.lists_recordObject _) fun g hg => ?_
      obtain ⟨e, he, rfl⟩ := List.mem_map.1 hg
      exact absent e he
    have set := Conversion.run_ofScript (Heap.run_setProperty apply (m := { m with heap := h₁ }) rfl
      (ground.keeps between.kept) (settable.keeps ground between.kept)
      (by rw [object]; rfl) own (by rw [object]; rfl) (by rw [object]; rfl) v)
    left
    refine ⟨within, v, _, ?_, between.put own (shows.earlier before.inside)⟩
    simp only [marshalFields, Computation.run_bind, ran]
    rw [set]
  · right
    refine ⟨deep, m', ?_⟩
    simp only [marshalFields, Computation.run_bind, ran]

/-- Fields come to the record one after another, up to the first that lies too deep. -/
theorem run_marshalFields (done : List (String × Value × Json)) {fields : List (String × Json)}
    (settles : ∀ f ∈ fields, f.2.Settles levels) (ground : h.Grounded)
    (settable : ∀ f ∈ fields, h.Settable f.1)
    (settableBelow : ∀ f ∈ fields, f.2.Nodes h.SettableKeys)
    (absent : ∀ e ∈ done, ∀ f ∈ fields, e.1 ≠ f.1)
    (distinct : fields.Pairwise fun a b => a.1 ≠ b.1) (before : h.Recorded done m.heap) :
    ((∀ f ∈ fields, f.2.Within levels) ∧
      ∃ (rows : List (String × Value × Json)) (h' : Heap),
        (marshalFields levels h.objects.size fields).run apply m = .ok () { m with heap := h' } ∧
          (rows.map fun e => (e.1, e.2.2)) = fields ∧ h.Recorded (done ++ rows) h') ∨
    ((∃ f ∈ fields, ¬ f.2.Within levels) ∧
      ∃ m', (marshalFields levels h.objects.size fields).run apply m = .error .tooDeep m') := by
  induction fields generalizing done m with
  | nil =>
    left
    exact ⟨List.forall_mem_nil _, [], m.heap, rfl, rfl, by rwa [List.append_nil]⟩
  | cons f rest ih =>
    obtain ⟨first, later⟩ := List.forall_mem_cons.1 settles
    obtain ⟨settableFirst, settableLater⟩ := List.forall_mem_cons.1 settable
    obtain ⟨belowFirst, belowLater⟩ := List.forall_mem_cons.1 settableBelow
    obtain ⟨others, distinctLater⟩ := List.pairwise_cons.1 distinct
    rcases run_marshalField apply rest first ground settableFirst belowFirst
      (fun e he => absent e he f (List.mem_cons_self ..)) before with
      ⟨within, v, h₁, ran, recorded⟩ | ⟨deep, m', ran⟩
    · have absentLater : ∀ e ∈ done ++ [(f.1, v, f.2)], ∀ g ∈ rest, e.1 ≠ g.1 := by
        intro e he g hg
        rcases List.mem_append.1 he with old | new
        · exact absent e old g (List.mem_cons_of_mem _ hg)
        · rw [List.mem_singleton.1 new]
          exact others g hg
      rcases ih (m := { m with heap := h₁ }) _ later settableLater belowLater absentLater distinctLater
        recorded with ⟨withinRest, rows, h₂, ranRest, listed, recordedRest⟩ | ⟨⟨g, hg, deep⟩, m', ranRest⟩
      · left
        refine ⟨List.forall_mem_cons.2 ⟨within, withinRest⟩, (f.1, v, f.2) :: rows, h₂,
          ran.trans ranRest, by rw [List.map_cons, listed], ?_⟩
        rwa [List.append_assoc] at recordedRest
      · right
        exact ⟨⟨g, List.mem_cons_of_mem _ hg, deep⟩, m', ran.trans ranRest⟩
    · right
      exact ⟨⟨f, List.mem_cons_self .., deep⟩, m', ran⟩

end Loops

/-- A document without parts becomes a value at once, if there is a level left. -/
theorem settles_leaf {j : Json} {v : Value} (leaf : ∀ n k, j.NodeAt n k → n = 0)
    (ran : ∀ levels, marshalAt (levels + 1) j = pure v)
    (shows : ∀ (h : Heap) (start : Nat), h.Shows start v j) (levels : Nat) : j.Settles levels := by
  intro apply m _ _
  cases levels with
  | zero =>
    right
    exact ⟨not_within_zero, m, by rw [marshalAt_zero]; rfl⟩
  | succ levels =>
    left
    refine ⟨fun n k below => leaf n k below ▸ Nat.succ_pos _, v, m.heap, ?_, .refl, shows _ _⟩
    rw [ran]
    rfl

/-- Each document of the host becomes a value in its form, unless it lies too deep. -/
theorem settles {j : Json} (hosts : j.Nodes IsHosts) (levels : Nat) : j.Settles levels := by
  induction j using induct generalizing levels with
  | null => exact settles_leaf (by rintro n k ⟨⟩; rfl) (fun _ => rfl) (fun _ _ => .null) levels
  | bool b => exact settles_leaf (by rintro n k ⟨⟩; rfl) (fun _ => rfl) (fun _ _ => .bool b) levels
  | int n => exact settles_leaf (by rintro n k ⟨⟩; rfl) (fun _ => rfl) (fun _ _ => .int n) levels
  | double d =>
    exact settles_leaf (by rintro n k ⟨⟩; rfl) (fun _ => rfl) (fun _ _ => .double d) levels
  | str s => exact settles_leaf (by rintro n k ⟨⟩; rfl) (fun _ => rfl) (fun _ _ => .str s) levels
  | arr items ih =>
    intro apply m ground settable
    cases levels with
    | zero =>
      right
      exact ⟨not_within_zero, m, rfl⟩
    | succ levels =>
      have unfolded : marshalAt (levels + 1) (.arr items) =
          marshalItems levels items >>= fun vs => Conversion.ofScript (newList vs) := rfl
      rw [unfolded, within_arr]
      rcases run_marshalItems apply (fun j hj => ih j hj (hosts.item hj) levels) ground
        (fun j hj => settable.item hj) with
        ⟨within, rows, h₁, ran, rfl, kept, shows⟩ | ⟨⟨k, hk, deep⟩, m', ran⟩
      · left
        have allocated : Heap.Keeps m.heap.objects.size h₁
            (h₁.allocate (listObject (rows.map Prod.fst))).2 := .allocate _
        refine ⟨within, .object h₁.objects.size, _, ?_, kept.trans (.allocate _),
          .arr kept.size ?_ (h₁.object_allocate_self _) fun e he => (shows e he).keeps allocated⟩
        · simp only [Computation.run_bind, ran]
          exact run_newList _ _ _
        · rw [h₁.size_allocate]
          exact Nat.lt_succ_self _
      · right
        refine ⟨fun within => deep (within k hk), m', ?_⟩
        simp only [Computation.run_bind, ran]
  | obj fields ih =>
    intro apply m ground settable
    cases levels with
    | zero =>
      right
      exact ⟨not_within_zero, m, rfl⟩
    | succ levels =>
      have unfolded : marshalAt (levels + 1) (.obj fields) =
          Conversion.ofScript newObject >>= fun r =>
            marshalFields levels r fields >>= fun _ => pure (.object r) := rfl
      rw [unfolded, within_obj]
      have distinct := distinct_of_increasing hosts.root
      rcases run_marshalFields apply [] (m := { m with heap := (m.heap.allocate (recordObject [])).2 })
        (fun f hf => ih f hf (hosts.field hf) levels) ground (fun f hf => settable.root f hf)
        (fun f hf => settable.field hf) (List.forall_mem_nil _) distinct .start with
        ⟨within, rows, h₁, ran, rfl, recorded⟩ | ⟨⟨k, hk, deep⟩, m', ran⟩
      · left
        rw [List.nil_append] at recorded
        refine ⟨within, .object m.heap.objects.size, h₁, ?_, recorded.kept,
          .obj (Nat.le_refl _) recorded.inside recorded.object fun e he =>
            (recorded.fields e he).earlier (Nat.le_succ _)⟩
        simp only [Computation.run_bind, run_newObject, ran, Computation.run_pure]
      · right
        refine ⟨fun within => deep (within k hk), m', ?_⟩
        simp only [Computation.run_bind, run_newObject, ran]

/-! ### The way back -/

/-- What becomes of a document that goes from a machine to a script and back. -/
structure RoundTrip (apply : Apply) (m : Machine) (j : Json) : Prop where
  /-- It becomes a value just if none of its nodes lies too many levels below the root. -/
  given : (∃ v m', (marshal j).run apply m = .ok v m') ↔ ∀ n k, j.NodeAt n k → n ≤ maxDepth
  /-- If one does, this is what is complained of. -/
  tooDeep : ∀ n k, j.NodeAt n k → maxDepth < n →
    ∃ m', (marshal j).run apply m = .error .tooDeep m'
  /-- The value becomes the document again, with its numbers as scripts hold them, under every budget
  without a deadline that has room for the walk. -/
  back : ∀ v m', (marshal j).run apply m = .ok v m' → ∀ (again : Apply) (budget : Budget),
    budget.deadline = none → j.walkCost ≤ budget.maxBytes →
      ∃ clock, (dump budget v).run again m' = .ok j.norm { m' with clock }
  /-- Under a smaller one it is too large, as far as bytes are counted. -/
  tooLarge : ∀ v m', (marshal j).run apply m = .ok v m' → ∀ (again : Apply) (budget : Budget),
    budget.deadline = none → budget.maxBytes < maxCount → budget.maxBytes < j.walkCost →
      ∃ m'', (dump budget v).run again m' = .error (.tooLarge budget.maxBytes) m''
  /-- Another way to a script and back leaves the numbers as they are. -/
  settled : j.norm.norm = j.norm

theorem within_maxDepth {j : Json} :
    j.Within (maxDepth + 1) ↔ ∀ n k, j.NodeAt n k → n ≤ maxDepth :=
  forall₂_congr fun _ _ => forall_congr' fun _ => Nat.lt_succ_iff

/-- What becomes of a document of the host, if its keys make properties of their own and are taken
as they are. -/
theorem roundTrip {j : Json} (apply : Apply) {m : Machine} (ground : m.heap.Grounded)
    (settable : j.Nodes m.heap.SettableKeys) (hosts : j.Nodes IsHosts) (whole : j.Nodes WholeKeys) :
    j.RoundTrip apply m := by
  rcases settles hosts (maxDepth + 1) apply m ground settable with
    ⟨within, v, h', ran, kept, shows⟩ | ⟨deep, m', ran⟩
  · have shallow := within_maxDepth.1 within
    have makes (budget : Budget) (timeless : budget.deadline = none) :=
      shows.makes timeless hosts whole within
    exact {
      given := ⟨fun _ => shallow, fun _ => ⟨v, _, ran⟩⟩
      tooDeep := fun n k below deep => absurd (shallow n k below) (Nat.not_le_of_lt deep)
      back := fun w m' ran' again budget timeless room => by
        cases ran.symm.trans ran'
        exact (run_dump_of_makes (makes budget timeless) again).1 room
      tooLarge := fun w m' ran' again budget timeless counted beyond => by
        cases ran.symm.trans ran'
        exact (run_dump_of_makes (makes budget timeless) again).2 counted beyond
      settled := j.norm_norm }
  · exact {
      given := ⟨fun ⟨w, m₁, ran'⟩ => (by cases ran.symm.trans ran'),
        fun shallow => absurd (within_maxDepth.2 shallow) deep⟩
      tooDeep := fun _ _ _ _ => ⟨m', ran⟩
      back := fun w m₁ ran' => by cases ran.symm.trans ran'
      tooLarge := fun w m₁ ran' => by cases ran.symm.trans ran'
      settled := j.norm_norm }

/-- A machine with the heap that everything is built on. -/
def bareMachine : Machine where
  heap := .bare
  backend := .empty
  logs := {}

/-- A document with an integer that no script can hold, and a double that scripts hold as a whole
number. -/
def numbersDocument : Json :=
  .obj [("10", .int (twoTo 53 + 1)), ("9", .arr [.double (.ofInt 2), .str "two"])]

/-- What becomes of that document.  Scripts list its keys the other way round. -/
theorem roundTrip_numbersDocument :
    bareMachine.heap.Grounded ∧ numbersDocument.Nodes bareMachine.heap.SettableKeys ∧
      numbersDocument.Nodes IsHosts ∧ numbersDocument.Nodes WholeKeys ∧
        numbersDocument.RoundTrip .none bareMachine := by
  have ground : bareMachine.heap.Grounded := Heap.grounded_bare
  have nodes {p : Json → Prop} (root : p numbersDocument) (long : p (.int (twoTo 53 + 1)))
      (list : p (.arr [.double (.ofInt 2), .str "two"])) (two : p (.double (.ofInt 2)))
      (text : p (.str "two")) : numbersDocument.Nodes p := by
    rintro n k (_ | _ | ⟨member, below⟩)
    · exact root
    · rcases List.mem_cons.1 member with rfl | member
      · cases below
        exact long
      · obtain rfl := List.mem_singleton.1 member
        rcases below with _ | ⟨member, below⟩
        · exact list
        · rcases List.mem_cons.1 member with rfl | member
          · cases below
            exact two
          · obtain rfl := List.mem_singleton.1 member
            cases below
            exact text
  have settable : numbersDocument.Nodes bareMachine.heap.SettableKeys :=
    fun _ k _ => Heap.settableKeys_bare k
  have hosts : numbersDocument.Nodes IsHosts :=
    nodes (show keysIncreasing _ = true by decide)
      (show -(twoTo 63 : Int) ≤ twoTo 53 + 1 ∧ (twoTo 53 + 1 : Int) < twoTo 64 by decide)
      (show 2 ≤ maxLength by decide) (show (Double.ofInt 2).isFinite = true by decide +kernel)
      trivial
  have whole : numbersDocument.Nodes WholeKeys :=
    nodes (List.forall_mem_cons.2 ⟨by decide, List.forall_mem_singleton.2 (by decide)⟩)
      trivial trivial trivial trivial
  exact ⟨ground, settable, hosts, whole, roundTrip .none ground settable hosts whole⟩

end Json

end ScriptHost
