import ScriptHost.Proofs.Dispatch
import ScriptHost.Proofs.Shows
import ScriptHost.Proofs.Walk

/-!
# Which values arguments come from

Arguments are read from left to right, each at its place among the values of a call.

* `convertArgument_eq_of_head?`: all types but the one that takes the rest look at one value;
* `Computation.Fixed`, `fixed_convertArgument`: what is read of a value that is no object;
* `place_of_convertArguments`: what is read at a place, and on which machine;
* `convertArguments_error_iff`: the place at which arguments cannot be read;
* `sameButClock_padded`: undefined values behind all others;
* `LinesUp`, `linesUp`: how the arguments of a call come about;
* `reading_moves_list`: reading an argument can change a later one.
-/

namespace ScriptHost

/-! ### Single arguments -/

/-- What is read for a type where no value is left. -/
def ArgumentType.absent : ArgumentType → Argument
  | .string => .text none
  | .number => .number none
  | .genericValue => .document .null
  | .entityRefList => .refs []
  | .restStrings => .strings []

/-- Nothing is given at a place of a call: there is no value, or one that stands for none. -/
def Missing (values : List Value) (i : Nat) : Prop :=
  values[i]? = none ∨ values[i]? = some .undefined ∨ values[i]? = some .null

/-- A run ends as another one does, except that the clock may have run on. -/
def SameButClock {ε α : Type} (r r' : EStateM.Result ε Machine α) : Prop :=
  match r with
  | .ok a m => ∃ clock, r' = .ok a { m with clock }
  | .error e m => r' = .error e m

namespace SameButClock

variable {ε α β : Type} {apply : Apply} {m : Machine}

theorem bind {x : Computation ε α} {next next' : α → Computation ε β}
    (same : ∀ a m₁, x.run apply m = .ok a m₁ →
      SameButClock ((next a).run apply m₁) ((next' a).run apply m₁)) :
    SameButClock ((x >>= next).run apply m) ((x >>= next').run apply m) := by
  rw [Computation.run_bind, Computation.run_bind]
  cases ran : x.run apply m with
  | ok a m₁ => exact same a m₁ ran
  | error e m₁ => rfl

theorem map {x x' : Computation ε α} (same : SameButClock (x.run apply m) (x'.run apply m))
    (f : α → β) :
    SameButClock ((x >>= fun a => pure (f a)).run apply m)
      ((x' >>= fun a => pure (f a)).run apply m) := by
  rw [Computation.run_bind, Computation.run_bind]
  cases ran : x.run apply m with
  | ok a m₁ =>
    rw [ran] at same
    obtain ⟨clock, ran'⟩ := same
    exact ⟨clock, by rw [ran']; rfl⟩
  | error e m₁ =>
    rw [ran] at same
    have ran' : x'.run apply m = .error e m₁ := same
    rw [ran']
    rfl

end SameButClock

section Single

variable {budget : Budget} {apply : Apply} {m m' : Machine} {type : ArgumentType}
  {values : List Value}

theorem convertArgument_nil (budget : Budget) (type : ArgumentType) :
    convertArgument budget type [] = pure type.absent := by
  cases type <;> rfl

/-- All types but the last look at one value. -/
theorem convertArgument_eq_of_head? (budget : Budget) (single : type ≠ .restStrings)
    {values' : List Value} (same : values'.head? = values.head?) :
    convertArgument budget type values' = convertArgument budget type values := by
  cases type with
  | restStrings => exact absurd rfl single
  | _ => simp only [convertArgument, same]

theorem convertArgument_drop (budget : Budget) (single : type ≠ .restStrings) {values' : List Value}
    {i : Nat} (same : values'[i]? = values[i]?) :
    convertArgument budget type (values'.drop i) = convertArgument budget type (values.drop i) :=
  convertArgument_eq_of_head? budget single (by rwa [List.head?_drop, List.head?_drop])

/-- A text or a number is missing just if nothing is given for it. -/
theorem isMissing_of_convertArgument (sort : type = .string ∨ type = .number) {i : Nat}
    {a : Argument}
    (ok : (convertArgument budget type (values.drop i)).run apply m = .ok a m') :
    a = type.absent ↔ Missing values i := by
  have given : Missing values i ↔ values[i]?.filter (fun v => !v.isNullish) = none := by
    unfold Missing
    cases values[i]? with
    | none => simp
    | some v => cases v <;> simp [Value.isNullish]
  rw [given]
  rcases sort with rfl | rfl
  all_goals
    simp only [convertArgument, List.head?_drop] at ok
    cases found : values[i]?.filter (fun v => !v.isNullish) with
    | none =>
      rw [found] at ok
      cases ok
      exact ⟨fun _ => rfl, fun _ => rfl⟩
    | some v =>
      rw [found] at ok
      obtain ⟨s, m₁, -, ⟨⟩⟩ := Computation.ok_bind ok
      exact ⟨by rintro ⟨⟩, by rintro ⟨⟩⟩

end Single

/-! ### Values without properties -/

/-- A computation that can give one result only, and leaves everything but the clock as it is. -/
def Computation.Fixed {ε α : Type} (x : Computation ε α) (a : α) : Prop :=
  ∀ apply m b m', x.run apply m = .ok b m' → b = a ∧ ∃ clock, m' = { m with clock }

namespace Computation.Fixed

variable {ε α β : Type}

theorem pure (a : α) : Fixed (pure a : Computation ε α) a := by
  rintro apply m b m' ⟨⟩
  exact ⟨rfl, m.clock, rfl⟩

theorem bind {x : Computation ε α} {next : α → Computation ε β} {a : α} {b : β} (hx : Fixed x a)
    (hnext : Fixed (next a) b) : Fixed (x >>= next) b := by
  intro apply m c m' ok
  obtain ⟨a', m₁, first, rest⟩ := Computation.ok_bind ok
  obtain ⟨rfl, clock, rfl⟩ := hx apply m a' m₁ first
  obtain ⟨rfl, clock', rfl⟩ := hnext apply _ c m' rest
  exact ⟨rfl, clock', rfl⟩

theorem ofScript {s : Script α} {a : α} (hs : Fixed s a) : Fixed (Conversion.ofScript s) a := by
  intro apply m b m' ok
  rw [Conversion.ofScript, Computation.run_sequel] at ok
  cases ran : s.run apply m with
  | ok c m₁ =>
    rw [ran] at ok
    cases ok
    exact hs apply m b m' ran
  | error h m₁ =>
    rw [ran] at ok
    cases ok

/-- A computation that fails gives nothing. -/
theorem fail (e : ε) (a : α) : Fixed (throw e : Computation ε α) a := by
  intro apply m b m' ok
  rw [Computation.run_throw] at ok
  cases ok

theorem throwType (message : String) (a : α) : Fixed (throwType message) a := by
  intro apply m b m' ok
  obtain ⟨r, m₁, -, thrown⟩ := Computation.ok_bind ok
  cases thrown

end Computation.Fixed

section Plain

open ScriptHost.Computation (Fixed)

variable {v : Value}

theorem toPrimitive_of_plain (hint : Hint) (plain : v.ref? = none) :
    toPrimitive hint v = pure v := by
  cases v with
  | object r => cases plain
  | _ => rfl

theorem fixed_primitiveText (v : Value) : ∃ t, Fixed (primitiveText v) t := by
  cases v with
  | symbol s => exact ⟨.unicode "", .throwType _ _⟩
  | _ => exact ⟨_, .pure _⟩

theorem fixed_primitiveNumber (v : Value) : ∃ d, Fixed (primitiveNumber v) d := by
  cases v with
  | symbol s => exact ⟨.nan, .throwType _ _⟩
  | bigint n => exact ⟨.nan, .throwType _ _⟩
  | _ => exact ⟨_, .pure _⟩

theorem fixed_unicode (t : Text) : ∃ s, Fixed (Conversion.unicode t) s := by
  unfold Conversion.unicode
  split
  · exact ⟨_, .pure _⟩
  · exact ⟨"", .fail _ _⟩

/-- The text of a value that is no object. -/
theorem fixed_convertText (plain : v.ref? = none) : ∃ s, Fixed (convertText v) s := by
  obtain ⟨t, text⟩ := fixed_primitiveText v
  obtain ⟨s, unicode⟩ := fixed_unicode t
  have whole : Fixed (toText v) t := by
    rw [toText, toPrimitive_of_plain _ plain, pure_bind]
    exact text
  exact ⟨s, .bind (.ofScript whole) unicode⟩

/-- The number of a value that is no object. -/
theorem fixed_toNumber (plain : v.ref? = none) :
    ∃ d, Fixed (Conversion.ofScript (toNumber v)) d := by
  obtain ⟨d, number⟩ := fixed_primitiveNumber v
  refine ⟨d, .ofScript ?_⟩
  rw [toNumber, toPrimitive_of_plain _ plain, pure_bind]
  exact number

theorem fixed_charge (budget : Budget) (payload : Nat) {p : Payment}
    (blind : (p.visited + 1) % clockStride ≠ 0) :
    Fixed (charge budget payload p)
      ((), ⟨saturatingAdd (saturatingAdd p.spent Json.nodeCost) payload, p.visited + 1⟩) := by
  intro apply m b m' ok
  rw [run_charge_of_blind budget payload apply m blind] at ok
  split at ok
  · cases ok
  · cases ok
    exact ⟨rfl, _, rfl⟩

/-- The walk over a value that is no object. -/
theorem fixed_dumpAt (budget : Budget) (plain : v.ref? = none) :
    ∃ r, Fixed (dumpAt budget (maxDepth + 1) v {}) r := by
  have node := fixed_charge budget 0 (p := {}) (by decide)
  cases v with
  | object r => cases plain
  | string t =>
    cases spelled : t.toUnicode with
    | ok s =>
      have text := fixed_charge budget s.utf8ByteSize
        (p := ⟨saturatingAdd (saturatingAdd 0 Json.nodeCost) 0, 1⟩) (by decide)
      refine ⟨_, node.bind (by
        dsimp only
        rw [spelled]
        exact text.bind (.pure (Json.str s, _)))⟩
    | error i =>
      refine ⟨(.null, {}), node.bind ?_⟩
      dsimp only
      rw [spelled]
      exact .fail _ _
  | _ => exact ⟨_, node.bind (.pure _)⟩

/-- The document of a value that is no object. -/
theorem fixed_dump (budget : Budget) (plain : v.ref? = none) : ∃ j, Fixed (dump budget v) j := by
  obtain ⟨⟨j, p⟩, walk⟩ := fixed_dumpAt budget plain
  refine ⟨j, fun apply m b m' ok => ?_⟩
  rw [run_dump_walk] at ok
  cases ran : (dumpAt budget (maxDepth + 1) v {}).run apply m with
  | ok r m₁ =>
    obtain ⟨rfl, clock, rfl⟩ := walk apply m r m₁ ran
    rw [ran] at ok
    cases ok
    exact ⟨rfl, clock, rfl⟩
  | error e m₁ =>
    rw [ran] at ok
    cases ok

/-- What is read of a value that is no object depends on nothing but the value. -/
theorem fixed_convertArgument (budget : Budget) {type : ArgumentType}
    (single : type ≠ .restStrings) (values : List Value)
    (plain : ∀ v, values.head? = some v → v.ref? = none) :
    ∃ a, Fixed (convertArgument budget type values) a := by
  cases type with
  | restStrings => exact absurd rfl single
  | string =>
    simp only [convertArgument]
    split
    · next v given =>
      obtain ⟨s, text⟩ := fixed_convertText (plain v (Option.filter_eq_some_iff.1 given).1)
      exact ⟨_, text.bind (.pure _)⟩
    · exact ⟨_, .pure _⟩
  | number =>
    simp only [convertArgument]
    split
    · next v given =>
      obtain ⟨d, number⟩ := fixed_toNumber (plain v (Option.filter_eq_some_iff.1 given).1)
      exact ⟨_, number.bind (.pure _)⟩
    · exact ⟨_, .pure _⟩
  | genericValue | entityRefList =>
    simp only [convertArgument]
    split
    · next v given =>
      obtain ⟨j, document⟩ := fixed_dump budget (plain v given)
      exact ⟨_, document.bind (.pure _)⟩
    · exact ⟨_, .pure _⟩

end Plain

/-! ### Rows of arguments -/

section Rows

variable {budget : Budget} {apply : Apply} {m m' : Machine} {types : List ArgumentType}
  {values : List Value} {given : List Argument}

/-- A list around one of its places. -/
theorem eq_take_append_cons_drop {α : Type} {xs : List α} {x : α} {i : Nat} (at_ : xs[i]? = some x) :
    xs = xs.take i ++ x :: xs.drop (i + 1) ∧ (xs.take i).length = i := by
  obtain ⟨inside, rfl⟩ := List.getElem?_eq_some_iff.1 at_
  rw [← List.drop_eq_getElem_cons inside, List.take_append_drop]
  exact ⟨rfl, List.length_take_of_le (Nat.le_of_lt inside)⟩

/-- Texts are read one after the other. -/
theorem convertTexts_append (front rest : List Value) :
    convertTexts (front ++ rest) = do
      let ss ← convertTexts front
      return ss ++ (← convertTexts rest) := by
  induction front with
  | nil => simp [convertTexts]
  | cons v front ih => simp [convertTexts, ih]

/-- Arguments are read one after the other. -/
theorem convertArguments_append (budget : Budget) (front types : List ArgumentType)
    (values : List Value) :
    convertArguments budget (front ++ types) values = do
      let given ← convertArguments budget front values
      return given ++ (← convertArguments budget types (values.drop front.length)) := by
  induction front generalizing values with
  | nil => simp [convertArguments]
  | cons type front ih => simp [convertArguments, ih]

theorem length_of_convertTexts {ss : List String}
    (ok : (convertTexts values).run apply m = .ok ss m') : ss.length = values.length := by
  induction values generalizing ss m with
  | nil =>
    cases ok
    rfl
  | cons v values ih =>
    obtain ⟨s, m₁, -, ok⟩ := Computation.ok_bind ok
    obtain ⟨rest, m₂, later, ⟨⟩⟩ := Computation.ok_bind ok
    simp [ih later]

theorem length_of_convertArguments
    (ok : (convertArguments budget types values).run apply m = .ok given m') :
    given.length = types.length :=
  (hasType_of_convertArguments ok).length_eq

/-- What is read where no value is left. -/
theorem convertArguments_nil (budget : Budget) (types : List ArgumentType) :
    convertArguments budget types [] = pure (types.map ArgumentType.absent) := by
  induction types with
  | nil => rfl
  | cons type types ih =>
    simp only [convertArguments, convertArgument_nil, List.tail_nil, ih, pure_bind, List.map_cons]

/-- A text comes from its place, once those before it are read. -/
theorem place_of_convertTexts {ss : List String} {k : Nat} {v : Value}
    (at_ : values[k]? = some v) (ok : (convertTexts values).run apply m = .ok ss m') :
    ∃ s m₁ m₂, ss[k]? = some s ∧
      (convertTexts (values.take k)).run apply m = .ok (ss.take k) m₁ ∧
      (convertText v).run apply m₁ = .ok s m₂ := by
  obtain ⟨parts, taken⟩ := eq_take_append_cons_drop at_
  rw [parts, convertTexts_append] at ok
  obtain ⟨before, m₁, first, ok⟩ := Computation.ok_bind ok
  obtain ⟨later, m₂, second, ⟨⟩⟩ := Computation.ok_bind ok
  obtain ⟨s, m₃, text, second⟩ := Computation.ok_bind second
  obtain ⟨after, m₄, -, ⟨⟩⟩ := Computation.ok_bind second
  have length : before.length = k := (length_of_convertTexts first).trans taken
  refine ⟨s, m₁, m₃, ?_, ?_, text⟩
  · rw [← length, List.getElem?_append_right (Nat.le_refl _), Nat.sub_self]
    rfl
  · rw [← length, List.take_left, length]
    exact first

/-- An argument comes from its place, once those before it are read, and the others after it. -/
theorem place_of_convertArguments {i : Nat} {type : ArgumentType} (at_ : types[i]? = some type)
    (ok : (convertArguments budget types values).run apply m = .ok given m') :
    ∃ a m₁ m₂, given[i]? = some a ∧
      (convertArguments budget (types.take i) values).run apply m = .ok (given.take i) m₁ ∧
      (convertArgument budget type (values.drop i)).run apply m₁ = .ok a m₂ ∧
      (convertArguments budget (types.drop (i + 1)) (values.drop (i + 1))).run apply m₂ =
        .ok (given.drop (i + 1)) m' := by
  obtain ⟨parts, taken⟩ := eq_take_append_cons_drop at_
  rw [parts, convertArguments_append, taken] at ok
  obtain ⟨before, m₁, first, ok⟩ := Computation.ok_bind ok
  obtain ⟨later, m₂, second, ⟨⟩⟩ := Computation.ok_bind ok
  obtain ⟨a, m₃, here, second⟩ := Computation.ok_bind second
  obtain ⟨after, m₄, rest, ⟨⟩⟩ := Computation.ok_bind second
  have length : before.length = i := (length_of_convertArguments first).trans taken
  rw [List.tail_drop] at rest
  refine ⟨a, m₁, m₃, ?_, ?_, here, ?_⟩
  · rw [← length, List.getElem?_append_right (Nat.le_refl _), Nat.sub_self]
    rfl
  · rw [← length, List.take_left, length]
    exact first
  · rw [show i + 1 = before.length + 1 by rw [length], ← List.drop_drop (l := before ++ a :: after),
      List.drop_left, length]
    exact rest

/-- Arguments cannot be read just if there is a first that cannot. -/
theorem convertArguments_error_iff {e : ConversionError} :
    (convertArguments budget types values).run apply m = .error e m' ↔
      ∃ i type before m₁, types[i]? = some type ∧
        (convertArguments budget (types.take i) values).run apply m = .ok before m₁ ∧
        (convertArgument budget type (values.drop i)).run apply m₁ = .error e m' := by
  constructor
  · intro failed
    induction types generalizing values m with
    | nil => cases failed
    | cons type types ih =>
      rcases Computation.error_bind failed with here | ⟨a, m₁, first, failed⟩
      · exact ⟨0, type, [], m, rfl, rfl, here⟩
      · rcases Computation.error_bind failed with later | ⟨_, _, _, ⟨⟩⟩
        obtain ⟨i, type', before, m₂, at_, reached, here⟩ := ih later
        refine ⟨i + 1, type', a :: before, m₂, at_, ?_, ?_⟩
        · simp only [List.take_succ_cons, convertArguments, Computation.run_bind, first, reached,
            Computation.run_pure]
        · rwa [List.drop_tail] at here
  · rintro ⟨i, type, before, m₁, at_, reached, here⟩
    obtain ⟨parts, taken⟩ := eq_take_append_cons_drop at_
    rw [parts, convertArguments_append, taken]
    simp only [convertArguments, Computation.run_bind, reached, here]

/-- What is read for types that look at one value each depends only on the values at their places. -/
theorem convertArguments_congr (single : .restStrings ∉ types) {values' : List Value}
    (same : ∀ i < types.length, values'[i]? = values[i]?) :
    convertArguments budget types values' = convertArguments budget types values := by
  induction types generalizing values values' with
  | nil => rfl
  | cons type types ih =>
    rw [List.mem_cons, not_or] at single
    have head : values'.head? = values.head? := by
      rw [List.head?_eq_getElem?, List.head?_eq_getElem?]
      exact same 0 (Nat.succ_pos _)
    have tail : convertArguments budget types values'.tail =
        convertArguments budget types values.tail :=
      ih single.2 fun i hi => by simpa using same (i + 1) (Nat.succ_lt_succ hi)
    rw [convertArguments, convertArguments,
      convertArgument_eq_of_head? budget (Ne.symm single.1) head, tail]

/-- What is read of values that are no objects depends on nothing but these. -/
theorem fixed_convertArguments (budget : Budget) (single : .restStrings ∉ types)
    (values : List Value) (plain : ∀ v ∈ values.take types.length, v.ref? = none) :
    ∃ given, Computation.Fixed (convertArguments budget types values) given := by
  induction types generalizing values with
  | nil => exact ⟨[], .pure _⟩
  | cons type types ih =>
    rw [List.mem_cons, not_or] at single
    -- with no value left, both parts hold of nothing
    have head : ∀ v, values.head? = some v → v.ref? = none := by
      intro v hv
      cases values with
      | nil => cases hv
      | cons w rest =>
        cases hv
        exact plain v (List.mem_cons_self ..)
    have tail : ∀ v ∈ values.tail.take types.length, v.ref? = none := by
      intro v hv
      cases values with
      | nil => simp at hv
      | cons w rest => exact plain v (List.mem_cons_of_mem _ hv)
    obtain ⟨a, first⟩ := fixed_convertArgument budget (Ne.symm single.1) values head
    obtain ⟨rest, later⟩ := ih single.2 values.tail tail
    exact ⟨_, first.bind (later.bind (.pure _))⟩

/-- An undefined value is read as if it were not there. -/
theorem run_convertArgument_undefined (apply : Apply) (m : Machine) {type : ArgumentType}
    (single : type ≠ .restStrings) (room : Json.nodeCost ≤ budget.maxBytes) (rest : List Value) :
    ∃ clock, (convertArgument budget type (.undefined :: rest)).run apply m =
      .ok type.absent { m with clock } := by
  have document : (dump budget .undefined).run apply m =
      .ok .null { m with clock := m.clock + 1 } := by
    have fits : ¬ saturatingAdd (saturatingAdd 0 Json.nodeCost) 0 > budget.maxBytes := by
      simp only [saturatingAdd]
      omega
    have paid := run_charge_of_blind budget 0 apply m (p := {}) (by decide)
    rw [if_neg fits] at paid
    have unfolded : dumpAt budget (maxDepth + 1) .undefined =
        charge budget 0 >>= fun _ => pure .null := rfl
    rw [run_dump_walk, unfolded, Walker.run_bind, paid]
    rfl
  cases type with
  | restStrings => exact absurd rfl single
  | string => exact ⟨m.clock, rfl⟩
  | number => exact ⟨m.clock, rfl⟩
  | genericValue =>
    refine ⟨m.clock + 1, ?_⟩
    simp only [convertArgument, List.head?_cons, Computation.run_bind, document]
    rfl
  | entityRefList =>
    refine ⟨m.clock + 1, ?_⟩
    simp only [convertArgument, List.head?_cons, Computation.run_bind, document]
    rfl

/-- Undefined values behind all others are read as if they were not there. -/
theorem sameButClock_padded (single : .restStrings ∉ types)
    (room : Json.nodeCost ≤ budget.maxBytes) (n : Nat) :
    SameButClock ((convertArguments budget types values).run apply m)
      ((convertArguments budget types (values ++ List.replicate n .undefined)).run apply m) := by
  induction types generalizing values m n with
  | nil => exact ⟨m.clock, rfl⟩
  | cons type types ih =>
    rw [List.mem_cons, not_or] at single
    cases values with
    | nil =>
      cases n with
      | zero =>
        rw [convertArguments_nil]
        exact ⟨m.clock, by rw [List.replicate_zero, List.append_nil, convertArguments_nil]; rfl⟩
      | succ n =>
        obtain ⟨clock, first⟩ := run_convertArgument_undefined apply m (Ne.symm single.1) room
          (List.replicate n .undefined)
        have later : SameButClock
            ((convertArguments budget types []).run apply { m with clock })
            ((convertArguments budget types (List.replicate n .undefined)).run apply
              { m with clock }) := ih single.2 n
        rw [convertArguments_nil] at later ⊢
        obtain ⟨clock', later⟩ := later
        refine ⟨clock', ?_⟩
        simp only [List.nil_append, List.replicate_succ, convertArguments, Computation.run_bind, first,
          List.tail_cons, later, Computation.run_pure, List.map_cons]
    | cons v rest =>
      have first : convertArgument budget type (v :: rest ++ List.replicate n .undefined) =
          convertArgument budget type (v :: rest) :=
        convertArgument_eq_of_head? budget (Ne.symm single.1) rfl
      rw [convertArguments, convertArguments, first]
      exact .bind fun a m₁ _ => (ih single.2 n).map (a :: ·)

end Rows

/-! ### Calls -/

/-- How the arguments of a call come about, for a row of types and the values that a script gave. -/
structure LinesUp (budget : Budget) (types : List ArgumentType) (values : List Value)
    (apply : Apply) (m : Machine) : Prop where
  /-- If they can be read, there is one for each type.  Each is read at its place, on the machine
  that those before it leave, and leaves the machine on which the others are read. -/
  inTurn : ∀ given m', (convertArguments budget types values).run apply m = .ok given m' →
    given.length = types.length ∧ ∀ i type, types[i]? = some type → ∃ a m₁ m₂,
      given[i]? = some a ∧
      (convertArguments budget (types.take i) values).run apply m = .ok (given.take i) m₁ ∧
      (convertArgument budget type (values.drop i)).run apply m₁ = .ok a m₂ ∧
      (convertArguments budget (types.drop (i + 1)) (values.drop (i + 1))).run apply m₂ =
        .ok (given.drop (i + 1)) m'
  /-- What is done at a place depends on its type and its value alone, unless the type takes the
  rest. -/
  own : ∀ (i : Nat) (type : ArgumentType), type ≠ .restStrings →
    ∀ values' : List Value, values'[i]? = values[i]? →
      convertArgument budget type (values'.drop i) = convertArgument budget type (values.drop i)
  /-- So in two calls that have the same type and the same value at a place, the same is read there,
  if what comes before it leaves the same machine. -/
  determined : ∀ (i : Nat) (type : ArgumentType), type ≠ .restStrings → types[i]? = some type →
    ∀ given m', (convertArguments budget types values).run apply m = .ok given m' →
    ∀ (types' : List ArgumentType) (values' : List Value) n given' n',
      types'[i]? = some type → values'[i]? = values[i]? →
      (convertArguments budget types' values').run apply n = .ok given' n' →
      ∀ before before' between,
        (convertArguments budget (types.take i) values).run apply m = .ok before between →
        (convertArguments budget (types'.take i) values').run apply n = .ok before' between →
        given'[i]? = given[i]?
  /-- If the value is no object, the same is read wherever that happens, whatever the other types and
  values. -/
  plain : ∀ (i : Nat) (type : ArgumentType), type ≠ .restStrings → types[i]? = some type →
    (∀ v : Value, values[i]? = some v → v.ref? = none) →
    ∀ given m', (convertArguments budget types values).run apply m = .ok given m' →
    ∀ (types' : List ArgumentType) (values' : List Value) apply' n given' n',
      types'[i]? = some type → values'[i]? = values[i]? →
      (convertArguments budget types' values').run apply' n = .ok given' n' →
        given'[i]? = given[i]?
  /-- Values that are no objects leave the machine to those after them as it was, but for the
  clock. -/
  quiet : ∀ i, ArgumentType.restStrings ∉ types.take i → (∀ v ∈ values.take i, v.ref? = none) →
    ∀ given m₁, (convertArguments budget (types.take i) values).run apply m = .ok given m₁ →
      ∃ clock, m₁ = { m with clock }
  /-- A text or a number is missing just if nothing is given at its place. -/
  missing : ∀ given m', (convertArguments budget types values).run apply m = .ok given m' → ∀ i,
    (types[i]? = some .string → (given[i]? = some (.text none) ↔ Missing values i)) ∧
    (types[i]? = some .number → (given[i]? = some (.number none) ↔ Missing values i))
  /-- A type that takes the rest gets the texts of all values from its place on, which are read one
  after the other; null and undefined are among them. -/
  rest : ∀ given m', (convertArguments budget types values).run apply m = .ok given m' → ∀ i,
    types[i]? = some .restStrings → ∃ ss m₁,
      given[i]? = some (.strings ss) ∧ ss.length = values.length - i ∧
      (convertArguments budget (types.take i) values).run apply m = .ok (given.take i) m₁ ∧
      ∀ k v, values[i + k]? = some v → ∃ s m₂ m₃, ss[k]? = some s ∧
        (convertTexts ((values.drop i).take k)).run apply m₁ = .ok (ss.take k) m₂ ∧
        (convertText v).run apply m₂ = .ok s m₃ ∧
        (v = .null → s = "null") ∧ (v = .undefined → s = "undefined")
  /-- If no type takes the rest, the values behind the last type do not matter. -/
  beyond : ArgumentType.restStrings ∉ types → ∀ values' : List Value,
    (∀ i < types.length, values'[i]? = values[i]?) →
      convertArguments budget types values' = convertArguments budget types values
  /-- And undefined values behind all others change nothing, if the budget has room for one node. -/
  padded : ArgumentType.restStrings ∉ types → Json.nodeCost ≤ budget.maxBytes → ∀ n,
    SameButClock ((convertArguments budget types values).run apply m)
      ((convertArguments budget types (values ++ List.replicate n .undefined)).run apply m)
  /-- If they cannot be read, that is because of the first that cannot. -/
  failed : ∀ e m', (convertArguments budget types values).run apply m = .error e m' ↔
    ∃ i type before m₁, types[i]? = some type ∧
      (convertArguments budget (types.take i) values).run apply m = .ok before m₁ ∧
      (convertArgument budget type (values.drop i)).run apply m₁ = .error e m'

/-- How the arguments of a call come about, for all types and values, under every budget and on every
machine. -/
theorem linesUp (budget : Budget) (types : List ArgumentType) (values : List Value)
    (apply : Apply) (m : Machine) : LinesUp budget types values apply m where
  inTurn given m' ok :=
    ⟨length_of_convertArguments ok, fun i type at_ => place_of_convertArguments at_ ok⟩
  own i type single values' same := convertArgument_drop budget single same
  determined i type single at_ given m' ok types' values' n given' n' at_' same ok' before before'
      between left left' := by
    obtain ⟨a, m₁, m₂, found, reached, here, -⟩ := place_of_convertArguments at_ ok
    obtain ⟨a', n₁, n₂, found', reached', here', -⟩ := place_of_convertArguments at_' ok'
    rw [convertArgument_drop budget single same] at here'
    -- both are read on the machine in between
    cases left.symm.trans reached
    cases left'.symm.trans reached'
    cases here.symm.trans here'
    rw [found, found']
  plain i type single at_ plain given m' ok types' values' apply' n given' n' at_' same ok' := by
    obtain ⟨a, m₁, m₂, found, -, here, -⟩ := place_of_convertArguments at_ ok
    obtain ⟨a', n₁, n₂, found', -, here', -⟩ := place_of_convertArguments at_' ok'
    rw [convertArgument_drop budget single same] at here'
    obtain ⟨b, fixed⟩ := fixed_convertArgument budget single (values.drop i)
      (by rwa [List.head?_drop])
    rw [found, found', (fixed _ _ _ _ here).1, (fixed _ _ _ _ here').1]
  quiet i single plain given m₁ ok := by
    obtain ⟨b, fixed⟩ := fixed_convertArguments budget single values fun v member =>
      plain v (List.take_subset_take_left _ (List.length_take_le i types) member)
    exact (fixed _ _ _ _ ok).2
  missing given m' ok i := by
    constructor
    · intro at_
      obtain ⟨a, m₁, m₂, found, -, here, -⟩ := place_of_convertArguments at_ ok
      rw [found, Option.some_inj]
      exact isMissing_of_convertArgument (.inl rfl) here
    · intro at_
      obtain ⟨a, m₁, m₂, found, -, here, -⟩ := place_of_convertArguments at_ ok
      rw [found, Option.some_inj]
      exact isMissing_of_convertArgument (.inr rfl) here
  rest given m' ok i at_ := by
    obtain ⟨a, m₁, m₂, found, reached, here, -⟩ := place_of_convertArguments at_ ok
    obtain ⟨ss, m₃, texts, ⟨⟩⟩ := Computation.ok_bind here
    refine ⟨ss, m₁, found, ?_, reached, fun k v given => ?_⟩
    · rw [length_of_convertTexts texts, List.length_drop]
    · rw [← List.getElem?_drop] at given
      obtain ⟨s, m₄, m₅, placed, before, text⟩ := place_of_convertTexts given texts
      refine ⟨s, m₄, m₅, placed, before, text, ?_, ?_⟩
      · rintro rfl
        cases text
        rfl
      · rintro rfl
        cases text
        rfl
  beyond single values' same := convertArguments_congr single same
  padded single room n := sameButClock_padded single room n
  failed e m' := convertArguments_error_iff

/-! ### What reading changes -/

/-- A machine with a list whose text is its last item, which goes away when it is asked for. -/
def poppingMachine : Machine where
  heap :=
    (Building.add (functionObject (.builtin (.array .pop)) (.unicode "pop") 0) >>= fun f =>
      Building.add { listObject [.ofNat 1] with
        properties := [("toString", .plain (.object f))] }).run Heap.bare |>.2
  backend := {}
  logs := {}

/-- The list of that machine. -/
def popping : Value := .object (Heap.bare.objects.size + 1)

/-- How many items the list has that was read at a place. -/
def itemCount? (i : Nat) :
    EStateM.Result ConversionError Machine (List Argument) → Option Nat
  | .ok given _ =>
    match given[i]? with
    | some (.document (.arr items)) => some items.length
    | _ => none
  | .error .. => none

/-- The type and the value at a place do not tell alone what is read there: if the value before it is
the same object, then reading the text of that one has changed it. -/
theorem reading_moves_list :
    Json.nodeCost ≤ Budget.default.maxBytes ∧ Budget.default.deadline = none ∧
      itemCount? 1 ((convertArguments .default [.string, .genericValue] [popping, popping]).run
        (callAt builtinHost 1) poppingMachine) = some 0 ∧
      itemCount? 1 ((convertArguments .default [.string, .genericValue] [.null, popping]).run
        (callAt builtinHost 1) poppingMachine) = some 1 := by
  refine ⟨by decide, rfl, ?_⟩
  decide +kernel

end ScriptHost
