import ScriptHost.Proofs.Calls
import ScriptHost.Proofs.Objects

/-!
# Heaps that scripts reach

* `Heap.Reaches`: whether changes of scripts lead from one heap to another;
* `Heap.Reaches.host_function`, `Heap.Reaches.lookup_of_pins`, `Heap.Reaches.eq_of_sealed`: what
  they leave as it is;
* `Stepwise.reaches`: whatever runs on a machine, its heap only goes on by such changes.
-/

namespace ScriptHost

/-- Changes of scripts lead from a heap to another one. -/
inductive Heap.Reaches (h : Heap) : Heap → Prop
  | refl : Reaches h h
  | step {h' : Heap} (reached : Reaches h h') (c : Change) : Reaches h (c.apply h')

/-- Whether a function is one that only the host makes: a capability, a method of the console, or
what stands before a namespace. -/
def Callable.isHost : Callable → Bool
  | capability .. | console _ | builtin (.gate ..) => true
  | _ => false

theorem Callable.isScripted_of_isHost {c : Callable} (hc : c.isHost = true) :
    c.isScripted = false := by
  unfold isHost at hc
  split at hc <;> first | rfl | cases hc

namespace Heap.Reaches

variable {h h' h'' : Heap}

theorem trans (first : h.Reaches h') (second : h'.Reaches h'') : h.Reaches h'' := by
  induction second with
  | refl => exact first
  | step _ c ih => exact ih.step c

theorem size_le (reached : h.Reaches h') : h.objects.size ≤ h'.objects.size := by
  induction reached with
  | refl => exact Nat.le_refl _
  | step _ c ih => exact Nat.le_trans ih (c.size_le _)

/-- No change makes a function of the host. -/
theorem host_function (reached : h.Reaches h') {r : Nat} {c : Callable} (hc : c.isHost = true)
    (hr : (h'.object r).kind = .function c) : (h.object r).kind = .function c := by
  induction reached with
  | refl => exact hr
  | @step h' _ change ih =>
    apply ih
    by_cases inside : r < h'.objects.size
    · exact ((change.altered h' inside).function_iff c).1 hr
    · rcases change.fresh h' (Nat.le_of_not_lt inside) with scripted | ⟨p, _, hp⟩
      · rw [Object.isScripted, hr, Kind.isScripted, Callable.isScripted_of_isHost hc] at scripted
        cases scripted
      · rw [hr] at hp
        cases hp
        simp [Callable.isHost] at hc

/-- What keeps nothing besides properties stays what it is. -/
theorem kind_of_isSimple (reached : h.Reaches h') {r : Nat} (inside : r < h.objects.size)
    (hr : (h.object r).kind.isSimple = true) : (h'.object r).kind = (h.object r).kind := by
  induction reached with
  | refl => rfl
  | step reached c ih =>
    rw [← ih] at hr
    exact ((c.altered _ (Nat.lt_of_lt_of_le inside reached.size_le)).isSimple hr).trans ih

theorem plain (reached : h.Reaches h') {r : Nat} (inside : r < h.objects.size)
    (hr : (h.object r).kind = .plain) : (h'.object r).kind = .plain :=
  (reached.kind_of_isSimple inside (Kind.isSimple_of_plain hr)).trans hr

/-- A pinned property of such an object stays. -/
theorem lookup_of_pins (reached : h.Reaches h') {r : Nat} (inside : r < h.objects.size)
    (hr : (h.object r).kind.isSimple = true) {key : Key} (hk : key.index? = none) {p : Property}
    {q : Ref} (hl : (h.object r).properties.lookup key = some p) (hp : p.Pins q) :
    (h'.object r).properties.lookup key = some p := by
  induction reached with
  | refl => exact hl
  | step reached c ih =>
    have bare := hr
    rw [← reached.kind_of_isSimple inside hr] at bare
    exact (c.altered _ (Nat.lt_of_lt_of_le inside reached.size_le)).lookup_of_pins bare hk ih hp

/-- No change makes a function that takes an object out of use that was there before. -/
theorem not_revoker (reached : h.Reaches h') {r : Nat} (inside : r < h.objects.size)
    (free : ∀ f, (h.object f).kind ≠ .function (.builtin (.revoke r))) (f : Nat) :
    (h'.object f).kind ≠ .function (.builtin (.revoke r)) := by
  induction reached generalizing f with
  | refl => exact free f
  | @step h' reached c ih =>
    intro hf
    by_cases old : f < h'.objects.size
    · exact ih f (((c.altered h' old).function_iff _).1 hf)
    · rcases c.fresh h' (Nat.le_of_not_lt old) with scripted | ⟨p, ⟨newer, -⟩, hp⟩
      · rw [Object.isScripted, hf] at scripted
        cases scripted
      · rw [hf] at hp
        cases hp
        exact absurd (Nat.lt_of_lt_of_le inside reached.size_le) (Nat.not_lt.2 newer)

/-- What takes an object out of use comes after it. -/
theorem revoked_inside (reached : h.Reaches h')
    (old : ∀ f r : Nat, (h.object f).kind = .function (.builtin (.revoke r)) → r < h.objects.size)
    (f r : Nat) (hf : (h'.object f).kind = .function (.builtin (.revoke r))) :
    r < h'.objects.size := by
  induction reached generalizing f r with
  | refl => exact old f r hf
  | @step h' reached c ih =>
    by_cases inside : f < h'.objects.size
    · exact Nat.lt_of_lt_of_le (ih f r (((c.altered h' inside).function_iff _).1 hf)) (c.size_le h')
    · have there : f < (c.apply h').objects.size := by
        refine Nat.lt_of_not_le fun beyond => ?_
        rw [Heap.kind_of_size_le _ beyond] at hf
        cases hf
      rcases c.fresh h' (Nat.le_of_not_lt inside) with scripted | ⟨p, ⟨-, before⟩, hp⟩
      · rw [Object.isScripted, hf] at scripted
        cases scripted
      · rw [hf] at hp
        cases hp
        exact Nat.lt_trans before there

/-- So a proxy that no function takes out of use stays in use. -/
theorem proxy (reached : h.Reaches h') {r : Nat} (inside : r < h.objects.size)
    {target handler : Ref} {used : Bool} (hr : (h.object r).kind = .proxy target handler used)
    (free : ∀ f, (h.object f).kind ≠ .function (.builtin (.revoke r))) :
    (h'.object r).kind = .proxy target handler used := by
  induction reached with
  | refl => exact hr
  | step reached c ih =>
    exact (c.altered _ (Nat.lt_of_lt_of_le inside reached.size_le)).proxy ih
      (reached.not_revoker inside free)

/-- A sealed object stays as it is. -/
theorem eq_of_sealed (reached : h.Reaches h') {r : Nat} (inside : r < h.objects.size)
    (hr : (h.object r).Sealed) (local_ : r ≠ globalRef) : h'.object r = h.object r := by
  induction reached with
  | refl => rfl
  | step reached c ih =>
    have altered := c.altered _ (Nat.lt_of_lt_of_le inside reached.size_le)
    rw [altered.eq_of_sealed (by rw [ih]; exact hr) local_, ih]

/-- The object that all others inherit from never inherits from anything else. -/
theorem prototype (reached : h.Reaches h') (inside : Family.object.prototype < h.objects.size) :
    (h'.object Family.object.prototype).prototype =
      (h.object Family.object.prototype).prototype := by
  induction reached with
  | refl => rfl
  | step reached c ih =>
    exact (c.altered _ (Nat.lt_of_lt_of_le inside reached.size_le)).prototype.trans ih

end Heap.Reaches

/-! ### Machines -/

/-- Whatever runs on a machine, its heap only goes on by changes. -/
theorem Stepwise.reaches : Stepwise fun m m' => m.heap.Reaches m'.heap where
  refl _ := .refl
  trans first second := first.trans second
  change c _ := .step .refl c
  time _ _ _ _ := .refl

/-- So does the heap of a computation that calls nothing. -/
theorem Computation.reaches_none {ε α : Type} (x : Computation ε α) (m : Machine) :
    m.heap.Reaches (stateAfter (x.run .none m)).heap :=
  Computation.preserves Stepwise.reaches (fun _ _ _ _ => .refl) x m

/-- A script that calls nothing leads from a heap to the one after it. -/
theorem Heap.reaches_after (h : Heap) (s : Script Unit) : h.Reaches (h.after s) := by
  have reached := Computation.reaches_none s { heap := h, backend := .empty, logs := {} }
  unfold Heap.after
  revert reached
  cases s.run Apply.none { heap := h, backend := .empty, logs := {} } <;> exact id

end ScriptHost
