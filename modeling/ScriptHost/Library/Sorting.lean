import ScriptHost.Engine.Machine

/-!
# Putting items in order

The order of items may be told by a function of a script, which can contradict itself and can do
anything else besides.  So it matters which items are compared and when.

* `Sorting.insertion`: a few items, each of which goes down to its place;
* `Sorting.Split`, `Sorting.split`: items parted by one of them, the pivot;
* `sortItems`: an array in order: long stretches are parted, short ones are left to insertion.
-/

namespace ScriptHost

namespace Sorting

section

variable {α : Type} (compare : α → α → Script Ordering)

/-- The order of the items at two places. -/
def compareAt (items : Array α) (i j : Nat) : Script Ordering :=
  match items[i]?, items[j]? with
  | some a, some b => compare a b
  | _, _ => return .eq

/-! ### Short stretches -/

/-- The item at a place goes down as long as the one before it is greater, at most so many steps. -/
def sink (items : Array α) : Nat → Nat → Script (Array α)
  | 0, _ => return items
  | steps + 1, i => do
    match ← compareAt compare items (i - 1) i with
    | .gt => sink (items.swapIfInBounds i (i - 1)) steps (i - 1)
    | _ => return items

/-- So many items from a place on in order. -/
def insertion (items : Array α) (start count : Nat) : Script (Array α) :=
  (List.range (count - 1)).foldlM (fun items k => sink compare items (k + 1) (start + k + 1)) items

/-! ### Long stretches -/

/-- The place of the middle one of three items. -/
def middle (items : Array α) (a b c : Nat) : Script Nat := do
  if (← compareAt compare items a b) = .lt then
    if (← compareAt compare items b c) = .lt then return b
    else if (← compareAt compare items a c) = .lt then return c
    else return a
  else
    if (← compareAt compare items b c) = .gt then return b
    else if (← compareAt compare items a c) = .lt then return a
    else return c

/-- A stretch that is being parted by its first item: up to `same` and from `last` on stand items
that are equal to it, from there up to `low` lesser ones, and from `high` on greater ones. -/
structure Split (α : Type) where
  items : Array α
  same : Nat
  low : Nat
  high : Nat
  last : Nat

/-- Passes by items that are not greater than the pivot, from below. -/
def Split.rise (start : Nat) : Nat → Split α → Script (Split α)
  | 0, s => return s
  | fuel + 1, s => do
    if s.high ≤ s.low then return s
    else
      match ← compareAt compare s.items start s.low with
      | .lt => return s
      | .eq =>
        Split.rise start fuel
          { s with items := s.items.swapIfInBounds s.same s.low, same := s.same + 1,
                   low := s.low + 1 }
      | .gt => Split.rise start fuel { s with low := s.low + 1 }

/-- Passes by items that are not lesser than the pivot, from above. -/
def Split.fall (start : Nat) : Nat → Split α → Script (Split α)
  | 0, s => return s
  | fuel + 1, s => do
    let s := { s with high := s.high - 1 }
    if s.high ≤ s.low then return s
    else
      match ← compareAt compare s.items start s.high with
      | .gt => return s
      | .eq =>
        Split.fall start fuel
          { s with items := s.items.swapIfInBounds (s.last - 1) s.high, last := s.last - 1 }
      | .lt => Split.fall start fuel s

/-- Exchanges a greater item from below for a lesser one from above, until there is nothing left in
between. -/
def Split.run (start count : Nat) : Nat → Split α → Script (Split α)
  | 0, s => return s
  | fuel + 1, s => do
    let s ← Split.rise compare start count s
    let s ← Split.fall compare start count s
    if s.high ≤ s.low then return s
    else
      Split.run start count fuel
        { s with items := s.items.swapIfInBounds s.low s.high, low := s.low + 1 }

/-- Exchanges so many items from one place on for those from another place on. -/
def swapStretch (items : Array α) (a b count : Nat) : Array α :=
  (List.range count).foldl (fun items k => items.swapIfInBounds (a + k) (b + k)) items

/-- A stretch parted by its middle item: the items, how many are lesser, how many are greater. -/
def split (items : Array α) (start count : Nat) : Script (Array α × Nat × Nat) := do
  let quarter := count / 4
  let pivot ← middle compare items (start + quarter) (start + 2 * quarter) (start + 3 * quarter)
  let bound := start + count
  let s ← Split.run compare start count count
    ⟨items.swapIfInBounds start pivot, start + 1, start + 1, bound, bound⟩
  let lesser := s.low - s.same
  let greater := s.last - s.low
  let below := min (s.same - start) lesser
  let above := min (bound - s.last) greater
  let items := swapStretch s.items start (s.low - below) below
  return (swapStretch items s.low (bound - above) above, lesser, greater)

/-- Stretches of at most so many items are short. -/
def shortCount : Nat := 6

/-- A stretch in order; of the two parts the shorter one comes first. -/
def stretch : Nat → Array α → Nat → Nat → Script (Array α)
  | 0, items, start, count => insertion compare items start count
  | fuel + 1, items, start, count => do
    if count ≤ shortCount then insertion compare items start count
    else
      let (items, lesser, greater) ← split compare items start count
      if greater < lesser then
        let items ← stretch fuel items (start + count - greater) greater
        stretch fuel items start lesser
      else
        let items ← stretch fuel items start lesser
        stretch fuel items (start + count - greater) greater

end

end Sorting

/-- An array in order. -/
def sortItems {α : Type} (compare : α → α → Script Ordering) (items : Array α) :
    Script (Array α) :=
  Sorting.stretch compare items.size items 0 items.size

end ScriptHost
