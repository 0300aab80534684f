import ScriptHost.Regex.Syntax

/-!
# Searching with regular expressions

A search tries one way after another: of two ways it keeps the second in mind and goes back to it
when the first comes to no end.

* `Regex.Subject`: the text that is searched, with the flags;
* `Regex.Search`: where a search stands, what is still to be done, and the ways kept in mind;
* `Regex.step`: one step; `Regex.run`: a search to its end;
* `Regex.Program.search`: the first place from a place on where a regular expression fits.
-/

namespace ScriptHost

namespace Regex

/-! ### Texts -/

/-- A text under search. -/
structure Subject where
  units : Array UInt16
  flags : Flags

namespace Subject

/-- The code after a place, and the place behind it. -/
def ahead? (s : Subject) (i : Nat) : Option (Nat × Nat) :=
  match s.units[i]?, s.units[i + 1]? with
  | none, _ => none
  | some u, some v =>
    if s.flags.points && Units.isHigh u && Units.isLow v then
      some ((Units.pair u v).toNat, i + 2)
    else some (u.toNat, i + 1)
  | some u, none => some (u.toNat, i + 1)

/-- The code before a place, and the place before that. -/
def behind? (s : Subject) : Nat → Option (Nat × Nat)
  | 0 => none
  | 1 => (s.units[0]?).map fun u => (u.toNat, 0)
  | i + 2 =>
    match s.units[i]?, s.units[i + 1]? with
    | some u, some v =>
      if s.flags.points && Units.isHigh u && Units.isLow v then some ((Units.pair u v).toNat, i)
      else some (v.toNat, i + 1)
    | _, _ => none

/-- The code on the one or the other side of a place, and the place beyond it. -/
def beyond? (s : Subject) (behind : Bool) (i : Nat) : Option (Nat × Nat) :=
  if behind then s.behind? i else s.ahead? i

/-- Whether the unit at a place is part of a word. -/
def isWordAt (s : Subject) (i : Nat) : Bool :=
  (s.units[i]?).any fun u => Ranges.word.has u.toNat

/-- Whether a word begins or ends at a place. -/
def isWordEdge (s : Subject) (i : Nat) : Bool :=
  (0 < i && s.isWordAt (i - 1)) != s.isWordAt i

/-- Whether the unit at a place ends a line. -/
def endsLineAt (s : Subject) (i : Nat) : Bool :=
  (s.units[i]?).any fun u => Ranges.lineEnds.has u.toNat

/-- The codes between two places. -/
def codesBetween (s : Subject) (stop : Nat) : Nat → Nat → List Nat
  | 0, _ => []
  | fuel + 1, i =>
    if stop ≤ i then []
    else
      match s.ahead? i with
      | some (c, j) => c :: s.codesBetween stop fuel j
      | none => []

/-- The place beyond some codes, if they stand there. -/
def follow? (s : Subject) (behind : Bool) : List Nat → Nat → Option Nat
  | [], i => some i
  | c :: rest, i => do
    let (d, j) ← s.beyond? behind i
    let points := s.flags.points
    if c = d || (s.flags.has 'i' && fold points c = fold points d) then s.follow? behind rest j
    else none

end Subject

/-! ### Searches -/

/-- Where what each group found begins and ends. -/
abbrev Groups := Array (Option (Nat × Nat))

/-- Something that a search has still to do. -/
inductive Task
  /-- Begin here or later. -/
  | begin
  /-- Find what an expression says. -/
  | find (r : Regex) (behind : Bool)
  /-- Keep what a group found from a place on. -/
  | close (n first : Nat) (behind : Bool)
  /-- Repeat an expression, of which the round that began at a place is over. -/
  | onward (first : Nat) (needed : Bool) (r : Regex) (behind : Bool)
  /-- Go back to a place from which was looked around, and to the ways kept in mind by then. -/
  | leave (place ways : Nat)
  /-- What must not be there was found; fewer ways are left. -/
  | refuse (ways : Nat)

/-- A way that a search can take. -/
structure Way where
  tasks : List Task
  place : Nat
  groups : Groups

/-- A search: the way that it is on, and others that it may go back to. -/
structure Search extends Way where
  others : List Way

namespace Search

/-- Takes the last way that was kept in mind. -/
def back (q : Search) : Option Search :=
  match q.others with
  | [] => none
  | w :: rest => some ⟨w, rest⟩

/-- Keeps only the first so many of the ways in mind. -/
def forget (q : Search) (ways : Nat) : Search :=
  { q with others := q.others.drop (q.others.length - ways) }

/-- Does something next. -/
def next (q : Search) (t : Task) : Search := { q with tasks := t :: q.tasks }

end Search

/-- Forgets what the groups above `low` and up to `high` found. -/
def clear (groups : Groups) (low high : Nat) : Groups :=
  if high ≤ low then groups
  else groups.mapIdx fun i g => if low < i && i ≤ high then none else g

/-- A repetition of which no more rounds are needed. -/
def eased : Regex → Regex
  | many low high greedy first last body =>
    many 0 (high.map fun n => n - low) greedy first last body
  | r => r

/-- A search that is to find what an expression says; none if it fails for good. -/
def seek (s : Subject) (r : Regex) (behind : Bool) (q : Search) : Option Search :=
  match r with
  | empty => some q
  | code set =>
    match s.beyond? behind q.place with
    | some (c, place) =>
      if set.has (s.flags.has 'i') s.flags.points c then some { q with place } else q.back
    | none => q.back
  | both first second =>
    if behind then some ((q.next (.find first true)).next (.find second true))
    else some ((q.next (.find second false)).next (.find first false))
  | either first second =>
    let other := (q.next (.find second behind)).toWay
    some { q.next (.find first behind) with others := other :: q.others }
  | group n body => some ((q.next (.close n q.place behind)).next (.find body behind))
  | earlier ns =>
    match ns.findSome? fun n => (q.groups[n]?).join with
    | none => some q
    | some (first, last) =>
      let cs := s.codesBetween last (last - first) first
      match s.follow? behind (if behind then cs.reverse else cs) q.place with
      | some place => some { q with place }
      | none => q.back
  | many low high greedy first last body =>
    let q : Search := if low = 0 then { q with groups := clear q.groups first last } else q
    if high = some 0 then some q
    else
      let rest := many (low - 1) (high.map fun n => n - 1) greedy first first body
      let round := (q.next (.onward q.place (0 < low) rest behind)).next (.find body behind)
      if 0 < low then some round
      else if greedy then some { round with others := q.toWay :: q.others }
      else some { q with others := round.toWay :: q.others }
  | look back negated body =>
    let ways := q.others.length
    if negated then
      some { q with tasks := [.find body back, .refuse ways], others := q.toWay :: q.others }
    else some ((q.next (.leave q.place ways)).next (.find body back))
  | start lines =>
    if q.place = 0 || (lines && s.endsLineAt (q.place - 1)) then some q else q.back
  | finish lines =>
    if q.place = s.units.size || (lines && s.endsLineAt q.place) then some q else q.back
  | wordEdge negated => if s.isWordEdge q.place != negated then some q else q.back

/-- One step of a search; none if it fails for good. -/
def step (s : Subject) (body : Regex) (t : Task) (q : Search) : Option Search :=
  match t with
  | .begin =>
    let here := (q.next (.close 0 q.place false)).next (.find body false)
    match s.ahead? q.place with
    | some (_, place) =>
      some { here with others := { q.next .begin with place }.toWay :: q.others }
    | none => some here
  | .find r behind => seek s r behind q
  | .close n first behind =>
    let found := if behind then (q.place, first) else (first, q.place)
    some { q with groups := q.groups.setIfInBounds n (some found) }
  | .onward first needed r behind =>
    if q.place != first then some (q.next (.find r behind))
    else if needed then some (q.next (.find (eased r) behind))
    else q.back
  | .leave place ways => some { q.forget ways with place }
  | .refuse ways => (q.forget ways).back

/-- How a search ends. -/
inductive Outcome
  | found (groups : Groups)
  | missed
  | endless

/-- A search to its end, in so many steps at most. -/
def run (s : Subject) (body : Regex) : Nat → Search → Outcome
  | 0, _ => .endless
  | fuel + 1, q =>
    match q.tasks with
    | [] => .found q.groups
    | t :: tasks =>
      match step s body t { q with tasks } with
      | some q => run s body fuel q
      | none => .missed

/-- The steps after which a search is given up. -/
def maxSteps : Nat := 30000000

/-- What the groups find at the first place from `first` on where a regular expression fits; what it
finds as a whole is group zero.  The flag `y` allows for that place only. -/
def Program.search (p : Program) (units : Array UInt16) (first : Nat) : Outcome :=
  let groups : Groups := Array.replicate (p.groups + 1) none
  let tasks : List Task :=
    if p.flags.has 'y' then [.find p.body false, .close 0 first false] else [.begin]
  run ⟨units, p.flags⟩ p.body maxSteps ⟨⟨tasks, first, groups⟩, []⟩

end Regex

end ScriptHost
