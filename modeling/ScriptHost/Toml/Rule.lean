/-!
# Rules of a grammar

A rule reads a prefix of a text.  Where it does not fit it says how far it came, and whether another
rule may be tried in its place.

* `Toml.Input`: the rest of a text, and how many bytes precede it;
* `Toml.Outcome`, `Toml.Rule`: how a reading ends, and readings in sequence;
* `Rule.orElse`, `Rule.optional`, `Rule.many`, `Rule.separated`: choice and repetition, which go
  back to where a rule began that did not fit;
* `Rule.commit`: from here on nothing else is tried;
* `Rule.refine`: a condition on what was read, whose failure stands at its beginning.
-/

namespace ScriptHost

namespace Toml

/-- The rest of a text, and how many bytes precede it. -/
structure Input where
  rest : List Char
  pos : Nat

/-- The bytes of a list of characters. -/
def byteSize (cs : List Char) : Nat := cs.foldl (fun n c => n + c.utf8Size) 0

/-- How a reading ends. -/
inductive Outcome (α : Type)
  | read (value : α) (next : Input)
  /-- The text does not fit; another rule may. -/
  | missed (stop : Nat)
  /-- The text does not fit, and nothing else is tried. -/
  | broken (stop : Nat)

/-- A rule of the grammar. -/
def Rule (α : Type) : Type := Input → Outcome α

namespace Rule

variable {α β : Type}

instance : Monad Rule where
  pure a := fun i => .read a i
  bind r f := fun i =>
    match r i with
    | .read a j => f a j
    | .missed stop => .missed stop
    | .broken stop => .broken stop

/-- Where the reading is. -/
def here : Rule Input := fun i => .read i i

/-- Nothing fits. -/
def miss : Rule α := fun i => .missed i.pos

/-- Nothing fits, and nothing else is tried. -/
def stop : Rule α := fun i => .broken i.pos

/-- Nothing fits from a given byte on, and nothing else is tried. -/
def stopAt (pos : Nat) : Rule α := fun _ => .broken pos

/-- The next character, which stays. -/
def peek? : Rule (Option Char) := fun i => .read i.rest.head? i

/-- The next character, if it satisfies `p`. -/
def char (p : Char → Bool) : Rule Char := fun i =>
  match i.rest with
  | c :: cs => if p c then .read c ⟨cs, i.pos + c.utf8Size⟩ else .missed i.pos
  | [] => .missed i.pos

/-- Given characters. -/
def literal (cs : List Char) : Rule Unit := fun i =>
  if cs.isPrefixOf i.rest then .read () ⟨i.rest.drop cs.length, i.pos + byteSize cs⟩
  else .missed i.pos

/-- The longest run of characters that satisfy `p`, which may be empty. -/
def run (p : Char → Bool) : Rule (List Char) := fun i =>
  let cs := i.rest.takeWhile p
  .read cs ⟨i.rest.drop cs.length, i.pos + byteSize cs⟩

/-- As many characters that satisfy `p` as there are, up to `n`. -/
def upTo (n : Nat) (p : Char → Bool) : Rule (List Char) := fun i =>
  let cs := (i.rest.take n).takeWhile p
  .read cs ⟨i.rest.drop cs.length, i.pos + byteSize cs⟩

/-- The end of the text. -/
def atEnd : Rule Unit := fun i => if i.rest.isEmpty then .read () i else .missed i.pos

/-- The second rule where the first does not fit. -/
def orElse (r s : Rule α) : Rule α := fun i =>
  match r i with
  | .missed _ => s i
  | done => done

/-- A rule that need not fit. -/
def optional (r : Rule α) : Rule (Option α) := fun i =>
  match r i with
  | .read a j => .read (some a) j
  | .missed _ => .read none i
  | .broken stop => .broken stop

/-- What a rule reads, which stays. -/
def ahead (r : Rule α) : Rule α := fun i =>
  match r i with
  | .read a _ => .read a i
  | done => done

/-- From here on nothing else is tried. -/
def commit (r : Rule α) : Rule α := fun i =>
  match r i with
  | .missed stop => .broken stop
  | done => done

/-- A condition on what a rule reads; where it fails, the text is at fault from the beginning. -/
def refine (r : Rule α) (f : α → Option β) : Rule β := fun i =>
  match r i with
  | .read a j =>
    match f a with
    | some b => .read b j
    | none => .missed i.pos
  | .missed stop => .missed stop
  | .broken stop => .broken stop

/-- The characters that a rule reads. -/
def textOf (r : Rule α) : Rule (List Char) := fun i =>
  match r i with
  | .read _ j => .read (i.rest.take (i.rest.length - j.rest.length)) j
  | .missed stop => .missed stop
  | .broken stop => .broken stop

/-- A rule at most `fuel` times in a row. -/
def manyUpTo (r : Rule α) : Nat → Rule (List α)
  | 0 => pure []
  | fuel + 1 => fun i =>
    match r i with
    | .read a j =>
      match manyUpTo r fuel j with
      | .read as k => .read (a :: as) k
      | done => done
    | .missed _ => .read [] i
    | .broken stop => .broken stop

/-- A rule as often as it fits.  It reads something each time, so the length of the text bounds
how often that is. -/
def many (r : Rule α) : Rule (List α) := fun i => manyUpTo r (i.rest.length + 1) i

/-- A rule at most `fuel` times in a row, until it reads nothing of use. -/
def whileSomeUpTo (r : Rule (Option α)) : Nat → Rule Unit
  | 0 => pure ()
  | fuel + 1 => do
    match ← r with
    | some _ => whileSomeUpTo r fuel
    | none => pure ()

/-- A rule in a row, until it reads nothing of use.  Where it does not fit, neither does the row. -/
def whileSome (r : Rule (Option α)) : Rule Unit := fun i =>
  whileSomeUpTo r (i.rest.length + 1) i

/-- A rule once or more. -/
def many1 (r : Rule α) : Rule (List α) := do
  let a ← r
  let as ← many r
  pure (a :: as)

/-- A rule once or more, with a separator between; a separator that nothing follows stays. -/
def separated (r : Rule α) (separator : Rule β) : Rule (List α) := do
  let a ← r
  let as ← many (do let _ ← separator; r)
  pure (a :: as)

end Rule

end Toml

end ScriptHost
