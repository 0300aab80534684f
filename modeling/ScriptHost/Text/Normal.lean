import ScriptHost.Text.Decompositions

/-!
# Normal forms

Texts that look the same may be spelled with other code points; in a normal form they are spelled
alike.

* `NormalForm`: the four forms;
* `NormalForm.apply`: a text in a normal form.
-/

namespace ScriptHost

/-- Whether characters are kept together where that can be, and whether their shape is given up. -/
structure NormalForm where
  composed : Bool
  shapeless : Bool
  deriving DecidableEq, Repr

namespace NormalForm

/-- The form in which characters are kept together. -/
def standard : NormalForm := ⟨true, false⟩

/-- The form of a name. -/
def named? : String → Option NormalForm
  | "NFC" => some ⟨true, false⟩
  | "NFD" => some ⟨false, false⟩
  | "NFKC" => some ⟨true, true⟩
  | "NFKD" => some ⟨false, true⟩
  | _ => none

open Decomposition

/-- Puts a mark before those of a higher class at the start of a text in reverse. -/
def settle (c : Nat) : List Nat → List Nat
  | [] => [c]
  | d :: before =>
    if markClass c ≠ 0 && markClass c < markClass d then d :: settle c before else c :: d :: before

/-- A text with the marks after each character in the order of their classes. -/
def ordered (cs : List Nat) : List Nat := (cs.foldl (fun before c => settle c before) []).reverse

/-- A text that is made up again. -/
structure Joined where
  /-- What is finished, in reverse. -/
  done : List Nat
  /-- The character that may still be joined to what follows. -/
  base : Option Nat
  /-- The marks that follow it, in reverse. -/
  marks : List Nat

namespace Joined

/-- All that was read, in reverse. -/
def all (j : Joined) : List Nat := j.marks ++ (j.base.toList ++ j.done)

/-- Whether nothing stands between the base and a code point that keeps them apart. -/
def reaches (j : Joined) (c : Nat) : Bool :=
  match j.marks with
  | [] => true
  | d :: _ => markClass d < markClass c

/-- Reads a code point. -/
def add (j : Joined) (c : Nat) : Joined :=
  let whole := if j.reaches c then j.base.bind fun b => composed? b c else none
  match whole with
  | some b => { j with base := some b }
  | none =>
    if markClass c = 0 then ⟨j.all, some c, []⟩
    else { j with marks := c :: j.marks }

end Joined

/-- A text with its characters made up where that can be. -/
def joined (cs : List Nat) : List Nat := (cs.foldl Joined.add ⟨[], none, []⟩).all.reverse

/-- A text in a normal form. -/
def apply (f : NormalForm) (cs : List Nat) : List Nat :=
  if cs.all (· < 0x80) then cs
  else
    let parts := ordered (cs.flatMap (if f.shapeless then full else canonical))
    if f.composed then joined parts else parts

end NormalForm

end ScriptHost
