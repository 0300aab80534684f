import ScriptHost.Proofs.Expressions

/-!
# What stands around a typed fragment

A pattern sees of what stands around a stretch only whether it stands inside a word, and a line end
never does, no more than the end of the text.  So a fragment that shows a sign of the typed dialect
shows it among any other lines.

* `Pattern.Matches.between`: a stretch matches between all neighbours that are in words alike;
* `Pattern.FoundIn.within`: what is found in a text is found when no word goes on at its ends;
* `TypedDialect.looksTyped_amid_lines`: lines before or after a typed fragment do not hide it.
-/

namespace ScriptHost

namespace Pattern

variable {p : Pattern} {left left' : Option Char} {xs rest rest' a b text : List Char}

/-! ### Neighbours -/

@[simp] theorem not_inWord_none : ¬ InWord none := by
  rintro ⟨c, hc, -⟩
  cases hc

theorem not_inWord_lineEnd : ¬ InWord (some '\n') := by
  rw [← isWord_iff]
  decide

theorem inWord_head?_append (xs : List Char) (h : InWord rest'.head? ↔ InWord rest.head?) :
    InWord (xs ++ rest').head? ↔ InWord (xs ++ rest).head? := by
  cases xs with
  | nil => exact h
  | cons c xs => exact Iff.rfl

theorem inWord_before (xs : List Char) (h : InWord left' ↔ InWord left) :
    InWord (before left' xs) ↔ InWord (before left xs) := by
  unfold before
  cases xs.getLast? with
  | none => exact h
  | some c => exact Iff.rfl

/-- What a stretch matches depends on its neighbours only by whether they are in words. -/
theorem Matches.between (h : p.Matches left xs rest) (before_iff : InWord left' ↔ InWord left)
    (after_iff : InWord rest'.head? ↔ InWord rest.head?) : p.Matches left' xs rest' := by
  -- on how the pattern matches: the parts of a sequence are each other's neighbours, which stay
  induction h generalizing left' rest' with
  | empty => exact .empty
  | one hc => exact .one hc
  | boundary hb =>
    refine .boundary ?_
    rw [before_iff, after_iff]
    exact hb
  | @seq _ _ _ us vs _ _ _ ihFirst ihSecond =>
    have first := ihFirst before_iff (inWord_head?_append vs after_iff)
    have second := ihSecond (inWord_before us before_iff) after_iff
    exact .seq first second
  | altLeft _ ih => exact .altLeft (ih before_iff after_iff)
  | altRight _ ih => exact .altRight (ih before_iff after_iff)
  | none => exact .none
  | @more _ _ us vs _ _ _ ihFirst ihOthers =>
    have first := ihFirst before_iff (inWord_head?_append vs after_iff)
    have others := ihOthers (inWord_before us before_iff) after_iff
    exact .more first others

/-- What is found in a text is found in it between others, unless these end or begin in a word. -/
theorem FoundIn.within (h : p.FoundIn text) (ha : ¬ InWord a.getLast?) (hb : ¬ InWord b.head?) :
    p.FoundIn (a ++ (text ++ b)) := by
  obtain ⟨start, stretch, rest, rfl, reads⟩ := h
  have before_iff : InWord (a ++ start).getLast? ↔ InWord start.getLast? := by
    have outside : InWord a.getLast? ↔ InWord none := iff_of_false ha not_inWord_none
    have ends := inWord_before start outside
    rwa [← before_none a, ← before_append, before_none, before_none] at ends
  have after_iff : InWord (rest ++ b).head? ↔ InWord rest.head? := by
    have outside : InWord b.head? ↔ InWord [].head? := iff_of_false hb not_inWord_none
    have begins := inWord_head?_append rest outside
    rwa [List.append_nil] at begins
  refine ⟨a ++ start, stretch, rest ++ b, ?_, reads.between before_iff after_iff⟩
  simp only [List.append_assoc]

end Pattern

namespace TypedDialect

open Pattern

/-- A typed fragment stays typed between others, unless these end or begin in a word. -/
theorem looksTyped_within {s : String} (a b : String) (h : looksTyped s = true)
    (ha : ¬ InWord a.toList.getLast?) (hb : ¬ InWord b.toList.head?) :
    looksTyped (a ++ s ++ b) = true := by
  obtain ⟨q, hq, found⟩ := (looksTyped_iff s).mp h
  refine (looksTyped_iff _).mpr ⟨q, hq, ?_⟩
  simpa only [String.toList_append, List.append_assoc] using found.within ha hb

theorem not_inWord_last_line (a : String) : ¬ InWord (a ++ "\n").toList.getLast? := by
  simpa using not_inWord_lineEnd

theorem not_inWord_next_line (b : String) : ¬ InWord ("\n" ++ b).toList.head? := by
  simpa using not_inWord_lineEnd

/-- Lines before a typed fragment, after it, or both, do not hide it. -/
theorem looksTyped_amid_lines (a s b : String) (h : looksTyped s = true) :
    looksTyped (a ++ "\n" ++ s) = true ∧ looksTyped (s ++ "\n" ++ b) = true ∧
      looksTyped (a ++ "\n" ++ s ++ "\n" ++ b) = true := by
  have below : looksTyped (a ++ "\n" ++ s) = true := by
    simpa using looksTyped_within (a ++ "\n") "" h (not_inWord_last_line a) (by simp)
  have above {s : String} (h : looksTyped s = true) : looksTyped (s ++ "\n" ++ b) = true := by
    simpa [String.append_assoc] using
      looksTyped_within "" ("\n" ++ b) h (by simp) (not_inWord_next_line b)
  exact ⟨below, above h, above below⟩

/-- A word ends the line before, and a bracket is left open on the line after. -/
theorem looksTyped_amid_lines_alias :
    looksTyped "type A = B" = true ∧ looksTyped "sub\ntype A = B\n<C" = true :=
  have typed : looksTyped "type A = B" = true := by decide +kernel
  ⟨typed, (looksTyped_amid_lines "sub" "type A = B" "<C" typed).2.2⟩

end TypedDialect

end ScriptHost
