import ScriptHost.Proofs.Bill
import ScriptHost.Proofs.Transcript

/-!
# What the console buffer keeps

* `LogBuffer.Fits`, `LogBuffer.LongestFit`: rows of entries that keep to the caps of a buffer, and
  the longest prefix of a row that does;
* `LogBuffer.Use`, `LogBuffer.after`, `LogBuffer.sinceEmptied`: rows of what can be done to a buffer,
  and the entries that were pushed since it was last emptied;
* `LogBuffer.Keeps`: what a buffer holds of these entries;
* `LogBuffer.keeps_after`: it holds the longest prefix that fits, whatever was done to it before.
-/

namespace ScriptHost

namespace LogBuffer

variable {caps b : LogBuffer} {pushed kept : List LogEntry}

/-! ### Prefixes that fit -/

/-- The bytes of a row of entries. -/
def bytesOf (es : List LogEntry) : Nat := total (es.map LogEntry.size)

theorem bytesOf_append (es fs : List LogEntry) : bytesOf (es ++ fs) = bytesOf es + bytesOf fs := by
  rw [bytesOf, List.map_append, total_append]
  rfl

/-- Whether a row of entries keeps to the caps of a buffer. -/
structure Fits (caps : LogBuffer) (es : List LogEntry) : Prop where
  count : es.length ≤ caps.maxEntries
  bytes : bytesOf es ≤ caps.maxBytes

/-- What comes before the end of a row that fits does so too. -/
theorem Fits.of_prefix {es fs : List LogEntry} (fits : caps.Fits fs) (begins : es <+: fs) :
    caps.Fits es := by
  obtain ⟨rest, rfl⟩ := begins
  have count := fits.count
  have bytes := fits.bytes
  rw [List.length_append] at count
  rw [bytesOf_append] at bytes
  exact ⟨by omega, by omega⟩

/-- The longest prefix of a row of entries that keeps to the caps of a buffer. -/
structure LongestFit (caps : LogBuffer) (pushed kept : List LogEntry) : Prop where
  begins : kept <+: pushed
  fits : caps.Fits kept
  longest : ∀ es, es <+: pushed → caps.Fits es → es <+: kept

namespace LongestFit

theorem whole (fits : caps.Fits pushed) : caps.LongestFit pushed pushed :=
  ⟨List.prefix_rfl, fits, fun _ begins _ => begins⟩

/-- An entry that makes the row too long leaves the prefix as it is. -/
theorem concat (longest : caps.LongestFit pushed kept) {e : LogEntry}
    (beyond : ¬ caps.Fits (pushed ++ [e])) : caps.LongestFit (pushed ++ [e]) kept where
  begins := longest.begins.trans (List.prefix_append ..)
  fits := longest.fits
  longest es begins fits := by
    rcases List.prefix_concat_iff.1 begins with rfl | earlier
    · exact absurd fits beyond
    · exact longest.longest es earlier fits

/-- If the prefix is not the whole row, the row does not fit. -/
theorem not_fits (longest : caps.LongestFit pushed kept) (shorter : kept.length < pushed.length) :
    ¬ caps.Fits pushed := fun fits =>
  Nat.not_le_of_lt shorter (longest.longest pushed List.prefix_rfl fits).length_le

end LongestFit

/-! ### What a buffer holds -/

/-- What a buffer holds of the entries that were pushed since it was empty, of which it has kept
some. -/
structure Keeps (caps : LogBuffer) (pushed kept : List LogEntry) (b : LogBuffer) : Prop where
  sameCaps : b.cleared = caps.cleared
  /-- It keeps the longest prefix that fits. -/
  longest : caps.LongestFit pushed kept
  /-- It hands these out, and after them one marker if it has left out any. -/
  taken : b.take.1 = kept ++ if kept.length < pushed.length then [marker kept.length] else []
  truncated : b.truncated = true ↔ kept.length < pushed.length
  /-- Once it has left out an entry it adds none, whether that would fit or not. -/
  ended : b.truncated = true → ∀ e, b.push e = b
  size : b.entries.size ≤ caps.maxEntries + 1
  bytes : b.bytes = bytesOf kept
  within : b.bytes ≤ caps.maxBytes
  /-- It tells the room that is left just as long as it has left out nothing. -/
  remaining : b.remaining? =
    if kept.length < pushed.length then none else some (caps.maxBytes - bytesOf kept)

/-- The facts about a buffer from which the others follow. -/
theorem keeps_of_entries (sameCaps : b.cleared = caps.cleared)
    (longest : caps.LongestFit pushed kept)
    (entries : b.entries.toList =
      kept ++ if kept.length < pushed.length then [marker kept.length] else [])
    (truncated : b.truncated = true ↔ kept.length < pushed.length) (bytes : b.bytes = bytesOf kept) :
    caps.Keeps pushed kept b where
  sameCaps := sameCaps
  longest := longest
  taken := entries
  truncated := truncated
  ended := push_of_truncated
  size := by
    have count := longest.fits.count
    rw [← Array.length_toList, entries]
    split
    · simpa using count
    · simpa using Nat.le_succ_of_le count
  bytes := bytes
  within := bytes ▸ longest.fits.bytes
  remaining := by
    have cap : b.maxBytes = caps.maxBytes := (congrArg LogBuffer.maxBytes sameCaps :)
    simp only [remaining?, truncated, bytes, cap]

theorem keeps_cleared (caps : LogBuffer) : caps.Keeps [] [] caps.cleared :=
  keeps_of_entries rfl (.whole ⟨Nat.zero_le _, Nat.zero_le _⟩) rfl
    ⟨fun ended => Bool.noConfusion ended, fun less => absurd less (Nat.lt_irrefl _)⟩ rfl

/-- Whether there is room for one more entry. -/
theorem fits_concat_iff {e : LogEntry} :
    caps.Fits (pushed ++ [e]) ↔
      ¬ (caps.maxEntries ≤ pushed.length ∨ caps.maxBytes < bytesOf pushed + e.size) := by
  have bytes : bytesOf (pushed ++ [e]) = bytesOf pushed + e.size := bytesOf_append _ _
  have count : (pushed ++ [e]).length = pushed.length + 1 := by simp
  constructor
  · intro fits
    have := fits.count
    have := fits.bytes
    omega
  · intro room
    exact ⟨by omega, by omega⟩

/-- After the end of the log nothing changes, and what is kept is still the longest prefix. -/
theorem Keeps.push_of_shorter (keeps : caps.Keeps pushed kept b)
    (shorter : kept.length < pushed.length) (e : LogEntry) :
    caps.Keeps (pushed ++ [e]) kept (b.push e) := by
  have beyond : ¬ caps.Fits (pushed ++ [e]) := fun fits =>
    keeps.longest.not_fits shorter (fits.of_prefix (List.prefix_append ..))
  have longer : kept.length < (pushed ++ [e]).length := by simp; omega
  have truncated : b.truncated = true := keeps.truncated.2 shorter
  have taken := keeps.taken
  rw [if_pos shorter] at taken
  rw [keeps.ended truncated e]
  refine keeps_of_entries keeps.sameCaps (keeps.longest.concat beyond) ?_ ?_ keeps.bytes
  · rw [if_pos longer]
    exact taken
  · exact ⟨fun _ => longer, fun _ => truncated⟩

/-- Before the end of the log an entry is kept if there is room for it, and ends the log if not. -/
theorem Keeps.push_of_whole (keeps : caps.Keeps kept kept b) (e : LogEntry) :
    ∃ kept', caps.Keeps (kept ++ [e]) kept' (b.push e) := by
  have sameCaps : (b.push e).cleared = caps.cleared := (cleared_push b e).trans keeps.sameCaps
  have opened : b.truncated ≠ true := fun ended => Nat.lt_irrefl _ (keeps.truncated.1 ended)
  have entries : b.entries.toList = kept := by
    have taken := keeps.taken
    rwa [if_neg (Nat.lt_irrefl _), List.append_nil] at taken
  have pushes : b.push e =
      if caps.maxEntries ≤ kept.length ∨ caps.maxBytes < bytesOf kept + e.size then
        { b with truncated := true, entries := b.entries.push (marker kept.length) }
      else { b with bytes := b.bytes + e.size, entries := b.entries.push e } := by
    have size : b.entries.size = kept.length := by rw [← Array.length_toList, entries]
    have maxEntries : b.maxEntries = caps.maxEntries :=
      (congrArg LogBuffer.maxEntries keeps.sameCaps :)
    have maxBytes : b.maxBytes = caps.maxBytes := (congrArg LogBuffer.maxBytes keeps.sameCaps :)
    rw [LogBuffer.push, if_neg opened, size, maxEntries, maxBytes, keeps.bytes]
    simp only [Bool.or_eq_true, decide_eq_true_eq]
  by_cases room : caps.Fits (kept ++ [e])
  · rw [if_neg (fits_concat_iff.1 room)] at pushes
    refine ⟨kept ++ [e], keeps_of_entries sameCaps (.whole room) ?_ ?_ ?_⟩
    · rw [pushes, if_neg (Nat.lt_irrefl _), Array.toList_push, entries, List.append_nil]
    · rw [pushes]
      exact ⟨fun ended => absurd ended opened, fun less => absurd less (Nat.lt_irrefl _)⟩
    · rw [pushes, bytesOf_append, ← keeps.bytes]
      rfl
  · have longer : kept.length < (kept ++ [e]).length := by simp
    rw [if_pos (Decidable.not_not.1 (mt fits_concat_iff.2 room))] at pushes
    refine ⟨kept, keeps_of_entries sameCaps (keeps.longest.concat room) ?_ ?_ ?_⟩
    · rw [pushes, if_pos longer, Array.toList_push, entries]
    · rw [pushes]
      exact ⟨fun _ => longer, fun _ => rfl⟩
    · rw [pushes]
      exact keeps.bytes

/-- A buffer with one more entry. -/
theorem Keeps.push (keeps : caps.Keeps pushed kept b) (e : LogEntry) :
    ∃ kept', caps.Keeps (pushed ++ [e]) kept' (b.push e) := by
  by_cases shorter : kept.length < pushed.length
  · exact ⟨kept, keeps.push_of_shorter shorter e⟩
  · obtain rfl : kept = pushed := keeps.longest.begins.eq_of_length_le (Nat.le_of_not_lt shorter)
    exact keeps.push_of_whole e

/-! ### Rows of uses -/

/-- What can be done to a buffer. -/
inductive Use
  | push (e : LogEntry)
  | take
  | clear

def use (b : LogBuffer) : Use → LogBuffer
  | .push e => b.push e
  | .take => b.take.2
  | .clear => b.cleared

/-- A buffer after a row of uses. -/
def after (b : LogBuffer) (uses : List Use) : LogBuffer := uses.foldl use b

/-- The entries that were pushed since a buffer was empty, after one more use. -/
def pushedWith (pushed : List LogEntry) : Use → List LogEntry
  | .push e => pushed ++ [e]
  | .take | .clear => []

/-- The entries that a row of uses has pushed since it last emptied the buffer. -/
def sinceEmptied (uses : List Use) : List LogEntry := uses.foldl pushedWith []

theorem Keeps.use (keeps : caps.Keeps pushed kept b) (u : Use) :
    ∃ kept', caps.Keeps (pushedWith pushed u) kept' (b.use u) := by
  cases u with
  | push e => exact keeps.push e
  | take =>
    have emptied : b.use .take = caps.cleared := keeps.sameCaps
    exact ⟨[], emptied ▸ caps.keeps_cleared⟩
  | clear =>
    have emptied : b.use .clear = caps.cleared := keeps.sameCaps
    exact ⟨[], emptied ▸ caps.keeps_cleared⟩

theorem Keeps.after (keeps : caps.Keeps pushed kept b) (uses : List Use) :
    ∃ kept', caps.Keeps (uses.foldl pushedWith pushed) kept' (b.after uses) := by
  -- the row is used up from the front, so the buffer and what was pushed vary
  induction uses generalizing pushed kept b with
  | nil => exact ⟨kept, keeps⟩
  | cons u rest ih =>
    obtain ⟨_, keeps'⟩ := keeps.use u
    exact ih keeps'

/-- A buffer that was empty once holds the longest prefix that fits of what was pushed since it was
last emptied, and after it the marker if that is not all. -/
theorem keeps_after (caps : LogBuffer) (uses : List Use) :
    ∃ kept, caps.Keeps (sinceEmptied uses) kept (caps.cleared.after uses) :=
  caps.keeps_cleared.after uses

/-- Bytes run out before entries do, and an entry without arguments needs none; but after the marker
there is no room for it either. -/
example :
    ((cleared { maxEntries := 3, maxBytes := 16 }).after
        [.push ⟨.log, [.null]⟩, .push ⟨.info, []⟩, .push ⟨.log, [.null]⟩,
          .push ⟨.info, []⟩]).take.1.map LogEntry.display =
      ["[log] null", "[info] ", "[warn] console output truncated after 2 entries"] := by
  decide +kernel

end LogBuffer

end ScriptHost
