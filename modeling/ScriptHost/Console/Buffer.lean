import ScriptHost.Log

/-!
# The console buffer

What a script logs is kept outside of its heap, so it is capped, by entries and by bytes.  Once a
cap is reached, a marker ends the log and nothing more is kept.

* `LogBuffer`: the entries kept so far;
* `LogBuffer.push`: one more entry, as far as there is room;
* `LogBuffer.remaining?`: the bytes that are left, unless the log has ended;
* `LogBuffer.take`: the entries, leaving an empty buffer.
-/

namespace ScriptHost

/-- The bytes of an entry on the scale of conversion budgets. -/
def LogEntry.size (e : LogEntry) : Nat := total (e.args.map Json.size)

/-- The entries kept so far, under a cap on their number and one on their bytes. -/
structure LogBuffer where
  maxEntries : Nat := 1000
  maxBytes : Nat := 1024 * 1024
  entries : Array LogEntry := #[]
  bytes : Nat := 0
  truncated : Bool := false

namespace LogBuffer

/-- The buffer with its caps and nothing in it. -/
def cleared (b : LogBuffer) : LogBuffer :=
  { maxEntries := b.maxEntries, maxBytes := b.maxBytes }

/-- The bytes that are left, unless the log has ended. -/
def remaining? (b : LogBuffer) : Option Nat :=
  if b.truncated then none else some (b.maxBytes - b.bytes)

/-- The entry that ends a log of `kept` entries. -/
def marker (kept : Nat) : LogEntry :=
  ⟨.warn, [.str ("console output truncated after " ++ toString kept ++ " entries")]⟩

/-- One more entry; the marker if there is no room for it; nothing if the log has ended. -/
def push (b : LogBuffer) (e : LogEntry) : LogBuffer :=
  if b.truncated then b
  else if b.maxEntries ≤ b.entries.size || b.maxBytes < b.bytes + e.size then
    { b with truncated := true, entries := b.entries.push (marker b.entries.size) }
  else { b with bytes := b.bytes + e.size, entries := b.entries.push e }

/-- The entries, and the buffer without them. -/
def take (b : LogBuffer) : List LogEntry × LogBuffer := (b.entries.toList, b.cleared)

end LogBuffer

end ScriptHost
