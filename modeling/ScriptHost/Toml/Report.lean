import ScriptHost.Toml.Reader

/-!
# Complaints about configuration text

A complaint shows the line that it is about and underlines the part that does not fit.

* `Toml.Place`, `Toml.placeOf`: line and column of a byte;
* `Toml.report`: the complaint about a span of a text;
* `Toml.numbers`: how complaints write doubles.
-/

namespace ScriptHost

namespace Toml

/-- A line and a column, both counted from zero. -/
structure Place where
  line : Nat
  column : Nat

/-- The longest prefix of at most `n` bytes. -/
def prefixWithin : Nat → List Char → List Char
  | _, [] => []
  | n, c :: cs => if c.utf8Size ≤ n then c :: prefixWithin (n - c.utf8Size) cs else []

/-- The part of a text after its last line end. -/
def lastLine (cs : List Char) : List Char := (cs.reverse.takeWhile (· != '\n')).reverse

/-- The place of the byte number `n` of a text.  The column counts characters if that byte ends a
character, and bytes if it does not.  The end of the text is one column after its last byte. -/
def placeOf (text : List Char) (n : Nat) : Place :=
  let last := min n (byteSize text - 1)
  let upTo := prefixWithin (last + 1) text
  if text.isEmpty then ⟨0, n⟩
  else if byteSize upTo = last + 1 then
    let before := upTo.dropLast
    ⟨before.count '\n', (lastLine before).length + (n - last)⟩
  else ⟨upTo.count '\n', byteSize (lastLine upTo) + (n - last)⟩

/-- A line of a text, without its end. -/
def lineOf (text : List Char) : Nat → List Char
  | 0 => text.takeWhile (· != '\n')
  | n + 1 => lineOf ((text.dropWhile (· != '\n')).drop 1) n

def indent (n : Nat) : String := "".pushn ' ' n

/-- The first line of a complaint. -/
def headline (p : Place) : String :=
  "TOML parse error at line " ++ toString (p.line + 1) ++ ", column " ++ toString (p.column + 1)

/-- The complaint about a span of a text: where it is, the line, and a mark under the span as far
as it stays on the line.  The mark is as long as the span has bytes. -/
def report (text : String) (span : Span) (message : String) : String :=
  let text := text.toList
  let p := placeOf text span.start
  let content := lineOf text p.line
  let number := toString (p.line + 1)
  let gutter := indent (number.length + 1) ++ "|"
  let marked := max 1 (min (span.stop - span.start) (byteSize content - p.column))
  headline p ++ "\n" ++ gutter ++ "\n" ++ number ++ " | " ++ String.ofList content ++ "\n" ++ gutter
    ++ indent (p.column + 1) ++ "".pushn '^' marked ++ "\n" ++ message ++ "\n"

/-- Complaints write doubles positionally, with a fraction unless they are not finite. -/
def numbers : NumberStyle :=
  { NumberStyle.message with wholeSuffix := ".0", zero := "0.0", negativeZero := "-0.0" }

end Toml

end ScriptHost
