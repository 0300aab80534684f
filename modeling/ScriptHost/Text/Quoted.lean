import ScriptHost.Text.Printable

/-!
# Quoted text in messages

Messages show a text between double quotes, with escapes for what would not show as itself.

* `Quoted.escape`: one character as it stands between the quotes;
* `Quoted.quote`: the quoted text.
-/

namespace ScriptHost

namespace Quoted

/-- One character as it stands between the quotes. -/
def escape (c : Char) : List Char :=
  match c with
  | '"' => ['\\', '"']
  | '\\' => ['\\', '\\']
  | '\n' => ['\\', 'n']
  | '\r' => ['\\', 'r']
  | '\t' => ['\\', 't']
  | '\x00' => ['\\', '0']
  | _ =>
    if isPrintable c then [c]
    else ['\\', 'u', '\x7b'] ++ Nat.toDigits 16 c.toNat ++ ['\x7d']

/-- A text between double quotes. -/
def quote (s : String) : String := String.ofList ('"' :: s.toList.flatMap escape ++ ['"'])

end Quoted

end ScriptHost
