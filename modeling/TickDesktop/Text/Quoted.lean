import TickDesktop.Text.Numeral
import TickDesktop.Text.Shapeless

/-!
# Quoted text

A text between double quotes, with a backslash before the characters that would end it or could
not be seen. A character that has no shape of its own is written by its code in braces.
-/
namespace TickDesktop.Text

/-- One character as it stands between the quotes. -/
def escape (c : Char) : List Char :=
  match c with
  | '\t' => ['\\', 't']
  | '\n' => ['\\', 'n']
  | '\r' => ['\\', 'r']
  | '"' => ['\\', '"']
  | '\\' => ['\\', '\\']
  | '\x00' => ['\\', '0']
  | c =>
    if isShapeless c then
      ['\\', 'u', '\x7b'] ++ digits 16 c.toNat ++ ['\x7d']
    else [c]

/-- The text between double quotes. -/
def quoted (s : String) : String :=
  String.ofList ('"' :: s.toList.flatMap escape ++ ['"'])

end TickDesktop.Text
