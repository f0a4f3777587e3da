import Mintage.Text.Hidden

/-!
# Quoted text

Messages quote the texts that they complain about. Within the quotes every character can be seen:
one that would not show, or would change how its neighbours show, is written as its number.
-/

namespace Mintage.Quoted

/-- A character within quotes. -/
def renderChar (c : Char) : String :=
  match c with
  | '"' => "\\\""
  | '\\' => "\\\\"
  | '\n' => "\\n"
  | '\r' => "\\r"
  | '\t' => "\\t"
  | '\x00' => "\\0"
  | c => if CharSet.hidden.contains c then "\\u\x7b" ++ Hex.ofNat c.toNat ++ "\x7d" else c.toString

/-- A text in quotes. -/
def render (s : String) : String := "\"" ++ String.join (s.toList.map renderChar) ++ "\""

end Mintage.Quoted
