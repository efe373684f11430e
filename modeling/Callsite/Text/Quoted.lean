import Callsite.Text.Hexadecimal
import Callsite.Text.Hidden

/-!
# Quoted text

The quoted form of a text in diagnostics: double quotes around it, a backslash
before quotes, backslashes and the common control characters, and a code point
in braces for a character that does not show by itself.
-/

namespace Callsite.Quoted

open Callsite.Hidden (isHidden)

/-- One character between the quotes. -/
def escape (character : Char) : String :=
  match character with
  | '"' => "\\\""
  | '\\' => "\\\\"
  | '\n' => "\\n"
  | '\r' => "\\r"
  | '\t' => "\\t"
  | '\x00' => "\\0"
  | other =>
      if isHidden other then
        "\\u\x7b" ++ Hexadecimal.ofNat other.toNat ++ "\x7d"
      else
        String.singleton other

/-- The quoted form of a text. -/
def ofString (text : String) : String :=
  "\"" ++ String.join (text.toList.map escape) ++ "\""

end Callsite.Quoted
