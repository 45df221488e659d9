import ForkCensus.Text.Ascii
import ForkCensus.Unicode.Shown

/-
# Quoted text

The form in which a log line shows a text: between double quotes, with
quotes, backslashes and everything that would not show on its own
written as an escape.
-/

namespace ForkCensus.Text

/-- One character inside quotes: the short escapes, then `\u\x7b…\x7d` for what does not show. -/
def quotedChar (c : Char) : String :=
  match c with
  | '\x00' => "\\0"
  | '\t' => "\\t"
  | '\r' => "\\r"
  | '\n' => "\\n"
  | '"' => "\\\""
  | '\\' => "\\\\"
  | c => if Unicode.isShown c then c.toString else "\\u\x7b" ++ hex c.toNat ++ "\x7d"

/-- The text between double quotes. -/
def quoted (s : String) : String :=
  "\"" ++ String.join (s.toList.map quotedChar) ++ "\""

/-- A truth value as a log line shows it. -/
def truth (b : Bool) : String :=
  if b then "true" else "false"

end ForkCensus.Text
