import CausalTrace.Text.Decimal
import CausalTrace.Text.Invisible

/-!
# Quoted text in messages

Diagnostics show a text between double quotes so that its limits and its invisible characters
can be seen.  Five characters have a short spelling, other invisible ones are written as their
code point in braces, and everything else stands for itself.
-/

namespace CausalTrace.Quoted

/-- The spelling of one character. -/
def escape (c : Char) : List Char :=
  if c = '\x00' then ['\\', '0']
  else if c = '\t' then ['\\', 't']
  else if c = '\r' then ['\\', 'r']
  else if c = '\n' then ['\\', 'n']
  else if c = '"' ∨ c = '\\' then ['\\', c]
  else if c.toNat < 0x20 ∨ Invisible.covers c.toNat then
    ['\\', 'u', '\x7b'] ++ (Decimal.renderHex c.toNat).toList ++ ['\x7d']
  else [c]

/-- The text between double quotes. -/
def render (text : String) : String :=
  String.ofList ('"' :: text.toList.flatMap escape ++ ['"'])

end CausalTrace.Quoted
