import FlowWatch.Text.Invisible

/-!
# Quoted text in messages

A text inside a message stands between double quotes. A character that would
end the quotation, or that leaves no mark of its own, is written as an escape,
so that different texts are quoted differently. Apostrophes are left alone.
-/

namespace FlowWatch.Text

/-- One character inside a quotation. Tab, line feed, carriage return and NUL
have letters, the rest without a mark is written by its code point in
hexadecimal. -/
def escape (c : Char) : List Char :=
  if c = '\x00' then ['\\', '0']
  else if c = '\t' then ['\\', 't']
  else if c = '\n' then ['\\', 'n']
  else if c = '\r' then ['\\', 'r']
  else if c = '"' then ['\\', '"']
  else if c = '\\' then ['\\', '\\']
  else if isInvisible c then ['\\', 'u', '\x7b'] ++ Nat.toDigits 16 c.toNat ++ ['\x7d']
  else [c]

/-- The quotation of a text. -/
def quote (s : String) : String := String.ofList ('"' :: s.toList.flatMap escape ++ ['"'])

/-- A visible letter stands for itself. -/
example : quote "sink" = "\"sink\"" := by decide +kernel

/-- Invisible characters are written by their code points. -/
example : quote "a\tb\u200b" = "\"a\\tb\\u\x7b200b\x7d\"" := by decide +kernel

end FlowWatch.Text
