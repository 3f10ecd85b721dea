import RenderRelay.Text.Hex
import RenderRelay.Text.Hidden

/-!
# Quoted texts

A text between double quotes in which every character can be told: quotes
and backslashes are escaped, and characters that do not show are written as
short escapes or as their number.
-/

set_option autoImplicit false

namespace RenderRelay.Text

def escape (c : Char) : List Char :=
  if c = '"' then ['\\', '"']
  else if c = '\\' then ['\\', '\\']
  else if c = '\n' then ['\\', 'n']
  else if c = '\r' then ['\\', 'r']
  else if c = '\t' then ['\\', 't']
  else if c = '\x00' then ['\\', '0']
  else if isHidden c then ['\\', 'u', '\x7b'] ++ Nat.toDigits 16 c.toNat ++ ['\x7d']
  else [c]

def quoted (s : String) : String := String.ofList ('"' :: (s.toList.flatMap escape ++ ['"']))

example : quoted "a\"\\\n" = "\"a\\\"\\\\\\n\"" := by decide +kernel

example : quoted "\u00a0é" = "\"\\u\x7ba0\x7dé\"" := by decide +kernel

end RenderRelay.Text
