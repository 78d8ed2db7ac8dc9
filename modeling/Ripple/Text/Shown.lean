import Ripple.Unicode.Property

/-!
# Strings shown to a reader

A string in quotes that can be told from any other by looking at it. Characters that cannot be
seen, or that would join what stands in front of them, are written by their code point.
-/

namespace Ripple.Text

/-- The digits of a number in base sixteen. -/
def hexDigits (n : Nat) : List Char := Nat.toDigits 16 n

/-- One character of a shown string. -/
def showChar (c : Char) : List Char :=
  if c = '\x00' then ['\\', '0']
  else if c = '\t' then ['\\', 't']
  else if c = '\r' then ['\\', 'r']
  else if c = '\n' then ['\\', 'n']
  else if c = '"' then ['\\', '"']
  else if c = '\\' then ['\\', '\\']
  else if 32 ≤ c.toNat && c.toNat < 127 then [c]
  else if Unicode.graphemeExtend.contains c || Unicode.unprintable.contains c then
    '\\' :: 'u' :: '\x7b' :: hexDigits c.toNat ++ ['\x7d']
  else [c]

/-- A string in quotes. -/
def shown (s : String) : String :=
  String.ofList ('"' :: s.toList.flatMap showChar ++ ['"'])

end Ripple.Text
