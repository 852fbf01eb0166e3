import DecisionPoint.Text.Hex
import DecisionPoint.Text.Hidden

/-!
# Texts quoted in messages

A quoted text shows every character: what would not show is written by its code.
-/

set_option autoImplicit false

namespace DecisionPoint.Text

/-- The hexadecimal digits of a number, without leading zeros. -/
def hexNatural (n : Nat) : List Char :=
  Nat.toDigits 16 n

def visible (c : Char) : List Char :=
  if c = '"' then ['\\', '"']
  else if c = '\\' then ['\\', '\\']
  else if c = '\n' then ['\\', 'n']
  else if c = '\r' then ['\\', 'r']
  else if c = '\t' then ['\\', 't']
  else if c.toNat = 0 then ['\\', '0']
  else if isHidden c then ['\\', 'u', '{'] ++ hexNatural c.toNat ++ ['}']
  else [c]

def quoted (text : String) : String :=
  String.ofList ('"' :: (text.toList.flatMap visible ++ ['"']))

end DecisionPoint.Text
