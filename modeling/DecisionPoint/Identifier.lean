import DecisionPoint.Text.Hex

/-!
# Fresh identifiers

A generated identifier has the form of a version 7 universal identifier: the time in
milliseconds, the version, and a serial number in place of the random part.
-/

set_option autoImplicit false

namespace DecisionPoint

def hyphenated (digits : List Char) : List Char :=
  digits.take 8 ++ '-' :: (digits.drop 8).take 4 ++ '-' :: (digits.drop 12).take 4 ++
    '-' :: (digits.drop 16).take 4 ++ '-' :: digits.drop 20

def freshIdentifier (millis serial : Nat) : String :=
  let high := millis % Nat.pow 2 48 * Nat.pow 2 16 + 0x7000
  let low := 0x8000000000000000 + serial % Nat.pow 2 62
  String.ofList (hyphenated (Text.hexDigits 32 (high * Nat.pow 2 64 + low)))

example : freshIdentifier 0 5 = "00000000-0000-7000-8000-000000000005" := by decide +kernel

end DecisionPoint
