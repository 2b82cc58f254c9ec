/-!
# Hexadecimal text of bytes

Two digits a byte, the high half first, with the letters in either case.
-/

namespace SqlCompose.Text

/-- The digit of a number below sixteen, with `ten` the letter for ten. -/
def hexDigit (ten : Char) (n : Nat) : Char :=
  if n < 10 then Char.ofNat ('0'.toNat + n) else Char.ofNat (ten.toNat + (n - 10))

/-- Two digits for each byte, with `ten` the letter for ten. -/
def hexOf (ten : Char) (bytes : List UInt8) : List Char :=
  bytes.flatMap fun b => [hexDigit ten (b.toNat / 16), hexDigit ten (b.toNat % 16)]

end SqlCompose.Text
