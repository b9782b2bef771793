import DeviceSync.Bytes.Basic

/-!
# Base 64 for addresses

The base 64 alphabet that is safe in an address (`-` and `_` for the last two digits), without
padding. Each group of three octets gives four digits; a last group of one or two octets gives two
or three.
-/

namespace DeviceSync.Bytes

/-- The digit of a six-bit number. -/
def base64Digit (n : Nat) : Char :=
  if n < 26 then Char.ofNat (65 + n)
  else if n < 52 then Char.ofNat (71 + n)
  else if n < 62 then Char.ofNat (n - 4)
  else if n = 62 then '-' else '_'

/-- The digits of a byte string, group by group. -/
def base64Digits : Bytes → List Char
  | [] => []
  | [a] =>
    let n := a.toNat * 16
    [base64Digit (n / 64), base64Digit (n % 64)]
  | [a, b] =>
    let n := (a.toNat * 256 + b.toNat) * 4
    [base64Digit (n / 4096), base64Digit (n / 64 % 64), base64Digit (n % 64)]
  | a :: b :: c :: rest =>
    let n := (a.toNat * 256 + b.toNat) * 256 + c.toNat
    base64Digit (n / 262144) :: base64Digit (n / 4096 % 64) :: base64Digit (n / 64 % 64) ::
      base64Digit (n % 64) :: base64Digits rest

/-- Unpadded base 64 text. -/
def toBase64Url (bs : Bytes) : String := String.ofList (base64Digits bs)

end DeviceSync.Bytes
