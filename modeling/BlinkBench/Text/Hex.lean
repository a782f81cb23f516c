/-!
# Hexadecimal numbers

Numbers are shown with the mark `0x` and small letters; bytes always have two digits. Characters
that are not to be seen themselves are shown by their codes.
-/
namespace BlinkBench.Hex

/-- A number, with as few digits as it needs. -/
def ofNat (n : Nat) : String :=
  "0x" ++ String.ofList (Nat.toDigits 16 n)

/-- An address. -/
def ofAddress (a : UInt64) : String :=
  ofNat a.toNat

/-- Two digits for a number below 256. -/
def twoDigits (n : Nat) : List Char :=
  [Nat.digitChar (n / 16), Nat.digitChar (n % 16)]

/-- A byte, with two digits. -/
def ofByte (b : UInt8) : String :=
  "0x" ++ String.ofList (twoDigits b.toNat)

/-- The code of a character, in braces behind a mark. -/
def codeOf (c : Char) : List Char :=
  ['\\', 'u', '\x7b'] ++ Nat.toDigits 16 c.toNat ++ ['\x7d']

end BlinkBench.Hex
