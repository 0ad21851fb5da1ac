/-! Hexadecimal numbers after the mark `0x`. -/

namespace Readout.Text

/-- Lowercase digits, none of them a leading zero. -/
def hexDigits (n : Nat) : List Char := Nat.toDigits 16 n

def hex (n : Nat) : String := "0x" ++ String.ofList (hexDigits n)

/-- At least `width` digits, filled up with zeros behind the mark. -/
def hexPadded (width n : Nat) : String :=
  "0x" ++ String.ofList ((hexDigits n).leftpad width '0')

end Readout.Text
