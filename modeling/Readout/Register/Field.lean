/-! Bit fields of a 32-bit register word. -/

namespace Readout.Register

/-- The bits from `position` on, `width` of them; what would lie beyond bit 31 is cut off. -/
structure Field where
  position : UInt32
  width : UInt32
  deriving DecidableEq

namespace Field

def mask (field : Field) : UInt32 :=
  if field.width = 0 ∨ 32 ≤ field.position then 0
  else if 32 ≤ field.width then 0xffffffff <<< field.position
  else ((1 <<< field.width) - 1) <<< field.position

/-- `word` with the field's bits taken from the low end of `value`. -/
def insert (field : Field) (word value : UInt32) : UInt32 :=
  (word &&& ~~~field.mask) ||| ((value <<< field.position) &&& field.mask)

end Field

/-- Bit `bit` of `word`; a word has no bits beyond 31. -/
def testBit (word bit : UInt32) : Bool :=
  decide (bit < 32) && (word >>> bit) &&& 1 == 1

end Readout.Register
