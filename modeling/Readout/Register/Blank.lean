import Readout.Register.Port

/-! A port without registers behind it. -/

namespace Readout.Register

/-- Every read answers zero and every write is dropped. -/
structure BlankPort where
  deriving DecidableEq

instance : RegisterPort BlankPort where
  read port _ := (.ok 0, port)
  write port _ _ := (.ok (), port)

end Readout.Register
