/-! Why an access to a register fails. -/

namespace Readout

inductive RegisterError where
  | outOfRange (index limit : Nat)
  | writeProtected (index : Nat)
  deriving DecidableEq

def RegisterError.message : RegisterError → String
  | .outOfRange index limit =>
    s!"register index {index} is outside the mapped range of {limit} registers"
  | .writeProtected index => s!"register index {index} is protected against writes"

end Readout
