import Readout.Dma.Page
import Readout.Error

/-! What takes pages to the hardware and tells when they have landed. -/

namespace Readout

/-- A transport may fail at any call and is left in a state of its own choosing. -/
class PageTransport (τ : Type) where
  start : τ → Except Error Unit × τ := fun transport => (.ok (), transport)
  stop : τ → Except Error Unit × τ := fun transport => (.ok (), transport)
  pushPage : τ → Dma.Page → Except Error Unit × τ
  /-- The length of a page that has landed. -/
  pollPage : τ → Dma.Page → Except Error (Option Nat) × τ

end Readout
