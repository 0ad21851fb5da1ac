import Readout.Channel.Transport

/-! A transport on which every page lands in full as soon as it is pushed. -/

namespace Readout

/-- The pages pushed and not yet polled, oldest first. -/
structure Loopback where
  pending : List Dma.Page
  running : Bool
  deriving DecidableEq

namespace Loopback

def idle : Loopback := ⟨[], false⟩

/-- A run begins without the pages of an earlier one. -/
def start (_ : Loopback) : Loopback := ⟨[], true⟩

def stop (loopback : Loopback) : Loopback := { loopback with running := false }

def push (loopback : Loopback) (page : Dma.Page) : Loopback :=
  { loopback with pending := loopback.pending ++ [page] }

/-- Only the oldest page answers; asking for another one changes nothing. -/
def poll (loopback : Loopback) (page : Dma.Page) : Option Nat × Loopback :=
  match loopback.pending with
  | [] => (none, loopback)
  | front :: rest =>
    if front = page then (some page.size, { loopback with pending := rest })
    else (none, loopback)

instance : PageTransport Loopback where
  start loopback := (.ok (), loopback.start)
  stop loopback := (.ok (), loopback.stop)
  pushPage loopback page := (.ok (), loopback.push page)
  pollPage loopback page :=
    let (landed, loopback) := loopback.poll page
    (.ok landed, loopback)

end Loopback

end Readout
