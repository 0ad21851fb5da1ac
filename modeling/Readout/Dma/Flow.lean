import Readout.Dma.Page
import Readout.Dma.Ring
import Readout.Dma.Tracker

/-! The flow of pages of one run: the rings, the superpages and the pages that are out. -/

namespace Readout.Dma

/-- The depth of the hardware's completion FIFO. -/
def fifoDepth : Nat := 128

/-- A step that the state of the flow does not allow. -/
inductive FlowFault where
  | ring (fault : RingFault)
  | count (overflow : CountOverflow)
  | slotMismatch (page : Page)
  deriving DecidableEq

def FlowFault.message : FlowFault → String
  | .ring fault => fault.message
  | .count overflow => overflow.message
  | .slotMismatch page => s!"page with FIFO slot {page.fifoIndex} is not the oldest one"

/-- The pages in flight are those handed out and not yet landed, oldest first. -/
structure Flow where
  ring : Ring fifoDepth
  tracker : Tracker
  inFlight : List Page
  deriving DecidableEq

namespace Flow

def empty (bufferPages : Nat) (tracker : Tracker) : Flow := ⟨.withCapacity bufferPages, tracker, []⟩

/-- The next page to hand out, if a superpage has one and the rings have room for it. -/
def nextPage? (flow : Flow) : Option Page :=
  if flow.ring.free = 0 then none
  else
    flow.tracker.nextPage.map fun offset =>
      ⟨flow.ring.fifoHead, flow.ring.bufferHead, offset, flow.tracker.pageSize⟩

/-- The page is out: its superpage counts it, and it takes a slot in each ring. -/
def handOut (flow : Flow) (page : Page) : Except FlowFault Unit × Flow :=
  let tracker := flow.tracker.pagePushed
  match flow.ring.advanceHead with
  | .ok ring => (.ok (), ⟨ring, tracker, flow.inFlight ++ [page]⟩)
  | .error fault => (.error (.ring fault), { flow with tracker := tracker })

/--
The oldest page in flight has landed: it leaves both rings, whether or not its length counts. At a
fault it stays where it is, though its superpage may have counted it.
-/
def land (flow : Flow) (page : Page) (length : Nat) :
    Except FlowFault (Except DmaError Unit) × Flow :=
  if page.fifoIndex ≠ flow.ring.fifo.tail then (.error (.slotMismatch page), flow)
  else
    let (arrival, tracker) := flow.tracker.pageArrived length
    match arrival with
    | .error overflow => (.error (.count overflow), { flow with tracker := tracker })
    | .ok credited =>
      match flow.ring.advanceTail with
      | .ok ring => (.ok credited, ⟨ring, tracker, flow.inFlight.tail⟩)
      | .error fault => (.error (.ring fault), { flow with tracker := tracker })

def promote (flow : Flow) : Nat × Flow :=
  let (moved, tracker) := flow.tracker.promote
  (moved, { flow with tracker := tracker })

/-- Every superpage is over and no page is out; the number of those cut short is the answer. -/
def finish (flow : Flow) : Nat × Flow :=
  let (moved, tracker) := flow.tracker.reclaim
  (moved, ⟨flow.ring.reset, tracker, []⟩)

/-- Nothing is left of an earlier run. -/
def clear (flow : Flow) : Flow := ⟨flow.ring.reset, flow.tracker.clear, []⟩

end Flow

end Readout.Dma
