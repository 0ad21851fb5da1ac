import Readout.Dma.Flow
import Readout.Proofs.Dma.Transfer

/-! What the moves of the flow of pages do when they are allowed. -/

namespace Readout.Dma.Flow

variable {flow next : Flow} {page : Page}

theorem nextPage?_eq_some_iff :
    flow.nextPage? = some page ↔
      0 < flow.ring.free ∧ ∃ offset, flow.tracker.nextPage = some offset ∧
        page = ⟨flow.ring.fifoHead, flow.ring.bufferHead, offset, flow.tracker.pageSize⟩ := by
  unfold nextPage?
  split
  next h => simp [h]
  next h => simp [Nat.pos_of_ne_zero h, eq_comm (a := page)]

/-- A page that is the next one can always be handed out. -/
theorem handOut_of_nextPage (h : flow.nextPage? = some page) :
    flow.handOut page = (.ok (),
      { ring := { flow.ring with buffer := flow.ring.buffer.pushHead
                                 fifo := flow.ring.fifo.pushHead }
        tracker := flow.tracker.pagePushed
        inFlight := flow.inFlight ++ [page] }) := by
  obtain ⟨hfree, -⟩ := nextPage?_eq_some_iff.mp h
  simp [handOut, Ring.advanceHead_eq_ok hfree]

theorem land_eq_ok_iff {length : Nat} {credited : Except DmaError Unit} :
    flow.land page length = (.ok credited, next) ↔
      page.fifoIndex = flow.ring.fifo.tail ∧
      flow.tracker.pageArrived length = (.ok credited, next.tracker) ∧
      flow.ring.advanceTail = .ok next.ring ∧ next.inFlight = flow.inFlight.tail := by
  obtain ⟨ring, tracker, inFlight⟩ := next
  unfold land
  split
  next h => simp [h]
  next h =>
    rw [Classical.not_not] at h
    rcases ha : flow.tracker.pageArrived length with ⟨overflow | credited, after⟩
    · simp [h]
    · cases hr : flow.ring.advanceTail with
      | error fault => simp [h]
      | ok freed =>
        simp only [h, Prod.mk.injEq, Except.ok.injEq, Flow.mk.injEq, eq_comm (a := freed),
          eq_comm (a := after), true_and, and_assoc]
        grind

theorem tracker_of_handOut (hn : flow.nextPage? = some page)
    (hf : flow.handOut page = (.ok (), next)) : next.tracker = flow.tracker.pagePushed := by
  obtain ⟨-, rfl⟩ := Prod.mk.inj ((handOut_of_nextPage hn).symm.trans hf)
  rfl

theorem tracker_of_land {length : Nat} {credited : Except DmaError Unit}
    (hf : flow.land page length = (.ok credited, next)) :
    next.tracker = (flow.tracker.pageArrived length).2 := by
  obtain ⟨-, ha, -⟩ := land_eq_ok_iff.mp hf
  rw [ha]

/-- A page that goes out or lands changes neither the size of the ring nor that of the pages. -/
theorem sizes_of_handOut (hn : flow.nextPage? = some page)
    (hf : flow.handOut page = (.ok (), next)) :
    next.ring.capacity = flow.ring.capacity ∧ next.tracker.pageSize = flow.tracker.pageSize := by
  obtain ⟨-, rfl⟩ := Prod.mk.inj ((handOut_of_nextPage hn).symm.trans hf)
  exact ⟨rfl, rfl⟩

theorem sizes_of_land {length : Nat} {credited : Except DmaError Unit}
    (hf : flow.land page length = (.ok credited, next)) :
    next.ring.capacity = flow.ring.capacity ∧ next.tracker.pageSize = flow.tracker.pageSize := by
  obtain ⟨-, -, hr, -⟩ := land_eq_ok_iff.mp hf
  constructor
  · unfold Ring.advanceTail at hr
    split at hr
    · simp at hr
    · split at hr
      · simp at hr
      · rw [← Except.ok.inj hr]
  · rw [tracker_of_land hf, Tracker.pageSize_pageArrived]

end Readout.Dma.Flow
