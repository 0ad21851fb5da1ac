import Mathlib.Data.Nat.ModEq
import Readout.Proofs.Dma.Flow
import Readout.Proofs.Dma.Transfer

/-!
The rings, the transfers and the list of pages in flight are three accounts of the same pages; they
agree at the start of a run, and every move of the flow keeps them in agreement.
-/

namespace Readout.Dma

/-- Slots counted on from one place differ for as long as they do not go all the way round. -/
theorem slot_ne {tail capacity i j : Nat} (hij : i < j) (hj : j < capacity) :
    (tail + i) % capacity ≠ (tail + j) % capacity := by
  intro h
  have hmod : i ≡ j [MOD capacity] := Nat.ModEq.add_left_cancel' tail h
  rw [Nat.ModEq, Nat.mod_eq_of_lt (hij.trans hj), Nat.mod_eq_of_lt hj] at hmod
  omega

namespace Flow

/-- The pages that are out, oldest first, each with the slots that the rings keep for it. -/
def pagesOut (flow : Flow) : List Page :=
  flow.tracker.outstanding.mapIdx fun i offset =>
    ⟨(flow.ring.fifo.tail + i) % fifoDepth, (flow.ring.buffer.tail + i) % flow.ring.capacity,
      offset, flow.tracker.pageSize⟩

structure InStep (flow : Flow) : Prop where
  inOrder : flow.tracker.InOrder
  inFlight_eq : flow.inFlight = flow.pagesOut
  buffer_size : flow.ring.buffer.size = flow.inFlight.length
  fifo_size : flow.ring.fifo.size = flow.inFlight.length
  length_le_capacity : flow.inFlight.length ≤ flow.ring.capacity
  length_le_depth : flow.inFlight.length ≤ fifoDepth
  fifo_tail_lt : flow.ring.fifo.tail < fifoDepth

variable {flow next : Flow} {page : Page} {tracker : Tracker}

theorem InStep.empty (bufferPages : Nat) (h : tracker.InOrder) (hn : tracker.outstanding = []) :
    (Flow.empty bufferPages tracker).InStep :=
  ⟨h, by simp [pagesOut, Flow.empty, hn], rfl, rfl, Nat.zero_le _, Nat.zero_le _, Nat.succ_pos 127⟩

theorem InStep.clear (flow : Flow) : flow.clear.InStep :=
  InStep.empty _ (Tracker.inOrder_empty _ _ _) rfl

theorem InStep.finish (flow : Flow) : flow.finish.2.InStep :=
  InStep.empty _ (Tracker.inOrder_reclaim _) rfl

/-- A move that leaves the pages that are out as they are leaves the accounts in agreement. -/
theorem InStep.withTracker (h : flow.InStep) (hi : tracker.InOrder)
    (ho : tracker.outstanding = flow.tracker.outstanding)
    (hp : tracker.pageSize = flow.tracker.pageSize) :
    InStep { flow with tracker := tracker } :=
  ⟨hi, by simpa [pagesOut, ho, hp] using h.inFlight_eq, h.buffer_size, h.fifo_size,
    h.length_le_capacity, h.length_le_depth, h.fifo_tail_lt⟩

theorem InStep.promote (h : flow.InStep) : flow.promote.2.InStep :=
  h.withTracker h.inOrder.promote h.inOrder.outstanding_promote rfl

theorem InStep.push (h : flow.InStep) {superpage : Superpage}
    (hp : flow.tracker.push superpage = .ok tracker) : InStep { flow with tracker := tracker } := by
  refine h.withTracker (h.inOrder.push hp) (Tracker.outstanding_push hp) ?_
  obtain ⟨-, -, -, -, -, rfl⟩ := Tracker.push_eq_ok_iff.mp hp
  rfl

theorem InStep.pop (h : flow.InStep) {superpage : Superpage}
    (hp : flow.tracker.pop = .ok (superpage, tracker)) :
    InStep { flow with tracker := tracker } := by
  refine h.withTracker (h.inOrder.pop hp) (Tracker.outstanding_pop hp) ?_
  obtain ⟨ready, -, rfl⟩ := Tracker.pop_eq_ok_iff.mp hp
  rfl

theorem InStep.length_outstanding (h : flow.InStep) :
    flow.tracker.outstanding.length = flow.inFlight.length := by
  rw [h.inFlight_eq, pagesOut, List.length_mapIdx]

/-- The page that goes out takes the slots behind those of the pages that are out. -/
theorem InStep.handOut (h : flow.InStep) (hn : flow.nextPage? = some page)
    (hf : flow.handOut page = (.ok (), next)) : next.InStep := by
  obtain ⟨hfree, offset, ho, rfl⟩ := nextPage?_eq_some_iff.mp hn
  obtain ⟨-, rfl⟩ := Prod.mk.inj ((handOut_of_nextPage hn).symm.trans hf)
  have hb := h.buffer_size
  have hd := h.fifo_size
  have hlen := h.length_outstanding
  simp only [Ring.free, Ring.bufferFree, Ring.fifoFree] at hfree
  have hcap : flow.ring.capacity ≠ 0 := by omega
  have hslots : (⟨flow.ring.fifoHead, flow.ring.bufferHead, offset, flow.tracker.pageSize⟩ : Page) =
      ⟨(flow.ring.fifo.tail + (0 + flow.tracker.outstanding.length)) % fifoDepth,
        (flow.ring.buffer.tail + (0 + flow.tracker.outstanding.length)) % flow.ring.capacity,
        offset, flow.tracker.pageSize⟩ := by
    simp [Ring.fifoHead, Ring.bufferHead, Slots.head, fifoDepth, hcap, hb, hd, hlen]
  refine ⟨h.inOrder.pagePushed, ?_, ?_, ?_, ?_, ?_, h.fifo_tail_lt⟩
  · simp only [pagesOut, h.inOrder.outstanding_pagePushed ho, List.mapIdx_append,
      List.mapIdx_cons, List.mapIdx_nil]
    rw [hslots, h.inFlight_eq]
    rfl
  · simp [Slots.pushHead, hb]
  · simp [Slots.pushHead, hd]
  · simp only [List.length_append, List.length_singleton]
    omega
  · simp only [List.length_append, List.length_singleton]
    omega

/-- The oldest page in flight has the slot at the tail of the FIFO. -/
theorem InStep.fifoIndex_head (h : flow.InStep) (hp : flow.inFlight.head? = some page) :
    page.fifoIndex = flow.ring.fifo.tail := by
  obtain ⟨rest, hl⟩ := List.head?_eq_some_iff.mp hp
  have hpages := h.inFlight_eq
  rw [pagesOut] at hpages
  cases ho : flow.tracker.outstanding with
  | nil => simp [ho, hl] at hpages
  | cons offset offsets =>
    rw [ho, hl, List.mapIdx_cons, List.cons.injEq] at hpages
    rw [hpages.1]
    exact Nat.mod_eq_of_lt h.fifo_tail_lt

theorem InStep.advanceTail_eq (h : flow.InStep) (hp : flow.inFlight.head? = some page) :
    flow.ring.advanceTail = .ok { flow.ring with
      buffer := flow.ring.buffer.popTail flow.ring.capacity
      fifo := flow.ring.fifo.popTail fifoDepth } := by
  obtain ⟨rest, hl⟩ := List.head?_eq_some_iff.mp hp
  exact Ring.advanceTail_eq_ok (by simp [h.buffer_size, hl]) (by simp [h.fifo_size, hl])

/-- A page in flight is one that a transfer waits for. -/
theorem InStep.outstanding_ne_nil (h : flow.InStep) (hp : flow.inFlight.head? = some page) :
    flow.tracker.outstanding ≠ [] := by
  obtain ⟨rest, hl⟩ := List.head?_eq_some_iff.mp hp
  have hlength := h.length_outstanding
  intro hnil
  simp [hnil, hl] at hlength

/-- The oldest page in flight lands wherever its length leads; only a count can overflow. -/
theorem InStep.land_eq (h : flow.InStep) (hp : flow.inFlight.head? = some page) (length : Nat) :
    flow.land page length =
      match flow.tracker.pageArrived length with
      | (.error overflow, tracker) => (.error (.count overflow), { flow with tracker := tracker })
      | (.ok credited, tracker) => (.ok credited,
          ⟨{ flow.ring with
              buffer := flow.ring.buffer.popTail flow.ring.capacity
              fifo := flow.ring.fifo.popTail fifoDepth }, tracker, flow.inFlight.tail⟩) := by
  have hslot := h.fifoIndex_head hp
  unfold Flow.land
  rw [if_neg (not_not.mpr hslot), h.advanceTail_eq hp]
  rcases flow.tracker.pageArrived length with ⟨overflow | credited, tracker⟩ <;> rfl

theorem InStep.land (h : flow.InStep) (hp : flow.inFlight.head? = some page) {length : Nat}
    {credited : Except DmaError Unit} (hf : flow.land page length = (.ok credited, next)) :
    next.InStep := by
  obtain ⟨rest, hl⟩ := List.head?_eq_some_iff.mp hp
  have hlen := h.length_outstanding
  have horder := h.inOrder.pageArrived length
  have hout := h.inOrder.outstanding_pageArrived length
  have hsize := flow.tracker.pageSize_pageArrived length
  rw [h.land_eq hp] at hf
  rcases ha : flow.tracker.pageArrived length with ⟨overflow | credited, tracker⟩
  · simp [ha] at hf
  · simp only [ha] at hf horder hout hsize
    obtain ⟨-, rfl⟩ := Prod.mk.inj hf
    have hb := h.buffer_size
    have hd := h.fifo_size
    have hcapacity := h.length_le_capacity
    have hdepth := h.length_le_depth
    refine ⟨horder, ?_, ?_, ?_, ?_, ?_, Nat.mod_lt _ (Nat.succ_pos 127)⟩
    · have hpages := h.inFlight_eq
      rw [pagesOut] at hpages
      cases ho : flow.tracker.outstanding with
      | nil => simp [ho, hl] at hpages
      | cons offset offsets =>
        rw [ho, List.mapIdx_cons] at hpages
        simp only [pagesOut, hout, ho, hpages, hsize, List.tail_cons, Slots.popTail,
          Nat.mod_add_mod, Nat.add_assoc, Nat.add_comm 1]
    · simp [Slots.popTail, hb]
    · simp [Slots.popTail, hd]
    · simp only [List.length_tail]
      omega
    · simp only [List.length_tail]
      omega

/-- A landing is refused for the length of the page, or by the superpage that waits for it. -/
theorem InStep.error_cases_of_land (h : flow.InStep) (hp : flow.inFlight.head? = some page)
    {length : Nat} {error : DmaError} (hf : flow.land page length = (.ok (.error error), next)) :
    flow.tracker.pageSize < length ∧ error = .pageOverrun length flow.tracker.pageSize ∨
      length ≤ flow.tracker.pageSize ∧ ∃ transfer,
        flow.tracker.transfer.find? Transfer.hasPageInFlight = some transfer ∧
        transfer.superpage.size < transfer.superpage.received + length ∧
        error = .receivedOverflow (transfer.superpage.received + length)
          transfer.superpage.size := by
  obtain ⟨transfer, ht⟩ := Tracker.exists_inFlight_of_outstanding (h.outstanding_ne_nil hp)
  obtain ⟨-, ha, -⟩ := land_eq_ok_iff.mp hf
  have harrived := congrArg Prod.fst ha
  rw [Tracker.pageArrived_fst ht] at harrived
  rcases Transfer.error_of_pageArrived harrived with hlong | ⟨hle, hroom, he⟩
  · exact .inl hlong
  · exact .inr ⟨hle, transfer, ht, hroom, he⟩

/-- A landing ends in a fault only where a count cannot take the length of a page that is not too
long. -/
theorem InStep.overflow_of_land (h : flow.InStep) (hp : flow.inFlight.head? = some page)
    {length : Nat} {fault : FlowFault} (hf : flow.land page length = (.error fault, next)) :
    length ≤ flow.tracker.pageSize ∧ ∃ transfer,
      flow.tracker.transfer.find? Transfer.hasPageInFlight = some transfer ∧
      byteBound ≤ transfer.superpage.received + length := by
  obtain ⟨transfer, ht⟩ := Tracker.exists_inFlight_of_outstanding (h.outstanding_ne_nil hp)
  rw [h.land_eq hp] at hf
  rcases ha : flow.tracker.pageArrived length with ⟨overflow | credited, tracker⟩
  · have harrived := congrArg Prod.fst ha
    rw [Tracker.pageArrived_fst ht] at harrived
    obtain ⟨-, hle, hover⟩ := Transfer.overflow_of_pageArrived harrived
    exact ⟨hle, transfer, ht, hover⟩
  · simp [ha] at hf

theorem InStep.nodup_fifoIndex (h : flow.InStep) : (flow.inFlight.map Page.fifoIndex).Nodup := by
  have hdepth := h.length_le_depth
  rw [← h.length_outstanding] at hdepth
  rw [h.inFlight_eq, pagesOut, List.Nodup, List.pairwise_iff_getElem]
  intro i j hi hj hij
  simp only [List.length_map, List.length_mapIdx] at hj
  simpa using slot_ne hij (by omega)

theorem InStep.nodup_bufferIndex (h : flow.InStep) :
    (flow.inFlight.map Page.bufferIndex).Nodup := by
  have hcapacity := h.length_le_capacity
  rw [← h.length_outstanding] at hcapacity
  rw [h.inFlight_eq, pagesOut, List.Nodup, List.pairwise_iff_getElem]
  intro i j hi hj hij
  simp only [List.length_map, List.length_mapIdx] at hj
  simpa using slot_ne hij (by omega)

end Flow

end Readout.Dma
