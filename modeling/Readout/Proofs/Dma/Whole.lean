import Readout.Proofs.Dma.InStep
import Readout.Proofs.Dma.Progress

/-!
Pages that land in full. A superpage that was pushed with nothing received then counts its whole
pages, has room for each of them, and is filled when it is promoted.
-/

namespace Readout.Dma

variable {pageSize : Nat}

namespace Transfer

/-- What has arrived has counted in full, and nothing else has. -/
def Whole (pageSize : Nat) (transfer : Transfer) : Prop :=
  transfer.superpage.received = transfer.arrived * pageSize

variable {transfer : Transfer}

/-- A whole page that is out has room in its superpage. -/
theorem Whole.pageArrived (hw : transfer.Whole pageSize) (h : transfer.Sound pageSize)
    (hlt : transfer.arrived < transfer.pushed) (hb : transfer.superpage.size < byteBound) :
    (transfer.pageArrived pageSize pageSize).1 = .ok (.ok ()) ∧
      (transfer.pageArrived pageSize pageSize).2.Whole pageSize := by
  have hsum : transfer.superpage.received + pageSize = (transfer.arrived + 1) * pageSize := by
    rw [hw, Nat.add_mul, Nat.one_mul]
  have hroom : (transfer.arrived + 1) * pageSize ≤ transfer.superpage.size := by
    rw [← h.pages_mul]
    exact Nat.mul_le_mul_right _ (Nat.le_trans hlt h.pushed_le_pages)
  have hset : transfer.superpage.setReceived ((transfer.arrived + 1) * pageSize) =
      .ok { transfer.superpage with received := (transfer.arrived + 1) * pageSize } := by
    rw [Superpage.setReceived_eq_ok_iff]
    exact ⟨by omega, hroom, rfl⟩
  have hcount : transfer.superpage.received + pageSize < byteBound := by omega
  have hcredit := Superpage.credit_eq_ok hcount
  rw [hsum, hset] at hcredit
  unfold Transfer.pageArrived
  rw [if_neg (Nat.lt_irrefl _), hcredit]
  exact ⟨rfl, rfl⟩

/-- A superpage whose pages have all landed in full is ready and filled. -/
theorem Whole.finish (hw : transfer.Whole pageSize) (h : transfer.Sound pageSize)
    (hc : transfer.arrived = transfer.pages) :
    transfer.finish.ready = true ∧ transfer.finish.isFilled = true := by
  have hcomplete : transfer.isComplete = true := beq_iff_eq.mpr hc
  rw [Transfer.finish, if_pos hcomplete]
  refine ⟨rfl, ?_⟩
  rw [Superpage.isFilled, beq_iff_eq]
  change transfer.superpage.received = transfer.superpage.size
  rw [hw, hc, h.pages_mul]

end Transfer

namespace Tracker

/-- Every page that has arrived has counted in full. -/
def Whole (tracker : Tracker) : Prop :=
  ∀ transfer ∈ tracker.transfer, transfer.Whole tracker.pageSize

variable {tracker next : Tracker} {superpage : Superpage}

theorem whole_of_transfer_eq_nil (h : tracker.transfer = []) : tracker.Whole := by
  simp [Whole, h]

theorem Whole.push (hw : tracker.Whole) (hfresh : superpage.received = 0)
    (hp : tracker.push superpage = .ok next) : next.Whole := by
  obtain ⟨-, -, -, -, -, rfl⟩ := push_eq_ok_iff.mp hp
  intro transfer ht
  rcases List.mem_append.mp ht with ht | ht
  · exact hw transfer ht
  · obtain rfl := List.mem_singleton.mp ht
    rw [Transfer.Whole, Transfer.start, hfresh, Nat.zero_mul]

theorem Whole.pagePushed (hw : tracker.Whole) : tracker.pagePushed.Whole := by
  intro transfer ht
  obtain ⟨other, hother, heq⟩ := tracker.sameQueues_pagePushed.exists_of_mem ht
  have hwhole := hw other hother
  unfold Transfer.Whole at hwhole ⊢
  have hreceived := congrArg (·.superpage.received) heq
  have harrived := congrArg Transfer.arrived heq
  simp only [Transfer.unpushed] at hreceived harrived
  rw [← hreceived, ← harrived]
  exact hwhole

/-- A page that lands in full is credited. -/
theorem Whole.pageArrived (hw : tracker.Whole) (h : tracker.InOrder)
    (hb : ∀ transfer ∈ tracker.transfer, transfer.superpage.size < byteBound)
    (ho : tracker.outstanding ≠ []) :
    (tracker.pageArrived tracker.pageSize).1 = .ok (.ok ()) ∧
      (tracker.pageArrived tracker.pageSize).2.Whole := by
  obtain ⟨transfer, hf⟩ := exists_inFlight_of_outstanding ho
  obtain ⟨front, back, hl, hlt, -, -, hu⟩ := h.split_hasPageInFlight hf
  have hm : transfer ∈ tracker.transfer := by simp [hl]
  obtain ⟨hcredited, hwhole⟩ :=
    (hw transfer hm).pageArrived (h.sound transfer hm) hlt (hb transfer hm)
  refine ⟨(pageArrived_fst hf _).trans hcredited, ?_⟩
  unfold Tracker.pageArrived Whole
  simp only [hf, hu]
  intro other ho
  rcases List.mem_append.mp ho with ho | ho
  · exact hw other (by simp [hl, ho])
  · rcases List.mem_cons.mp ho with rfl | ho
    · exact hwhole
    · exact hw other (by simp [hl, ho])

theorem Whole.promote (hw : tracker.Whole) : tracker.promote.2.Whole := by
  intro transfer ht
  apply hw transfer
  rw [tracker.transfer_eq_promotable_append]
  exact List.mem_append_right _ ht

/-- What is promoted is ready and filled. -/
theorem Whole.of_mem_promotable (hw : tracker.Whole) (h : tracker.InOrder)
    (hs : superpage ∈ tracker.promotable.map Transfer.finish) :
    superpage.ready = true ∧ superpage.isFilled = true := by
  obtain ⟨transfer, ht, rfl⟩ := List.mem_map.mp hs
  have hm := tracker.promotable_isPrefix.subset ht
  exact (hw transfer hm).finish (h.sound transfer hm) (arrived_of_mem_promotable ht)

/-- Where the oldest transfer is complete and the ready queue has room, something is promoted. -/
theorem promotable_ne_nil {transfer : Transfer} {rest : List Transfer}
    (hl : tracker.transfer = transfer :: rest) (hc : transfer.isComplete = true)
    (hroom : tracker.ready.length < tracker.readyCapacity) : tracker.promotable ≠ [] := by
  rw [promotable, hl, List.takeWhile_cons_of_pos hc]
  obtain ⟨n, hn⟩ := Nat.exists_eq_succ_of_ne_zero (Nat.sub_ne_zero_of_lt hroom)
  rw [hn, List.take_succ_cons]
  exact List.cons_ne_nil _ _

theorem length_transfer_promote (tracker : Tracker) :
    tracker.promote.2.transfer.length + tracker.promotable.length = tracker.transfer.length := by
  conv_rhs => rw [tracker.transfer_eq_promotable_append, List.length_append]
  exact Nat.add_comm _ _

end Tracker

/-- Every page in flight has the size that pages have. -/
theorem Flow.InStep.size_of_mem {flow : Flow} (h : flow.InStep) {page : Page}
    (hp : page ∈ flow.inFlight) : page.size = flow.tracker.pageSize := by
  rw [h.inFlight_eq, Flow.pagesOut, List.mem_mapIdx] at hp
  obtain ⟨i, hi, rfl⟩ := hp
  rfl

end Readout.Dma
