import Readout.Proofs.Dma.Transfer

/-!
How far the transfers have come: what stays as it is when a page is handed out, how many pages have
still to arrive, and where a promotion stops.
-/

namespace Readout.Dma

namespace Transfer

/-- The transfer as it is without the count of the pages handed out. -/
def unpushed (transfer : Transfer) : Transfer := { transfer with pushed := 0 }

/-- How many of its pages have not arrived. -/
def awaited (transfer : Transfer) : Nat := transfer.pages - transfer.arrived

/-- Behind a transfer that is not complete there is none that is. -/
theorem isComplete_eq_false_of_first {pageSize : Nat} {transfer : Transfer} {rest : List Transfer}
    (hp : (transfer :: rest).Pairwise Precedes)
    (hs : ∀ other ∈ transfer :: rest, other.Sound pageSize)
    (hfirst : transfer.isComplete = false) :
    ∀ other ∈ transfer :: rest, other.isComplete = false := by
  intro other ho
  rcases List.mem_cons.mp ho with rfl | hrest
  · exact hfirst
  · have hpos := (hs other ho).pages_pos
    have hbefore := (List.pairwise_cons.mp hp).1 other hrest
    rw [isComplete, beq_eq_false_iff_ne] at hfirst ⊢
    intro hcomplete
    exact hfirst (hbefore.arrived (by omega))

end Transfer

namespace Tracker

/-- How many pages of the transfers have not arrived. -/
def awaited (tracker : Tracker) : Nat := total Transfer.awaited tracker.transfer

/-- The superpages are where they were, and as many of their pages have arrived. -/
structure SameQueues (tracker next : Tracker) : Prop where
  transfer_eq : next.transfer.map Transfer.unpushed = tracker.transfer.map Transfer.unpushed
  ready_eq : next.ready = tracker.ready
  live_eq : next.live = tracker.live

variable {tracker next : Tracker} {β : Type}

theorem SameQueues.refl (tracker : Tracker) : tracker.SameQueues tracker := ⟨rfl, rfl, rfl⟩

theorem SameQueues.trans {last : Tracker} (h : tracker.SameQueues next)
    (hn : next.SameQueues last) : tracker.SameQueues last :=
  ⟨hn.transfer_eq.trans h.transfer_eq, hn.ready_eq.trans h.ready_eq, hn.live_eq.trans h.live_eq⟩

theorem sameQueues_pagePushed (tracker : Tracker) : tracker.SameQueues tracker.pagePushed :=
  ⟨map_updateFirst _ Transfer.pagePushed _ (fun _ => rfl) _, rfl, rfl⟩

/-- What does not look at the pages handed out is the same of both. -/
theorem SameQueues.map_eq (h : tracker.SameQueues next) (f : Transfer → β)
    (hf : ∀ transfer, f transfer.unpushed = f transfer) :
    next.transfer.map f = tracker.transfer.map f := by
  have hmap := congrArg (List.map f) h.transfer_eq
  simpa only [List.map_map, Function.comp_def, hf] using hmap

theorem SameQueues.awaited_eq (h : tracker.SameQueues next) : next.awaited = tracker.awaited := by
  have hmap := congrArg (total id) (h.map_eq Transfer.awaited fun _ => rfl)
  rwa [total_map, total_map] at hmap

theorem SameQueues.length_eq (h : tracker.SameQueues next) :
    next.transfer.length = tracker.transfer.length := by
  simpa using congrArg List.length h.transfer_eq

theorem SameQueues.exists_of_mem (h : tracker.SameQueues next) {transfer : Transfer}
    (ht : transfer ∈ next.transfer) :
    ∃ other ∈ tracker.transfer, other.unpushed = transfer.unpushed := by
  have hmem := List.mem_map_of_mem (f := Transfer.unpushed) ht
  rw [h.transfer_eq] at hmem
  exact List.mem_map.mp hmem

/-- A page that arrives is one less to wait for, whatever its length. -/
theorem InOrder.awaited_pageArrived (h : tracker.InOrder) (ho : tracker.outstanding ≠ [])
    (length : Nat) : (tracker.pageArrived length).2.awaited + 1 = tracker.awaited := by
  obtain ⟨transfer, hf⟩ := exists_inFlight_of_outstanding ho
  obtain ⟨front, back, hl, hlt, -, -, hu⟩ := h.split_hasPageInFlight hf
  have hle := (h.sound transfer (by simp [hl])).pushed_le_pages
  obtain ⟨received, ha, -⟩ := transfer.exists_pageArrived tracker.pageSize length
  unfold Tracker.pageArrived
  simp only [hf, awaited, hu, ha]
  simp only [hl, total_append, total, Transfer.awaited]
  omega

/-- Nothing is awaited of what is promoted. -/
theorem awaited_promote (tracker : Tracker) : tracker.promote.2.awaited = tracker.awaited := by
  have hnone : total Transfer.awaited tracker.promotable = 0 := by
    apply total_eq_zero
    intro transfer ht
    rw [Transfer.awaited, arrived_of_mem_promotable ht, Nat.sub_self]
  unfold awaited
  conv_rhs => rw [tracker.transfer_eq_promotable_append, total_append, hnone, Nat.zero_add]

theorem InOrder.pushed_eq_of_nextPage (h : tracker.InOrder) (hn : tracker.nextPage = none) :
    ∀ transfer ∈ tracker.transfer, transfer.pushed = transfer.pages := by
  intro transfer ht
  have hnone := List.find?_eq_none.mp (Option.map_eq_none_iff.mp hn) transfer ht
  have hle := (h.sound transfer ht).pushed_le_pages
  simp only [Transfer.hasPageToPush, decide_eq_true_eq] at hnone
  omega

/-- A promotion goes on until the ready queue is full or no complete transfer is left. -/
theorem InOrder.promote_cases (h : tracker.InOrder) :
    tracker.readyCapacity ≤ tracker.promote.2.ready.length ∨
      ∀ transfer ∈ tracker.promote.2.transfer, transfer.isComplete = false := by
  have hready : tracker.promote.2.ready.length =
      tracker.ready.length + tracker.promotable.length := by
    simp [Tracker.promote]
  have hlength : tracker.promotable.length =
      min (tracker.readyCapacity - tracker.ready.length)
        (tracker.transfer.takeWhile Transfer.isComplete).length := by
    simp [Tracker.promotable]
  by_cases hroom : tracker.readyCapacity - tracker.ready.length ≤
      (tracker.transfer.takeWhile Transfer.isComplete).length
  · left
    omega
  · right
    have hall : tracker.promotable = tracker.transfer.takeWhile Transfer.isComplete :=
      List.take_of_length_le (by omega)
    have hrest : tracker.promote.2.transfer = tracker.transfer.dropWhile Transfer.isComplete := by
      have hl := tracker.transfer_eq_promotable_append
      rw [hall] at hl
      exact List.append_cancel_left (hl.symm.trans List.takeWhile_append_dropWhile.symm)
    have hi := h.promote
    rw [hrest]
    cases hd : tracker.transfer.dropWhile Transfer.isComplete with
    | nil => simp
    | cons transfer rest =>
      have hfirst : transfer.isComplete = false := by
        have := List.head_dropWhile_not Transfer.isComplete (l := tracker.transfer) (by simp [hd])
        simpa [hd] using this
      have hp := hi.precedes
      have hs := hi.sound
      rw [hrest, hd] at hp hs
      exact Transfer.isComplete_eq_false_of_first hp hs hfirst

end Tracker

end Readout.Dma
