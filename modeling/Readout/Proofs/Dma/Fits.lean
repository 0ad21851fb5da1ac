import Readout.Proofs.Dma.InStep

/-!
Superpages inside a buffer that memory has room for. A count of received bytes never passes the size
of its superpage, so no count of theirs can overflow.
-/

namespace Readout.Dma

/-- The superpages that can be made: whatever is changed later is changed as the rules allow. -/
inductive Superpage.Built : Superpage → Prop where
  | fresh (offset size : Nat) : Built (.fresh offset size)
  | withUser {superpage : Superpage} (user : Nat) : Built superpage → Built (superpage.withUser user)
  | setReceived {superpage next : Superpage} {received : Nat} :
      Built superpage → superpage.setReceived received = .ok next → Built next
  | setReady {superpage next : Superpage} {ready : Bool} :
      Built superpage → superpage.setReady ready = .ok next → Built next
  | markReady {superpage : Superpage} : Built superpage → Built superpage.markReady

theorem Superpage.Built.received_le_size {superpage : Superpage} (h : superpage.Built) :
    superpage.received ≤ superpage.size := by
  induction h with
  | fresh offset size => exact Nat.zero_le _
  | withUser user _ ih => exact ih
  | setReceived _ hr _ =>
    obtain ⟨-, hle, rfl⟩ := setReceived_eq_ok_iff.mp hr
    exact hle
  | setReady _ hr ih =>
    unfold Superpage.setReady at hr
    split at hr
    · simp at hr
    · rw [← Except.ok.inj hr]
      exact ih
  | markReady _ ih => exact ih

/-- The superpage lies in the buffer and has received no more than it holds. -/
structure Superpage.Fits (bufferSize : Nat) (superpage : Superpage) : Prop where
  end_le : superpage.offset + superpage.size ≤ bufferSize
  received_le : superpage.received ≤ superpage.size

namespace Tracker

/-- Every superpage in transfer lies in the buffer. -/
def Fits (bufferSize : Nat) (tracker : Tracker) : Prop :=
  ∀ superpage ∈ tracker.transfer.map Transfer.superpage, superpage.Fits bufferSize

variable {bufferSize : Nat} {tracker next : Tracker} {superpage : Superpage}

theorem fits_of_transfer_eq_nil (h : tracker.transfer = []) : tracker.Fits bufferSize := by
  simp [Fits, h]

theorem Fits.push (h : tracker.Fits bufferSize) (hs : superpage.Fits bufferSize)
    (hp : tracker.push superpage = .ok next) : next.Fits bufferSize := by
  obtain ⟨-, -, -, -, -, rfl⟩ := push_eq_ok_iff.mp hp
  intro other ho
  rw [List.map_append, List.mem_append] at ho
  rcases ho with ho | ho
  · exact h other ho
  · obtain rfl : other = superpage := by simpa [Transfer.start] using ho
    exact hs

theorem Fits.pagePushed (h : tracker.Fits bufferSize) : tracker.pagePushed.Fits bufferSize := by
  have hsame : tracker.pagePushed.transfer.map Transfer.superpage =
      tracker.transfer.map Transfer.superpage :=
    map_updateFirst _ Transfer.pagePushed _ (fun _ => rfl) _
  unfold Fits
  rw [hsame]
  exact h

theorem Fits.pageArrived (h : tracker.Fits bufferSize) (length : Nat) :
    (tracker.pageArrived length).2.Fits bufferSize := by
  unfold Tracker.pageArrived
  cases hf : tracker.transfer.find? Transfer.hasPageInFlight with
  | none => exact h
  | some transfer =>
    obtain ⟨front, back, hl, -, -, hu⟩ := exists_split_of_find? hf
    obtain ⟨received, ha, hle⟩ := transfer.exists_pageArrived tracker.pageSize length
    unfold Fits at h ⊢
    dsimp only
    rw [hu, ha]
    simp only [hl, List.map_append, List.map_cons, List.mem_append, List.mem_cons] at h ⊢
    rintro other (ho | rfl | ho)
    · exact h other (.inl ho)
    · have hfits := h transfer.superpage (.inr (.inl rfl))
      exact ⟨hfits.end_le, hle.trans (Nat.max_le.mpr ⟨hfits.received_le, Nat.le_refl _⟩)⟩
    · exact h other (.inr (.inr ho))

theorem Fits.promote (h : tracker.Fits bufferSize) : tracker.promote.2.Fits bufferSize := by
  intro superpage hs
  have hl := tracker.transfer_eq_promotable_append
  exact h superpage (by rw [hl, List.map_append]; exact List.mem_append_right _ hs)

theorem Fits.pop (h : tracker.Fits bufferSize) (hp : tracker.pop = .ok (superpage, next)) :
    next.Fits bufferSize := by
  obtain ⟨ready, -, rfl⟩ := pop_eq_ok_iff.mp hp
  exact h

/-- In a buffer that memory has room for, the count of a superpage can take any page of it. -/
theorem Fits.pageArrived_ne_error (h : tracker.Fits bufferSize) (hi : tracker.InOrder)
    (hb : bufferSize < memoryBound) (length : Nat) (overflow : CountOverflow) :
    (tracker.pageArrived length).1 ≠ .error overflow := by
  intro ha
  obtain ⟨transfer, ht, rfl, hlength, hover⟩ := overflow_of_pageArrived ha
  have hfits := h transfer.superpage (List.mem_map_of_mem ht)
  have hsound := hi.sound transfer ht
  have hpage : tracker.pageSize ≤ transfer.superpage.size := by
    rw [← hsound.pages_mul]
    exact Nat.le_mul_of_pos_left _ hsound.pages_pos
  have hend := hfits.end_le
  have hreceived := hfits.received_le
  simp only [byteBound, memoryBound] at hover hb
  omega

theorem push_ne_unexpected : tracker.push superpage ≠ .error .unexpectedArrival := by
  unfold push
  repeat' split
  all_goals simp

theorem pop_ne_unexpected : tracker.pop ≠ .error .unexpectedArrival := by
  unfold pop
  split
  all_goals simp

end Tracker

end Readout.Dma
