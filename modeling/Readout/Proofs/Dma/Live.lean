import Mathlib.Data.List.Nodup
import Readout.Proofs.Dma.Identity

/-!
The offsets that are taken are those of the superpages in the two queues, each of them taken once.
-/

namespace Readout.Dma.Tracker

/-- The superpages that are over and behind them those in transfer, as they are. -/
def superpages (tracker : Tracker) : List Superpage :=
  tracker.ready ++ tracker.transfer.map Transfer.superpage

/-- No two superpages in the queues have the same offset, and theirs are the offsets taken. -/
structure Registered (tracker : Tracker) : Prop where
  perm : tracker.live.Perm (tracker.identities.map Identity.offset)
  nodup : tracker.live.Nodup

variable {tracker next : Tracker} {superpage : Superpage}

@[simp] theorem transferCapacity_pageArrived (tracker : Tracker) (length : Nat) :
    (tracker.pageArrived length).2.transferCapacity = tracker.transferCapacity := by
  unfold pageArrived
  split <;> rfl

@[simp] theorem readyCapacity_pageArrived (tracker : Tracker) (length : Nat) :
    (tracker.pageArrived length).2.readyCapacity = tracker.readyCapacity := by
  unfold pageArrived
  split <;> rfl

@[simp] theorem live_pageArrived (tracker : Tracker) (length : Nat) :
    (tracker.pageArrived length).2.live = tracker.live := by
  unfold pageArrived
  split <;> rfl

theorem map_offset_identities (tracker : Tracker) :
    tracker.identities.map Identity.offset = tracker.superpages.map Superpage.offset := by
  simp [identities, superpages, Superpage.identity, Function.comp_def]

theorem isLive_eq_false_iff {offset : Nat} :
    tracker.isLive offset = false ↔ offset ∉ tracker.live := by
  simp [isLive]

theorem registered_empty (pageSize transferCapacity readyCapacity : Nat) :
    (empty pageSize transferCapacity readyCapacity).Registered :=
  ⟨.refl _, List.nodup_nil⟩

theorem Registered.live_perm (h : tracker.Registered) :
    tracker.live.Perm (tracker.superpages.map Superpage.offset) := by
  rw [← map_offset_identities]
  exact h.perm

theorem Registered.isLive_iff (h : tracker.Registered) {offset : Nat} :
    tracker.isLive offset = true ↔ offset ∈ tracker.superpages.map Superpage.offset := by
  rw [isLive, List.contains_iff_mem]
  exact h.live_perm.mem_iff

/-- An offset is free where no superpage in the queues has it. -/
theorem Registered.isLive_eq_false_iff (h : tracker.Registered) {offset : Nat} :
    tracker.isLive offset = false ↔ ∀ other ∈ tracker.superpages, other.offset ≠ offset := by
  rw [Tracker.isLive_eq_false_iff, h.perm.mem_iff, map_offset_identities]
  simp

/-- A move of the superpages along the queues frees no offset and takes none. -/
theorem Registered.of_identities (h : tracker.Registered) (hl : next.live = tracker.live)
    (hi : next.identities = tracker.identities) : next.Registered := by
  constructor
  · rw [hl, hi]
    exact h.perm
  · rw [hl]
    exact h.nodup

theorem Registered.pagePushed (h : tracker.Registered) : tracker.pagePushed.Registered :=
  h.of_identities rfl tracker.identities_pagePushed

theorem Registered.pageArrived (h : tracker.Registered) (length : Nat) :
    (tracker.pageArrived length).2.Registered :=
  h.of_identities (tracker.live_pageArrived length) (tracker.identities_pageArrived length)

theorem Registered.promote (h : tracker.Registered) : tracker.promote.2.Registered :=
  h.of_identities rfl tracker.identities_promote

theorem Registered.reclaim (h : tracker.Registered) : tracker.reclaim.2.Registered :=
  h.of_identities rfl tracker.identities_reclaim

theorem Registered.push (h : tracker.Registered) (hp : tracker.push superpage = .ok next) :
    next.Registered := by
  have hi := identities_push hp
  obtain ⟨-, -, -, -, hfree, rfl⟩ := push_eq_ok_iff.mp hp
  constructor
  · rw [hi, List.map_append]
    exact h.perm.append_right _
  · apply h.nodup.append (List.nodup_singleton _)
    rw [List.disjoint_singleton]
    exact Tracker.isLive_eq_false_iff.mp hfree

theorem Registered.pop (h : tracker.Registered) (hp : tracker.pop = .ok (superpage, next)) :
    next.Registered := by
  have hperm := h.perm
  rw [identities_pop hp, List.map_cons] at hperm
  obtain ⟨ready, -, rfl⟩ := pop_eq_ok_iff.mp hp
  constructor
  · have herased := hperm.erase superpage.offset
    rwa [show superpage.identity.offset = superpage.offset from rfl, List.erase_cons_head]
      at herased
  · exact h.nodup.erase _

end Readout.Dma.Tracker
