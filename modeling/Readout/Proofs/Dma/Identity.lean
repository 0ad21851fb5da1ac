import Readout.Proofs.Dma.Transfer

/-!
What a superpage keeps from the push to the pop: where it lies, how long it is and what its user
attached to it. Moves between the queues neither drop nor reorder these.
-/

namespace Readout.Dma

/-- The part of a superpage that its owner gave it. -/
structure Identity where
  offset : Nat
  size : Nat
  user : Nat
  deriving DecidableEq

def Superpage.identity (superpage : Superpage) : Identity :=
  ⟨superpage.offset, superpage.size, superpage.user⟩

theorem Transfer.identity_pageArrived (pageSize : Nat) (transfer : Transfer) (length : Nat) :
    (transfer.pageArrived pageSize length).2.superpage.identity =
      transfer.superpage.identity := by
  obtain ⟨received, ha, -⟩ := transfer.exists_pageArrived pageSize length
  rw [ha]
  rfl

@[simp] theorem Transfer.identity_finish (transfer : Transfer) :
    transfer.finish.identity = transfer.superpage.identity := by
  unfold Transfer.finish
  split <;> rfl

namespace Tracker

/-- The superpages that are over and behind them those in transfer. -/
def identities (tracker : Tracker) : List Identity :=
  tracker.ready.map Superpage.identity ++ tracker.transfer.map (·.superpage.identity)

variable {tracker next : Tracker} {superpage : Superpage}

theorem identities_push (h : tracker.push superpage = .ok next) :
    next.identities = tracker.identities ++ [superpage.identity] := by
  obtain ⟨-, -, -, -, -, rfl⟩ := push_eq_ok_iff.mp h
  simp [identities, Transfer.start]

@[simp] theorem identities_pagePushed (tracker : Tracker) :
    tracker.pagePushed.identities = tracker.identities := by
  have hsame : tracker.pagePushed.transfer.map (·.superpage.identity) =
      tracker.transfer.map (·.superpage.identity) :=
    map_updateFirst _ Transfer.pagePushed _ (fun _ => rfl) _
  unfold identities
  rw [hsame]
  rfl

@[simp] theorem identities_pageArrived (tracker : Tracker) (length : Nat) :
    (tracker.pageArrived length).2.identities = tracker.identities := by
  unfold pageArrived
  cases hf : tracker.transfer.find? Transfer.hasPageInFlight with
  | none => rfl
  | some transfer =>
    obtain ⟨front, back, hl, -, -, hu⟩ := exists_split_of_find? hf
    have hsame := transfer.identity_pageArrived tracker.pageSize length
    unfold identities
    dsimp only
    rw [hu, hl]
    simp only [List.map_append, List.map_cons, hsame]

@[simp] theorem identities_promote (tracker : Tracker) :
    tracker.promote.2.identities = tracker.identities := by
  have hready : tracker.promote.2.ready = tracker.ready ++ tracker.promotable.map Transfer.finish :=
    rfl
  unfold identities
  conv_rhs => rw [tracker.transfer_eq_promotable_append]
  simp [hready]

@[simp] theorem identities_reclaim (tracker : Tracker) :
    tracker.reclaim.2.identities = tracker.identities := by
  simp [identities, reclaim]

theorem identities_pop (h : tracker.pop = .ok (superpage, next)) :
    tracker.identities = superpage.identity :: next.identities := by
  obtain ⟨ready, hr, rfl⟩ := pop_eq_ok_iff.mp h
  simp [identities, hr]

end Tracker

end Readout.Dma
