import Readout.Proofs.Attempt
import Readout.Proofs.Dma.Live
import Readout.Proofs.Dma.Progress

/-!
What a tracker keeps to, whoever uses it and in whatever order: the counts of a transfer stay in
bounds, the transfers go on one behind the other, and the offsets taken are those in the queues.
-/

namespace Readout.Dma

/-- A transfer that is not complete has none behind it that is, so the complete ones come first. -/
theorem Transfer.filter_isComplete_isPrefix {pageSize : Nat} {transfers : List Transfer}
    (hp : transfers.Pairwise Precedes) (hs : ∀ transfer ∈ transfers, transfer.Sound pageSize) :
    transfers.filter isComplete <+: transfers := by
  induction transfers with
  | nil => exact List.prefix_refl []
  | cons transfer rest ih =>
    cases hc : transfer.isComplete with
    | true =>
      rw [List.filter_cons_of_pos hc, List.prefix_cons_inj]
      exact ih (List.pairwise_cons.mp hp).2 fun other ho => hs other (List.mem_cons_of_mem _ ho)
    | false =>
      have hnone := isComplete_eq_false_of_first hp hs hc
      have hempty : (transfer :: rest).filter isComplete = [] := by
        apply List.filter_eq_nil_iff.mpr
        intro other ho
        rw [hnone other ho]
        exact Bool.false_ne_true
      rw [hempty]
      exact List.nil_prefix

namespace Tracker

/-- A use of a tracker that changes it. -/
inductive Use where
  | push (superpage : Superpage)
  | pagePushed
  | pageArrived (length : Nat)
  | promote
  | reclaim
  | pop
  | clear
  deriving DecidableEq

/-- Why a use does not succeed. -/
inductive Refusal where
  | declined (error : DmaError)
  | overflowed (overflow : CountOverflow)
  deriving DecidableEq

/-- Work on a tracker, one assignment after the other; those before a refusal stay. -/
abbrev Work (α : Type) := Attempt Tracker Refusal α

namespace Work

/-- The offset is taken if it is free; the answer is whether it was. -/
def take (offset : Nat) : Work Bool :=
  .of fun tracker =>
    if tracker.isLive offset then (.ok false, tracker)
    else (.ok true, { tracker with live := tracker.live ++ [offset] })

/-- The offset is looked at only as it is taken, behind all that can be said of the size. -/
def push (superpage : Superpage) : Work Unit := do
  let tracker ← get
  Attempt.require (tracker.transfer.length < tracker.transferCapacity)
    (.declined .transferQueueFull)
  Attempt.require (superpage.size ≠ 0) (.declined .emptySuperpage)
  Attempt.require (tracker.pageSize ≠ 0 ∧ superpage.size % tracker.pageSize = 0)
    (.declined (.sizeNotPageMultiple superpage.size tracker.pageSize))
  let free ← take superpage.offset
  Attempt.require (free = true) (.declined (.offsetInUse superpage.offset))
  modify fun tracker =>
    { tracker with
      transfer := tracker.transfer ++ [.start superpage (superpage.size / tracker.pageSize)] }

def pageArrived (length : Nat) : Work Unit :=
  .of fun tracker =>
    match tracker.pageArrived length with
    | (.ok (.ok ()), next) => (.ok (), next)
    | (.ok (.error error), next) => (.error (.declined error), next)
    | (.error overflow, next) => (.error (.overflowed overflow), next)

/-- The superpage leaves the queue before its offset is given back. -/
def pop : Work Superpage := do
  let tracker ← get
  match tracker.ready with
  | [] => throw (.declined .readyQueueEmpty)
  | superpage :: ready =>
    modify fun tracker => { tracker with ready := ready }
    modify fun tracker => { tracker with live := tracker.live.erase superpage.offset }
    return superpage

/-- An offset is taken only where nothing else stands against the superpage. -/
theorem on_push (tracker : Tracker) (superpage : Superpage) :
    (push superpage).on tracker =
      Attempt.carried .declined tracker (tracker.push superpage) := by
  rw [push, Attempt.on_bind_of_ok (Attempt.on_get tracker), Tracker.push]
  by_cases hroom : tracker.transfer.length < tracker.transferCapacity
  · rw [Attempt.on_bind_of_ok (Attempt.on_require hroom _ tracker), if_neg (by omega)]
    by_cases hsize : superpage.size ≠ 0
    · rw [Attempt.on_bind_of_ok (Attempt.on_require hsize _ tracker), if_neg hsize]
      by_cases hpages : tracker.pageSize ≠ 0 ∧ superpage.size % tracker.pageSize = 0
      · rw [Attempt.on_bind_of_ok (Attempt.on_require hpages _ tracker), if_neg (by omega)]
        cases hlive : tracker.isLive superpage.offset with
        | true =>
          have htake : (take superpage.offset).on tracker = (.ok false, tracker) := by
            rw [take, Attempt.on_of, if_pos hlive]
          rw [Attempt.on_bind_of_ok htake,
            Attempt.on_bind_of_error (Attempt.on_require_of_not Bool.false_ne_true _ tracker)]
          rfl
        | false =>
          have htake : (take superpage.offset).on tracker =
              (.ok true, { tracker with live := tracker.live ++ [superpage.offset] }) := by
            rw [take, Attempt.on_of, if_neg (by simp [hlive])]
          rw [Attempt.on_bind_of_ok htake, Attempt.on_bind_of_ok (Attempt.on_require rfl _ _)]
          rfl
      · rw [Attempt.on_bind_of_error (Attempt.on_require_of_not hpages _ tracker),
          if_pos (by omega)]
        rfl
    · rw [Attempt.on_bind_of_error (Attempt.on_require_of_not hsize _ tracker),
        if_pos (by omega)]
      rfl
  · rw [Attempt.on_bind_of_error (Attempt.on_require_of_not hroom _ tracker), if_pos (by omega)]
    rfl

theorem on_pop (tracker : Tracker) :
    pop.on tracker =
      match tracker.pop with
      | .ok (superpage, next) => (.ok superpage, next)
      | .error error => (.error (.declined error), tracker) := by
  rw [pop, Attempt.on_bind_of_ok (Attempt.on_get tracker), Tracker.pop]
  cases tracker.ready with
  | nil => rfl
  | cons superpage ready => rfl

theorem snd_on_pageArrived (tracker : Tracker) (length : Nat) :
    ((pageArrived length).on tracker).2 = (tracker.pageArrived length).2 := by
  rw [pageArrived, Attempt.on_of]
  split <;> simp [*]

end Work

/-- The use as work on the tracker. -/
def Use.work : Use → Work Unit
  | push superpage => Work.push superpage
  | pagePushed => modify Tracker.pagePushed
  | pageArrived length => Work.pageArrived length
  | promote => modify fun tracker => tracker.promote.2
  | reclaim => modify fun tracker => tracker.reclaim.2
  | pop => (fun _ => ()) <$> Work.pop
  | clear => modify Tracker.clear

/-- The tracker after one use and the next, whether they succeed or not. -/
def run (tracker : Tracker) (uses : List Use) : Tracker :=
  uses.foldl (fun tracker use => (use.work.on tracker).2) tracker

/-- What one use can make of a tracker. -/
inductive Move (tracker : Tracker) : Tracker → Prop where
  | stay : Move tracker tracker
  | push {superpage : Superpage} {next : Tracker} :
      tracker.push superpage = .ok next → Move tracker next
  | pagePushed : Move tracker tracker.pagePushed
  | pageArrived (length : Nat) : Move tracker (tracker.pageArrived length).2
  | promote : Move tracker tracker.promote.2
  | reclaim : Move tracker tracker.reclaim.2
  | pop {superpage : Superpage} {next : Tracker} :
      tracker.pop = .ok (superpage, next) → Move tracker next
  | clear : Move tracker tracker.clear

/-- A push and a pop that do not succeed leave the tracker; an arrival is booked in any case. -/
theorem move_after (tracker : Tracker) (use : Use) :
    tracker.Move (use.work.on tracker).2 := by
  cases use with
  | push superpage =>
    show tracker.Move ((Work.push superpage).on tracker).2
    rw [Work.on_push]
    cases hp : tracker.push superpage with
    | ok next => exact .push hp
    | error error => exact .stay
  | pagePushed => exact .pagePushed
  | pageArrived length =>
    show tracker.Move ((Work.pageArrived length).on tracker).2
    rw [Work.snd_on_pageArrived]
    exact .pageArrived length
  | promote => exact .promote
  | reclaim => exact .reclaim
  | pop =>
    show tracker.Move (((fun _ => ()) <$> Work.pop).on tracker).2
    rw [Attempt.on_map, Work.on_pop]
    cases hp : tracker.pop with
    | ok popped => exact .pop hp
    | error error => exact .stay
  | clear => exact .clear

/--
The transfers are in order and fit their queue, the offsets taken are those queued, and the sizes
are those that the tracker was made with.
-/
structure Regular (pageSize transferCapacity : Nat) (tracker : Tracker) : Prop where
  inOrder : tracker.InOrder
  registered : tracker.Registered
  length_le : tracker.transfer.length ≤ tracker.transferCapacity
  pageSize_eq : tracker.pageSize = pageSize
  transferCapacity_eq : tracker.transferCapacity = transferCapacity

variable {pageSize transferCapacity : Nat} {tracker next : Tracker}

theorem regular_empty (pageSize transferCapacity readyCapacity : Nat) :
    (empty pageSize transferCapacity readyCapacity).Regular pageSize transferCapacity := by
  refine ⟨?_, ?_, Nat.zero_le transferCapacity, rfl, rfl⟩
  · exact inOrder_empty pageSize transferCapacity readyCapacity
  · exact registered_empty pageSize transferCapacity readyCapacity

theorem length_pageArrived (tracker : Tracker) (length : Nat) :
    (tracker.pageArrived length).2.transfer.length = tracker.transfer.length := by
  unfold Tracker.pageArrived
  cases tracker.transfer.find? Transfer.hasPageInFlight with
  | none => rfl
  | some transfer => exact length_updateFirst _ _ _

theorem Regular.move (h : tracker.Regular pageSize transferCapacity) (move : tracker.Move next) :
    next.Regular pageSize transferCapacity := by
  obtain ⟨horder, hregistered, hlength, hpage, hcapacity⟩ := h
  cases move with
  | stay => exact ⟨horder, hregistered, hlength, hpage, hcapacity⟩
  | push hp =>
    have hordered := horder.push hp
    have hregistered := hregistered.push hp
    obtain ⟨hroom, -, -, -, -, rfl⟩ := push_eq_ok_iff.mp hp
    refine ⟨hordered, hregistered, ?_, hpage, hcapacity⟩
    rw [List.length_append, List.length_singleton]
    exact hroom
  | pagePushed =>
    refine ⟨horder.pagePushed, hregistered.pagePushed, ?_, hpage, hcapacity⟩
    show (updateFirst _ _ tracker.transfer).length ≤ tracker.transferCapacity
    rw [length_updateFirst]
    exact hlength
  | pageArrived length =>
    constructor
    · exact horder.pageArrived length
    · exact hregistered.pageArrived length
    · rw [length_pageArrived, transferCapacity_pageArrived]
      exact hlength
    · rw [pageSize_pageArrived]
      exact hpage
    · rw [transferCapacity_pageArrived]
      exact hcapacity
  | promote =>
    refine ⟨horder.promote, hregistered.promote, ?_, hpage, hcapacity⟩
    show (tracker.transfer.drop _).length ≤ tracker.transferCapacity
    rw [List.length_drop]
    exact Nat.le_trans (Nat.sub_le _ _) hlength
  | reclaim =>
    exact ⟨inOrder_reclaim tracker, hregistered.reclaim, Nat.zero_le tracker.transferCapacity,
      hpage, hcapacity⟩
  | pop hp =>
    have hordered := horder.pop hp
    have hregistered := hregistered.pop hp
    obtain ⟨ready, -, rfl⟩ := pop_eq_ok_iff.mp hp
    exact ⟨hordered, hregistered, hlength, hpage, hcapacity⟩
  | clear =>
    rw [← hpage, ← hcapacity]
    exact regular_empty tracker.pageSize tracker.transferCapacity tracker.readyCapacity

theorem Regular.run (h : tracker.Regular pageSize transferCapacity) (uses : List Use) :
    (tracker.run uses).Regular pageSize transferCapacity := by
  induction uses generalizing tracker with
  | nil => exact h
  | cons use rest ih => exact ih (h.move (move_after tracker use))

/-- The two queues, the counts in them and the set of offsets agree. -/
structure Kept (pageSize transferCapacity : Nat) (tracker : Tracker) : Prop where
  counts : ∀ transfer ∈ tracker.transfer, transfer.Sound pageSize
  order : tracker.transfer.Pairwise Transfer.Precedes
  complete_first : tracker.transfer.filter Transfer.isComplete <+: tracker.transfer
  length_le : tracker.transfer.length ≤ transferCapacity
  offsets_nodup : (tracker.superpages.map Superpage.offset).Nodup
  isLive_iff : ∀ offset,
    tracker.isLive offset = true ↔ offset ∈ tracker.superpages.map Superpage.offset

theorem Regular.kept (h : tracker.Regular pageSize transferCapacity) :
    tracker.Kept pageSize transferCapacity := by
  constructor
  · rw [← h.pageSize_eq]
    exact h.inOrder.sound
  · exact h.inOrder.precedes
  · exact Transfer.filter_isComplete_isPrefix h.inOrder.precedes h.inOrder.sound
  · rw [← h.transferCapacity_eq]
    exact h.length_le
  · exact h.registered.live_perm.nodup_iff.mp h.registered.nodup
  · intro offset
    exact h.registered.isLive_iff

/-- Only what it succeeds in is seen of the use afterwards. -/
structure Unharmed (tracker : Tracker) : Prop where
  push_eq : ∀ superpage, (Work.push superpage).on tracker =
    Attempt.carried .declined tracker (tracker.push superpage)
  push_refused : ∀ superpage refusal, ((Work.push superpage).on tracker).1 = .error refusal →
    ((Work.push superpage).on tracker).2 = tracker
  pop_eq : Work.pop.on tracker =
    match tracker.pop with
    | .ok (superpage, next) => (.ok superpage, next)
    | .error error => (.error (.declined error), tracker)
  pop_refused : ∀ refusal, (Work.pop.on tracker).1 = .error refusal →
    (Work.pop.on tracker).2 = tracker

theorem unharmed (tracker : Tracker) : tracker.Unharmed := by
  constructor
  · exact Work.on_push tracker
  · intro superpage refusal
    rw [Work.on_push]
    intro hrefused
    exact (Attempt.carried_eq_error hrefused).2
  · exact Work.on_pop tracker
  · intro refusal
    rw [Work.on_pop]
    cases tracker.pop with
    | ok popped =>
      intro hrefused
      cases hrefused
    | error error =>
      intro _
      rfl

/--
A tracker keeps its queues, its counts and its offsets in agreement, whatever is asked of it, and a
superpage that it refuses or does not have leaves no trace.
-/
theorem kept_of_run (pageSize transferCapacity readyCapacity : Nat) (uses : List Use) :
    ((empty pageSize transferCapacity readyCapacity).run uses).Kept pageSize transferCapacity ∧
      ((empty pageSize transferCapacity readyCapacity).run uses).Unharmed := by
  have hregular := (regular_empty pageSize transferCapacity readyCapacity).run uses
  exact ⟨hregular.kept, unharmed _⟩

end Tracker

end Readout.Dma
