import Mathlib.Data.List.Basic
import Readout.Dma.Tracker

/-!
The order of the pages of the transfers. Pages are handed out and land in the order of the queue,
so at any time the transfers in front are done with what those behind them have begun.
-/

namespace Readout.Dma

variable {α β : Type}

/-- The first element that is accepted splits the list, and is the one that an update changes. -/
theorem exists_split_of_find? {p : α → Bool} {l : List α} {a : α} (h : l.find? p = some a) :
    ∃ front back, l = front ++ a :: back ∧ (∀ b ∈ front, p b = false) ∧ p a = true ∧
      ∀ f, updateFirst p f l = front ++ f a :: back := by
  induction l with
  | nil => simp at h
  | cons b rest ih =>
    cases hb : p b with
    | true =>
      obtain rfl : b = a := by simpa [hb] using h
      exact ⟨[], rest, rfl, by simp, hb, fun f => by simp [updateFirst, hb]⟩
    | false =>
      obtain ⟨front, back, rfl, hfront, ha, hf⟩ := ih (by simpa [hb] using h)
      refine ⟨b :: front, back, rfl, by simpa [hb] using hfront, ha, fun f => ?_⟩
      simp [updateFirst, hb, hf]

theorem updateFirst_of_find?_eq_none {p : α → Bool} {l : List α} (h : l.find? p = none)
    (f : α → α) : updateFirst p f l = l := by
  induction l with
  | nil => rfl
  | cons b rest ih =>
    cases hb : p b with
    | true => simp [hb] at h
    | false => simp [updateFirst, hb, ih (by simpa [hb] using h)]

theorem map_updateFirst (p : α → Bool) (f : α → α) (g : α → β)
    (h : ∀ a, g (f a) = g a) (l : List α) : (updateFirst p f l).map g = l.map g := by
  induction l with
  | nil => rfl
  | cons a rest ih =>
    unfold updateFirst
    split
    · rw [List.map_cons, List.map_cons, h]
    · rw [List.map_cons, List.map_cons, ih]

theorem length_flatMap_eq_total (f : α → List β) (l : List α) :
    (l.flatMap f).length = total (fun a => (f a).length) l := by
  induction l with
  | nil => rfl
  | cons a rest ih => simp [total, ih]

theorem total_map (f : β → Nat) (g : α → β) (l : List α) :
    total f (l.map g) = total (fun a => f (g a)) l := by
  induction l with
  | nil => rfl
  | cons a rest ih => simp [total, ih]

theorem total_congr {f g : α → Nat} {l : List α} (h : ∀ a ∈ l, f a = g a) :
    total f l = total g l := by
  induction l with
  | nil => rfl
  | cons a rest ih =>
    rw [total, total, h a List.mem_cons_self, ih fun b hb => h b (List.mem_cons_of_mem _ hb)]

theorem total_le {f g : α → Nat} {l : List α} (h : ∀ a ∈ l, f a ≤ g a) :
    total f l ≤ total g l := by
  induction l with
  | nil => exact Nat.le_refl 0
  | cons a rest ih =>
    exact Nat.add_le_add (h a List.mem_cons_self) (ih fun b hb => h b (List.mem_cons_of_mem _ hb))

theorem total_eq_zero {f : α → Nat} {l : List α} (h : ∀ a ∈ l, f a = 0) : total f l = 0 := by
  induction l with
  | nil => rfl
  | cons a rest ih =>
    rw [total, h a List.mem_cons_self, ih fun b hb => h b (List.mem_cons_of_mem _ hb)]

theorem total_add (f g : α → Nat) (l : List α) :
    total (fun a => f a + g a) l = total f l + total g l := by
  induction l with
  | nil => rfl
  | cons a rest ih =>
    simp only [total, ih]
    omega

namespace Transfer

/-- No page lands before it is out, and the pages are those of the superpage. -/
structure Sound (pageSize : Nat) (transfer : Transfer) : Prop where
  arrived_le_pushed : transfer.arrived ≤ transfer.pushed
  pushed_le_pages : transfer.pushed ≤ transfer.pages
  pages_pos : 0 < transfer.pages
  pages_mul : transfer.pages * pageSize = transfer.superpage.size

/-- One transfer is done with what a later one has begun. -/
structure Precedes (earlier later : Transfer) : Prop where
  pushed : 0 < later.pushed → earlier.pushed = earlier.pages
  arrived : 0 < later.arrived → earlier.arrived = earlier.pages

/-- Where the pages of the transfer that are out begin, oldest first. -/
def outstanding (pageSize : Nat) (transfer : Transfer) : List Nat :=
  (List.range' transfer.arrived transfer.inFlight).map fun k =>
    transfer.superpage.offset + k * pageSize

variable {pageSize : Nat} {transfer : Transfer}

@[simp] theorem length_outstanding :
    (transfer.outstanding pageSize).length = transfer.inFlight := by
  simp [outstanding]

theorem outstanding_eq_nil (h : transfer.pushed ≤ transfer.arrived) :
    transfer.outstanding pageSize = [] := by
  simp [outstanding, inFlight, Nat.sub_eq_zero_of_le h]

theorem flatMap_outstanding_eq_nil {transfers : List Transfer}
    (h : ∀ transfer ∈ transfers, transfer.pushed ≤ transfer.arrived) :
    transfers.flatMap (·.outstanding pageSize) = [] := by
  apply List.flatMap_eq_nil_iff.mpr
  intro transfer ht
  exact outstanding_eq_nil (h transfer ht)

theorem outstanding_pagePushed (h : transfer.Sound pageSize) :
    transfer.pagePushed.outstanding pageSize =
      transfer.outstanding pageSize ++ [transfer.nextOffset pageSize] := by
  have hle := h.arrived_le_pushed
  have hsucc : transfer.pushed + 1 - transfer.arrived =
      transfer.pushed - transfer.arrived + 1 := by omega
  have hlast : transfer.arrived + (transfer.pushed - transfer.arrived) = transfer.pushed := by
    omega
  simp [outstanding, inFlight, pagePushed, nextOffset, hsucc, List.range'_concat, hlast]

/-- An arrival changes the counts of the transfer and nothing else. -/
theorem exists_pageArrived (pageSize : Nat) (transfer : Transfer) (length : Nat) :
    ∃ received, (transfer.pageArrived pageSize length).2 =
        { transfer with
          arrived := transfer.arrived + 1
          superpage := { transfer.superpage with received := received } } ∧
      received ≤ max transfer.superpage.received transfer.superpage.size := by
  have kept : (⟨transfer.superpage, transfer.pages, transfer.pushed, transfer.arrived + 1⟩ :
      Transfer) = ⟨{ transfer.superpage with received := transfer.superpage.received },
        transfer.pages, transfer.pushed, transfer.arrived + 1⟩ := rfl
  unfold pageArrived
  dsimp only
  split
  · exact ⟨transfer.superpage.received, kept, Nat.le_max_left _ _⟩
  · unfold Superpage.credit
    split
    next superpage hc =>
      split at hc
      · simp at hc
      · rw [Except.ok.injEq, Superpage.setReceived_eq_ok_iff] at hc
        obtain ⟨-, hle, rfl⟩ := hc
        exact ⟨_, rfl, Nat.le_trans hle (Nat.le_max_right _ _)⟩
    · exact ⟨transfer.superpage.received, kept, Nat.le_max_left _ _⟩
    · exact ⟨transfer.superpage.received, kept, Nat.le_max_left _ _⟩

theorem sound_pageArrived (h : transfer.Sound pageSize) (hf : transfer.arrived < transfer.pushed)
    (length : Nat) : (transfer.pageArrived pageSize length).2.Sound pageSize := by
  obtain ⟨received, ha, -⟩ := exists_pageArrived pageSize transfer length
  rw [ha]
  exact ⟨hf, h.pushed_le_pages, h.pages_pos, h.pages_mul⟩

/-- The oldest page that is out is the one that arrives. -/
theorem outstanding_eq_cons (hf : transfer.arrived < transfer.pushed) (length : Nat) :
    transfer.outstanding pageSize =
      (transfer.superpage.offset + transfer.arrived * pageSize) ::
        (transfer.pageArrived pageSize length).2.outstanding pageSize := by
  obtain ⟨received, ha, -⟩ := exists_pageArrived pageSize transfer length
  have hsucc : transfer.pushed - transfer.arrived =
      transfer.pushed - (transfer.arrived + 1) + 1 := by omega
  rw [ha]
  simp [outstanding, inFlight, hsucc, List.range'_succ]

/-- What is said of a page that arrives: its length alone is looked at before its superpage is. -/
theorem pageArrived_fst (pageSize : Nat) (transfer : Transfer) (length : Nat) :
    (transfer.pageArrived pageSize length).1 =
      if pageSize < length then .ok (.error (.pageOverrun length pageSize))
      else if byteBound ≤ transfer.superpage.received + length then
        .error ⟨transfer.superpage.received, length⟩
      else if transfer.superpage.size < transfer.superpage.received + length then
        .ok (.error (.receivedOverflow (transfer.superpage.received + length)
          transfer.superpage.size))
      else .ok (.ok ()) := by
  have hgrows : ¬ transfer.superpage.received + length < transfer.superpage.received := by omega
  unfold pageArrived Superpage.credit Superpage.setReceived
  by_cases hlong : pageSize < length
  · simp [hlong]
  · by_cases hbound : byteBound ≤ transfer.superpage.received + length
    · simp [hlong, hbound]
    · by_cases hsize : transfer.superpage.size < transfer.superpage.received + length
      · simp [hlong, hbound, hgrows, hsize]
      · simp [hlong, hbound, hgrows, hsize]

/-- A count overflows only when the page itself was not too long. -/
theorem overflow_of_pageArrived {length : Nat} {overflow : CountOverflow}
    (h : (transfer.pageArrived pageSize length).1 = .error overflow) :
    overflow = ⟨transfer.superpage.received, length⟩ ∧ length ≤ pageSize ∧
      byteBound ≤ transfer.superpage.received + length := by
  rw [pageArrived_fst] at h
  split at h
  next => simp at h
  next hlong =>
    split at h
    next hbound => exact ⟨(Except.error.inj h).symm, Nat.le_of_not_lt hlong, hbound⟩
    next => split at h <;> simp at h

/-- A page is refused for being too long, or for what its superpage has no room for. -/
theorem error_of_pageArrived {length : Nat} {error : DmaError}
    (h : (transfer.pageArrived pageSize length).1 = .ok (.error error)) :
    pageSize < length ∧ error = .pageOverrun length pageSize ∨
      length ≤ pageSize ∧ transfer.superpage.size < transfer.superpage.received + length ∧
        error = .receivedOverflow (transfer.superpage.received + length)
          transfer.superpage.size := by
  rw [pageArrived_fst] at h
  split at h
  next hlong => exact .inl ⟨hlong, by simpa using h.symm⟩
  next hlong =>
    split at h
    next => simp at h
    next =>
      split at h
      next hsize => exact .inr ⟨Nat.le_of_not_lt hlong, hsize, by simpa using h.symm⟩
      next => simp at h

theorem length_le_of_pageArrived {length : Nat}
    (h : (transfer.pageArrived pageSize length).1 = .ok (.ok ())) : length ≤ pageSize := by
  rw [pageArrived_fst] at h
  split at h
  next => simp at h
  next hlong => exact Nat.le_of_not_lt hlong

end Transfer

namespace Tracker

/-- Where the pages that are out begin, oldest first. -/
def outstanding (tracker : Tracker) : List Nat :=
  tracker.transfer.flatMap (·.outstanding tracker.pageSize)

/-- The pages of the transfers go out and land in the order of the queue. -/
structure InOrder (tracker : Tracker) : Prop where
  sound : ∀ transfer ∈ tracker.transfer, transfer.Sound tracker.pageSize
  precedes : tracker.transfer.Pairwise Transfer.Precedes

variable {tracker next : Tracker} {superpage : Superpage}

theorem eq_empty_of_allocate {pageSize transferCapacity readyCapacity : Nat}
    (h : allocate pageSize transferCapacity readyCapacity = .ok tracker) :
    tracker = empty pageSize transferCapacity readyCapacity := by
  unfold allocate at h
  cases ht : reserve transferCapacity transferEntryBytes with
  | error overflow => simp [ht, bind, Except.bind] at h
  | ok _ =>
    cases hr : reserve readyCapacity readyEntryBytes with
    | error overflow => simp [ht, hr, bind, Except.bind] at h
    | ok _ =>
      simp only [ht, hr, bind, Except.bind] at h
      exact (Except.ok.inj h).symm

theorem length_outstanding (tracker : Tracker) :
    tracker.outstanding.length = tracker.pagesInFlight := by
  rw [outstanding, length_flatMap_eq_total, pagesInFlight]
  simp only [Transfer.length_outstanding]

theorem outstanding_eq_nil_of_find?
    (hf : tracker.transfer.find? Transfer.hasPageInFlight = none) : tracker.outstanding = [] := by
  apply Transfer.flatMap_outstanding_eq_nil
  intro transfer ht
  have hnot := List.find?_eq_none.mp hf transfer ht
  simpa [Transfer.hasPageInFlight] using hnot

/-- Where a page is out there is a transfer that waits for it. -/
theorem exists_inFlight_of_outstanding (ho : tracker.outstanding ≠ []) :
    ∃ transfer, tracker.transfer.find? Transfer.hasPageInFlight = some transfer := by
  cases hf : tracker.transfer.find? Transfer.hasPageInFlight with
  | none => exact absurd (outstanding_eq_nil_of_find? hf) ho
  | some transfer => exact ⟨transfer, rfl⟩

@[simp] theorem pageSize_pageArrived (tracker : Tracker) (length : Nat) :
    (tracker.pageArrived length).2.pageSize = tracker.pageSize := by
  unfold pageArrived
  split <;> rfl

@[simp] theorem ready_pageArrived (tracker : Tracker) (length : Nat) :
    (tracker.pageArrived length).2.ready = tracker.ready := by
  unfold pageArrived
  split <;> rfl

theorem push_eq_ok_iff :
    tracker.push superpage = .ok next ↔
      tracker.transfer.length < tracker.transferCapacity ∧ 0 < superpage.size ∧
      0 < tracker.pageSize ∧ superpage.size % tracker.pageSize = 0 ∧
      tracker.isLive superpage.offset = false ∧
      next = { tracker with
        transfer := tracker.transfer ++ [.start superpage (superpage.size / tracker.pageSize)]
        live := tracker.live ++ [superpage.offset] } := by
  unfold push
  split
  next h => simp; omega
  next h =>
    split
    next hz => simp [hz]
    next hz =>
      split
      next hm => simp; omega
      next hm =>
        obtain ⟨hp, hm⟩ := not_or.mp hm
        rw [Classical.not_not] at hm
        split
        next hl => simp [hl]
        next hl =>
          simp [Nat.lt_of_not_le h, Nat.pos_of_ne_zero hz, Nat.pos_of_ne_zero hp, hm, hl,
            eq_comm (a := next)]

theorem pop_eq_ok_iff :
    tracker.pop = .ok (superpage, next) ↔
      ∃ ready, tracker.ready = superpage :: ready ∧
        next = { tracker with ready := ready, live := tracker.live.erase superpage.offset } := by
  unfold pop
  cases tracker.ready with
  | nil => simp
  | cons first ready =>
    simp only [Except.ok.injEq, Prod.mk.injEq, List.cons.injEq]
    grind

theorem overflow_of_pageArrived {length : Nat} {overflow : CountOverflow}
    (h : (tracker.pageArrived length).1 = .error overflow) :
    ∃ transfer ∈ tracker.transfer, overflow = ⟨transfer.superpage.received, length⟩ ∧
      length ≤ tracker.pageSize ∧ byteBound ≤ transfer.superpage.received + length := by
  unfold pageArrived at h
  cases hf : tracker.transfer.find? Transfer.hasPageInFlight with
  | none => simp [hf] at h
  | some transfer =>
    rw [hf] at h
    exact ⟨transfer, List.mem_of_find?_eq_some hf, Transfer.overflow_of_pageArrived h⟩

/-- What is said of a page that arrives is what the transfer that waits for it says. -/
theorem pageArrived_fst {transfer : Transfer}
    (hf : tracker.transfer.find? Transfer.hasPageInFlight = some transfer) (length : Nat) :
    (tracker.pageArrived length).1 = (transfer.pageArrived tracker.pageSize length).1 := by
  simp [pageArrived, hf]

/-- A page that is credited is no longer than a page may be. -/
theorem length_le_of_pageArrived {length : Nat}
    (h : (tracker.pageArrived length).1 = .ok (.ok ())) : length ≤ tracker.pageSize := by
  unfold pageArrived at h
  cases hf : tracker.transfer.find? Transfer.hasPageInFlight with
  | none => simp [hf] at h
  | some transfer =>
    rw [hf] at h
    exact Transfer.length_le_of_pageArrived h

theorem promotable_isPrefix (tracker : Tracker) : tracker.promotable <+: tracker.transfer :=
  (List.take_prefix _ _).trans (List.takeWhile_prefix _)

theorem transfer_eq_promotable_append (tracker : Tracker) :
    tracker.transfer = tracker.promotable ++ tracker.promote.2.transfer := by
  obtain ⟨rest, hrest⟩ := tracker.promotable_isPrefix
  have hdrop : tracker.promote.2.transfer = tracker.transfer.drop tracker.promotable.length := rfl
  rw [hdrop, ← hrest, List.drop_left]

theorem arrived_of_mem_promotable {transfer : Transfer} (h : transfer ∈ tracker.promotable) :
    transfer.arrived = transfer.pages := by
  have hc := List.all_eq_true.mp List.all_takeWhile _ (List.mem_of_mem_take h)
  simpa [Transfer.isComplete] using hc

/-- The transfer whose page is the next one: what is in front of it is out, what is behind it is
untouched. -/
theorem InOrder.split_hasPageToPush (h : tracker.InOrder) {transfer : Transfer}
    (hf : tracker.transfer.find? Transfer.hasPageToPush = some transfer) :
    ∃ front back, tracker.transfer = front ++ transfer :: back ∧
      transfer.pushed < transfer.pages ∧
      (∀ earlier ∈ front, earlier.pushed = earlier.pages) ∧
      (∀ later ∈ back, later.pushed = 0 ∧ later.arrived = 0) ∧
      tracker.pagePushed.transfer = front ++ transfer.pagePushed :: back := by
  obtain ⟨front, back, hl, hfront, ht, hu⟩ := exists_split_of_find? hf
  have hlt : transfer.pushed < transfer.pages := by simpa [Transfer.hasPageToPush] using ht
  have hp := h.precedes
  rw [hl, List.pairwise_append, List.pairwise_cons] at hp
  refine ⟨front, back, hl, hlt, ?_, ?_, hu _⟩
  · intro earlier he
    have hle := (h.sound earlier (by simp [hl, he])).pushed_le_pages
    have hnot : ¬ earlier.pushed < earlier.pages := by
      simpa [Transfer.hasPageToPush] using hfront earlier he
    omega
  · intro later hb
    have hsound := h.sound later (by simp [hl, hb])
    have hpushed : ¬ 0 < later.pushed := fun h0 => by
      have := (hp.2.1.1 later hb).pushed h0
      omega
    have := hsound.arrived_le_pushed
    omega

/-- The transfer whose page arrives next: what is in front of it is complete, and of what is
behind it no page has landed. -/
theorem InOrder.split_hasPageInFlight (h : tracker.InOrder) {transfer : Transfer}
    (hf : tracker.transfer.find? Transfer.hasPageInFlight = some transfer) :
    ∃ front back, tracker.transfer = front ++ transfer :: back ∧
      transfer.arrived < transfer.pushed ∧
      (∀ earlier ∈ front, earlier.arrived = earlier.pages) ∧
      (∀ later ∈ back, later.arrived = 0) ∧
      ∀ f, updateFirst Transfer.hasPageInFlight f tracker.transfer =
        front ++ f transfer :: back := by
  obtain ⟨front, back, hl, hfront, ht, hu⟩ := exists_split_of_find? hf
  have hlt : transfer.arrived < transfer.pushed := by simpa [Transfer.hasPageInFlight] using ht
  have hp := h.precedes
  rw [hl, List.pairwise_append, List.pairwise_cons] at hp
  have hsound := h.sound transfer (by simp [hl])
  refine ⟨front, back, hl, hlt, ?_, ?_, hu⟩
  · intro earlier he
    have hpushed := (hp.2.2 earlier he transfer (by simp)).pushed (by omega)
    have hle := (h.sound earlier (by simp [hl, he])).arrived_le_pushed
    have hnot : ¬ earlier.arrived < earlier.pushed := by
      simpa [Transfer.hasPageInFlight] using hfront earlier he
    omega
  · intro later hb
    have harrived : ¬ 0 < later.arrived := fun h0 => by
      have := (hp.2.1.1 later hb).arrived h0
      have := hsound.pushed_le_pages
      omega
    omega

theorem inOrder_empty (pageSize transferCapacity readyCapacity : Nat) :
    (empty pageSize transferCapacity readyCapacity).InOrder :=
  ⟨by simp [empty], by simp [empty]⟩

theorem InOrder.push (h : tracker.InOrder) (hp : tracker.push superpage = .ok next) :
    next.InOrder := by
  obtain ⟨-, hsize, hpage, hmod, -, rfl⟩ := push_eq_ok_iff.mp hp
  have hdvd := Nat.dvd_of_mod_eq_zero hmod
  have hnew : (Transfer.start superpage (superpage.size / tracker.pageSize)).Sound
      tracker.pageSize :=
    ⟨Nat.le_refl _, Nat.zero_le _, Nat.div_pos (Nat.le_of_dvd hsize hdvd) hpage,
      Nat.div_mul_cancel hdvd⟩
  constructor
  · intro transfer ht
    rcases List.mem_append.mp ht with ht | ht
    · exact h.sound transfer ht
    · obtain rfl := List.mem_singleton.mp ht
      exact hnew
  · apply List.pairwise_append.mpr
    refine ⟨h.precedes, List.pairwise_singleton _ _, ?_⟩
    intro earlier _ later hl
    obtain rfl := List.mem_singleton.mp hl
    exact ⟨fun h0 => absurd h0 (Nat.lt_irrefl 0), fun h0 => absurd h0 (Nat.lt_irrefl 0)⟩

theorem InOrder.pagePushed (h : tracker.InOrder) : tracker.pagePushed.InOrder := by
  cases hf : tracker.transfer.find? Transfer.hasPageToPush with
  | none =>
    have hsame : tracker.pagePushed = tracker := by
      simp [Tracker.pagePushed, updateFirst_of_find?_eq_none hf]
    rwa [hsame]
  | some transfer =>
    obtain ⟨front, back, hl, hlt, hfront, hback, hu⟩ := h.split_hasPageToPush hf
    have hp := h.precedes
    rw [hl, List.pairwise_append, List.pairwise_cons] at hp
    have hsound := h.sound transfer (by simp [hl])
    constructor
    · intro other ho
      rw [hu, List.mem_append, List.mem_cons] at ho
      rcases ho with ho | rfl | ho
      · exact h.sound other (by simp [hl, ho])
      · have := hsound.arrived_le_pushed
        exact ⟨Nat.le_succ_of_le this, hlt, hsound.pages_pos, hsound.pages_mul⟩
      · exact h.sound other (by simp [hl, ho])
    · rw [hu, List.pairwise_append, List.pairwise_cons]
      refine ⟨hp.1, ⟨?_, hp.2.1.2⟩, ?_⟩
      · intro later hb
        obtain ⟨h0, h1⟩ := hback later hb
        exact ⟨fun hpos => by omega, fun hpos => by omega⟩
      · intro earlier he later hb
        rcases List.mem_cons.mp hb with rfl | hb
        · exact ⟨fun _ => hfront earlier he, (hp.2.2 earlier he transfer (by simp)).arrived⟩
        · exact hp.2.2 earlier he later (by simp [hb])

theorem InOrder.pageArrived (h : tracker.InOrder) (length : Nat) :
    (tracker.pageArrived length).2.InOrder := by
  unfold Tracker.pageArrived
  cases hf : tracker.transfer.find? Transfer.hasPageInFlight with
  | none => exact h
  | some transfer =>
    obtain ⟨front, back, hl, hlt, hfront, hback, hu⟩ := h.split_hasPageInFlight hf
    have hp := h.precedes
    rw [hl, List.pairwise_append, List.pairwise_cons] at hp
    have hsound := h.sound transfer (by simp [hl])
    obtain ⟨received, ha, -⟩ := Transfer.exists_pageArrived tracker.pageSize transfer length
    constructor
    · intro other ho
      simp only [hu, List.mem_append, List.mem_cons] at ho
      rcases ho with ho | rfl | ho
      · exact h.sound other (by simp [hl, ho])
      · exact Transfer.sound_pageArrived hsound hlt length
      · exact h.sound other (by simp [hl, ho])
    · simp only [hu, List.pairwise_append, List.pairwise_cons]
      refine ⟨hp.1, ⟨?_, hp.2.1.2⟩, ?_⟩
      · intro later hb
        constructor
        · intro hpos
          rw [ha]
          exact (hp.2.1.1 later hb).pushed hpos
        · intro hpos
          have := hback later hb
          omega
      · intro earlier he later hb
        rcases List.mem_cons.mp hb with rfl | hb
        · constructor
          · intro hpos
            exact (hp.2.2 earlier he transfer (by simp)).pushed (by omega)
          · intro _
            exact hfront earlier he
        · exact hp.2.2 earlier he later (by simp [hb])

theorem InOrder.promote (h : tracker.InOrder) : tracker.promote.2.InOrder := by
  have hl := tracker.transfer_eq_promotable_append
  have hp := h.precedes
  rw [hl, List.pairwise_append] at hp
  exact ⟨fun transfer ht => h.sound transfer (by rw [hl]; simp [ht]), hp.2.1⟩

theorem inOrder_reclaim (tracker : Tracker) : tracker.reclaim.2.InOrder :=
  ⟨by simp [reclaim], by simp [reclaim]⟩

theorem InOrder.pop (h : tracker.InOrder) (hp : tracker.pop = .ok (superpage, next)) :
    next.InOrder := by
  obtain ⟨ready, -, rfl⟩ := pop_eq_ok_iff.mp hp
  exact ⟨h.sound, h.precedes⟩

theorem outstanding_push (hp : tracker.push superpage = .ok next) :
    next.outstanding = tracker.outstanding := by
  obtain ⟨-, -, -, -, -, rfl⟩ := push_eq_ok_iff.mp hp
  have hnil (pages : Nat) : (Transfer.start superpage pages).outstanding tracker.pageSize = [] :=
    Transfer.outstanding_eq_nil (Nat.le_refl 0)
  simp [outstanding, hnil]

/-- The next page joins the pages that are out behind all others. -/
theorem InOrder.outstanding_pagePushed (h : tracker.InOrder) {offset : Nat}
    (hn : tracker.nextPage = some offset) :
    tracker.pagePushed.outstanding = tracker.outstanding ++ [offset] := by
  obtain ⟨transfer, hf, rfl⟩ := Option.map_eq_some_iff.mp hn
  obtain ⟨front, back, hl, -, -, hback, hu⟩ := h.split_hasPageToPush hf
  have hsound := h.sound transfer (by simp [hl])
  have hnil : back.flatMap (·.outstanding tracker.pageSize) = [] := by
    apply Transfer.flatMap_outstanding_eq_nil
    intro later hb
    rw [(hback later hb).1]
    exact Nat.zero_le _
  have hsize : tracker.pagePushed.pageSize = tracker.pageSize := rfl
  simp only [outstanding, hsize, hl, hu, List.flatMap_append, List.flatMap_cons, hnil,
    Transfer.outstanding_pagePushed hsound, List.append_nil, List.append_assoc]

/-- The page that arrives is the oldest one that is out. -/
theorem InOrder.outstanding_pageArrived (h : tracker.InOrder) (length : Nat) :
    (tracker.pageArrived length).2.outstanding = tracker.outstanding.tail := by
  unfold Tracker.pageArrived
  cases hf : tracker.transfer.find? Transfer.hasPageInFlight with
  | none => simp [outstanding_eq_nil_of_find? hf]
  | some transfer =>
    obtain ⟨front, back, hl, hlt, hfront, -, hu⟩ := h.split_hasPageInFlight hf
    have hnil : front.flatMap (·.outstanding tracker.pageSize) = [] := by
      apply Transfer.flatMap_outstanding_eq_nil
      intro earlier he
      rw [hfront earlier he]
      exact (h.sound earlier (by simp [hl, he])).pushed_le_pages
    simp only [outstanding, hu]
    simp only [hl, List.flatMap_append, List.flatMap_cons, hnil, List.nil_append,
      Transfer.outstanding_eq_cons hlt length, List.cons_append, List.tail_cons]

theorem InOrder.outstanding_promote (h : tracker.InOrder) :
    tracker.promote.2.outstanding = tracker.outstanding := by
  have hnil : tracker.promotable.flatMap (·.outstanding tracker.pageSize) = [] := by
    apply Transfer.flatMap_outstanding_eq_nil
    intro transfer ht
    rw [arrived_of_mem_promotable ht]
    exact (h.sound transfer (tracker.promotable_isPrefix.subset ht)).pushed_le_pages
  have hsize : tracker.promote.2.pageSize = tracker.pageSize := rfl
  rw [outstanding, outstanding, hsize]
  conv_rhs => rw [tracker.transfer_eq_promotable_append, List.flatMap_append, hnil]
  rfl

theorem outstanding_pop (hp : tracker.pop = .ok (superpage, next)) :
    next.outstanding = tracker.outstanding := by
  obtain ⟨ready, -, rfl⟩ := pop_eq_ok_iff.mp hp
  rfl

end Tracker

end Readout.Dma
