import Readout.Dma.Flow
import Readout.Proofs.Dma.Identity

/-!
The order in which the pages of superpages are to be handed out, and offers of pages that keep to
it: a page that is refused is the next one to be offered, a page that is taken never comes again.
-/

namespace Readout.Dma

namespace Identity

def pages (pageSize : Nat) (identity : Identity) : Nat := identity.size / pageSize

/-- Where the pages of the superpage begin. -/
def pageOffsets (pageSize : Nat) (identity : Identity) : List Nat :=
  (List.range (identity.pages pageSize)).map (identity.offset + · * pageSize)

@[simp] theorem length_pageOffsets (pageSize : Nat) (identity : Identity) :
    (identity.pageOffsets pageSize).length = identity.pages pageSize := by
  simp [pageOffsets]

end Identity

/-- The pages of the superpages one after the other, each with the next slot of either ring. -/
def plan (pageSize bufferPages : Nat) (superpages : List Identity) : List Page :=
  (superpages.flatMap (·.pageOffsets pageSize)).mapIdx fun n offset =>
    ⟨n % fifoDepth, n % bufferPages, offset, pageSize⟩

/-- The place of the superpage that each page of the plan belongs to, counted from `first`. -/
def owners (pageSize : Nat) : Nat → List Identity → List Nat
  | _, [] => []
  | first, identity :: rest =>
    List.replicate (identity.pages pageSize) first ++ owners pageSize (first + 1) rest

variable {pageSize bufferPages : Nat} {identity : Identity} {front back : List Identity}

theorem plan_isPrefix (superpages more : List Identity) :
    plan pageSize bufferPages superpages <+: plan pageSize bufferPages (superpages ++ more) := by
  simp [plan, List.mapIdx_append]

theorem map_offset_plan (pageSize bufferPages : Nat) (superpages : List Identity) :
    (plan pageSize bufferPages superpages).map Page.offset =
      superpages.flatMap (·.pageOffsets pageSize) := by
  apply List.ext_getElem?
  intro i
  rw [plan, List.getElem?_map, List.getElem?_mapIdx, Option.map_map]
  exact Option.map_id'

/-- The pages of a superpage follow those of all the superpages in front of it. -/
theorem getElem?_plan {k : Nat} (hk : k < identity.pages pageSize) :
    (plan pageSize bufferPages (front ++ identity :: back))[
        total (Identity.pages pageSize) front + k]? =
      some ⟨(total (Identity.pages pageSize) front + k) % fifoDepth,
        (total (Identity.pages pageSize) front + k) % bufferPages,
        identity.offset + k * pageSize, pageSize⟩ := by
  have hfront : (front.flatMap (·.pageOffsets pageSize)).length =
      total (Identity.pages pageSize) front := by
    rw [length_flatMap_eq_total]
    simp only [Identity.length_pageOffsets]
  have hoffset : ((front ++ identity :: back).flatMap (·.pageOffsets pageSize))[
      total (Identity.pages pageSize) front + k]? = some (identity.offset + k * pageSize) := by
    rw [List.flatMap_append, List.flatMap_cons,
      List.getElem?_append_right (by rw [hfront]; exact Nat.le_add_right _ _), hfront,
      Nat.add_sub_cancel_left, List.getElem?_append_left (by simpa using hk)]
    simp [Identity.pageOffsets, hk]
  rw [plan, List.getElem?_mapIdx, hoffset]
  rfl

theorem le_of_mem_owners {first owner : Nat} {superpages : List Identity}
    (h : owner ∈ owners pageSize first superpages) : first ≤ owner := by
  induction superpages generalizing first with
  | nil => simp [owners] at h
  | cons identity rest ih =>
    rcases List.mem_append.mp h with h | h
    · exact Nat.le_of_eq (List.eq_of_mem_replicate h).symm
    · exact Nat.le_of_succ_le (ih h)

theorem count_take_owners_of_lt {first owner : Nat} (h : owner < first) (pageSize : Nat)
    (superpages : List Identity) (n : Nat) :
    ((owners pageSize first superpages).take n).count owner = 0 := by
  apply List.count_eq_zero.mpr
  intro hm
  have hle := le_of_mem_owners (List.mem_of_mem_take hm)
  omega

/-- Of the first `n` pages of the plan those of one superpage are what those before it leave. -/
theorem count_take_owners (pageSize first n : Nat) (front back : List Identity)
    (identity : Identity) :
    ((owners pageSize first (front ++ identity :: back)).take n).count (first + front.length) =
      min (identity.pages pageSize) (n - total (Identity.pages pageSize) front) := by
  induction front generalizing first n with
  | nil =>
    have hrest := count_take_owners_of_lt (Nat.lt_succ_self first) pageSize back
      (n - identity.pages pageSize)
    simp only [List.nil_append, owners, List.take_append, List.length_replicate, List.count_append,
      List.take_replicate, List.length_nil, Nat.add_zero, List.count_replicate_self, hrest, total]
    omega
  | cons earlier front ih =>
    have hplace : first + (earlier :: front).length = first + 1 + front.length := by
      simp only [List.length_cons]
      omega
    have hfirst : (List.replicate (min n (earlier.pages pageSize)) first).count
        (first + 1 + front.length) = 0 := by
      apply List.count_eq_zero.mpr
      intro hm
      have := List.eq_of_mem_replicate hm
      omega
    have hrest := ih (first + 1) (n - earlier.pages pageSize)
    simp only [List.cons_append, owners, List.take_append, List.length_replicate,
      List.count_append, List.take_replicate, hplace, hfirst, hrest, total]
    omega

/-- A page that a transport was asked to take, and whether it did. -/
structure Offer where
  page : Page
  taken : Bool
  deriving DecidableEq

/-- The pages that were taken, oldest first. -/
def takenPages (offers : List Offer) : List Page :=
  (offers.filter Offer.taken).map Offer.page

@[simp] theorem takenPages_concat_taken (offers : List Offer) (page : Page) :
    takenPages (offers ++ [⟨page, true⟩]) = takenPages offers ++ [page] := by
  simp [takenPages]

@[simp] theorem takenPages_concat_refused (offers : List Offer) (page : Page) :
    takenPages (offers ++ [⟨page, false⟩]) = takenPages offers := by
  simp [takenPages]

/-- The offers go through the pages in turn and on to the next one only when one is taken. -/
inductive Follows : List Page → List Offer → Prop where
  | nil (pages : List Page) : Follows pages []
  | refused {page : Page} {pages : List Page} {offers : List Offer} :
      Follows (page :: pages) offers → Follows (page :: pages) (⟨page, false⟩ :: offers)
  | taken {page : Page} {pages : List Page} {offers : List Offer} :
      Follows pages offers → Follows (page :: pages) (⟨page, true⟩ :: offers)

variable {pages : List Page} {offers : List Offer}

theorem Follows.takenPages_isPrefix (h : Follows pages offers) : takenPages offers <+: pages := by
  induction h with
  | nil => exact List.nil_prefix
  | refused _ ih => exact ih
  | taken _ ih => exact (List.prefix_cons_inj _).mpr ih

theorem Follows.mono {more : List Page} (h : Follows pages offers) (hp : pages <+: more) :
    Follows more offers := by
  obtain ⟨rest, rfl⟩ := hp
  induction h with
  | nil => exact .nil _
  | refused _ ih => exact .refused ih
  | taken _ ih => exact .taken ih

/-- The next page of the plan may be offered next, whatever comes of it. -/
theorem Follows.concat (h : Follows pages offers) {page : Page}
    (hn : pages[(takenPages offers).length]? = some page) (taken : Bool) :
    Follows pages (offers ++ [⟨page, taken⟩]) := by
  induction h with
  | nil pages =>
    cases pages with
    | nil => simp at hn
    | cons first rest =>
      obtain rfl : first = page := by simpa [takenPages] using hn
      cases taken with
      | false => exact .refused (.nil _)
      | true => exact .taken (.nil _)
  | refused _ ih => exact .refused (ih hn)
  | taken _ ih => exact .taken (ih (by simpa [takenPages] using hn))

/-- The offer behind a refused one is of the same page. -/
theorem Follows.page_eq_of_refused (h : Follows pages offers) {before after : List Offer}
    {refused next : Offer} (ho : offers = before ++ refused :: next :: after)
    (hr : refused.taken = false) : next.page = refused.page := by
  induction h generalizing before with
  | nil => simp at ho
  | @refused page pages offers hrest ih =>
    cases before with
    | nil =>
      obtain ⟨rfl, rfl⟩ := List.cons.inj ho
      cases hrest <;> rfl
    | cons first before => exact ih (List.cons.inj ho).2
  | @taken page pages offers hrest ih =>
    cases before with
    | nil =>
      obtain ⟨rfl, rfl⟩ := List.cons.inj ho
      simp at hr
    | cons first before => exact ih (List.cons.inj ho).2

theorem Transfer.Sound.pages_eq {transfer : Transfer} (h : transfer.Sound pageSize)
    (hp : 0 < pageSize) : transfer.superpage.identity.pages pageSize = transfer.pages := by
  have hsize : transfer.superpage.identity.size = transfer.pages * pageSize := h.pages_mul.symm
  rw [Identity.pages, hsize, Nat.mul_div_cancel _ hp]

namespace Tracker

variable {tracker next : Tracker} {superpage : Superpage} {done : List Identity}

/-- The pages of the transfers that have landed. -/
def arrivedPages (tracker : Tracker) : Nat := total Transfer.arrived tracker.transfer

theorem InOrder.total_pages (h : tracker.InOrder) (hp : 0 < tracker.pageSize)
    (transfers : List Transfer) (hs : ∀ transfer ∈ transfers, transfer ∈ tracker.transfer) :
    total (Identity.pages tracker.pageSize) (transfers.map (·.superpage.identity)) =
      total Transfer.pages transfers := by
  rw [total_map]
  apply total_congr
  intro transfer ht
  exact (h.sound transfer (hs transfer ht)).pages_eq hp

/-- What was handed out has landed or is still out. -/
theorem InOrder.total_pushed (h : tracker.InOrder) :
    total Transfer.pushed tracker.transfer = tracker.arrivedPages + tracker.pagesInFlight := by
  rw [arrivedPages, pagesInFlight, ← total_add]
  apply total_congr
  intro transfer ht
  have := (h.sound transfer ht).arrived_le_pushed
  unfold Transfer.inFlight
  omega

/-- The next page is the one of the plan behind those that were handed out. -/
theorem InOrder.getElem?_plan_of_nextPage (h : tracker.InOrder) (hp : 0 < tracker.pageSize)
    (bufferPages : Nat) {offset n : Nat} (hn : tracker.nextPage = some offset)
    (hlength : n = total (Identity.pages tracker.pageSize) done +
      total Transfer.pushed tracker.transfer) :
    (plan tracker.pageSize bufferPages
        (done ++ tracker.transfer.map (·.superpage.identity)))[n]? =
      some ⟨n % fifoDepth, n % bufferPages, offset, tracker.pageSize⟩ := by
  obtain ⟨transfer, hf, rfl⟩ := Option.map_eq_some_iff.mp hn
  obtain ⟨front, back, hl, hlt, hfront, hback, -⟩ := h.split_hasPageToPush hf
  have hpages := (h.sound transfer (by simp [hl])).pages_eq hp
  have htotal := h.total_pages hp front fun other ho => by simp [hl, ho]
  have hpushed : total Transfer.pushed front = total Transfer.pages front :=
    total_congr hfront
  have hnone : total Transfer.pushed back = 0 := total_eq_zero fun later hb => (hback later hb).1
  have hplace : n = total (Identity.pages tracker.pageSize)
      (done ++ front.map (·.superpage.identity)) + transfer.pushed := by
    rw [hlength, hl, total_append, total_append, htotal, total, hpushed, hnone]
    omega
  have hsplit : done ++ tracker.transfer.map (·.superpage.identity) =
      (done ++ front.map (·.superpage.identity)) ++
        transfer.superpage.identity :: back.map (·.superpage.identity) := by
    simp [hl]
  rw [hsplit, hplace]
  exact getElem?_plan (by rw [hpages]; exact hlt)

/-- Of the pages that have landed in the order of the plan each transfer has counted its own. -/
theorem InOrder.arrived_eq_count (h : tracker.InOrder) (hp : 0 < tracker.pageSize)
    {front back : List Transfer} {transfer : Transfer} {n : Nat}
    (hl : tracker.transfer = front ++ transfer :: back)
    (hlength : n = total (Identity.pages tracker.pageSize) done + tracker.arrivedPages) :
    transfer.arrived = ((owners tracker.pageSize 0
      (done ++ tracker.transfer.map (·.superpage.identity))).take n).count
        (done.length + front.length) := by
  have hsound := h.sound transfer (by simp [hl])
  have hpairs := h.precedes
  rw [hl, List.pairwise_append, List.pairwise_cons] at hpairs
  have htotal := h.total_pages hp front fun other ho => by simp [hl, ho]
  have hle : total Transfer.arrived front ≤ total Transfer.pages front := by
    apply total_le
    intro earlier he
    have hs := h.sound earlier (by simp [hl, he])
    exact Nat.le_trans hs.arrived_le_pushed hs.pushed_le_pages
  have hfull (h0 : 0 < transfer.arrived) :
      total Transfer.arrived front = total Transfer.pages front := by
    apply total_congr
    intro earlier he
    exact (hpairs.2.2 earlier he transfer (by simp)).arrived h0
  have hnone (hlt : transfer.arrived < transfer.pages) : total Transfer.arrived back = 0 := by
    apply total_eq_zero
    intro later hb
    have := (hpairs.2.1.1 later hb).arrived
    omega
  have hcount := count_take_owners tracker.pageSize 0 n
    (done ++ front.map (·.superpage.identity)) (back.map (·.superpage.identity))
    transfer.superpage.identity
  have hsplit : done ++ tracker.transfer.map (·.superpage.identity) =
      (done ++ front.map (·.superpage.identity)) ++
        transfer.superpage.identity :: back.map (·.superpage.identity) := by
    simp [hl]
  have hplace : 0 + (done ++ front.map (·.superpage.identity)).length =
      done.length + front.length := by
    simp
  rw [hplace, hsound.pages_eq hp, total_append, htotal] at hcount
  rw [hsplit, hcount, hlength, arrivedPages, hl, total_append, total]
  have hpages := Nat.le_trans hsound.arrived_le_pushed hsound.pushed_le_pages
  have hpos := hsound.pages_pos
  omega

theorem arrivedPages_push (hp : tracker.push superpage = .ok next) :
    next.arrivedPages = tracker.arrivedPages := by
  obtain ⟨-, -, -, -, -, rfl⟩ := push_eq_ok_iff.mp hp
  simp [arrivedPages, Transfer.start, total]

theorem arrivedPages_pagePushed (tracker : Tracker) :
    tracker.pagePushed.arrivedPages = tracker.arrivedPages := by
  have hsame : tracker.pagePushed.transfer.map Transfer.arrived =
      tracker.transfer.map Transfer.arrived :=
    map_updateFirst _ Transfer.pagePushed _ (fun _ => rfl) _
  have htotal := congrArg (total id) hsame
  rwa [total_map, total_map] at htotal

theorem arrivedPages_pageArrived (ho : tracker.outstanding ≠ []) (length : Nat) :
    (tracker.pageArrived length).2.arrivedPages = tracker.arrivedPages + 1 := by
  obtain ⟨transfer, hf⟩ := exists_inFlight_of_outstanding ho
  obtain ⟨front, back, hl, -, -, hu⟩ := exists_split_of_find? hf
  obtain ⟨received, ha, -⟩ := transfer.exists_pageArrived tracker.pageSize length
  unfold Tracker.pageArrived
  simp only [hf, arrivedPages, hu, ha]
  simp only [hl, total_append, total]
  omega

/-- The pages of what is promoted leave the transfers, all of them landed. -/
theorem InOrder.arrivedPages_promote (h : tracker.InOrder) (hp : 0 < tracker.pageSize) :
    tracker.arrivedPages =
      total (Identity.pages tracker.pageSize) (tracker.promotable.map (·.superpage.identity)) +
        tracker.promote.2.arrivedPages := by
  have hsub := tracker.promotable_isPrefix.subset
  rw [h.total_pages hp _ fun transfer ht => hsub ht, arrivedPages, arrivedPages]
  conv_lhs => rw [tracker.transfer_eq_promotable_append]
  rw [total_append, total_congr fun transfer ht => arrived_of_mem_promotable ht]

end Tracker

end Readout.Dma
