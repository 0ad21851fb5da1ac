import Mathlib.Data.List.Induction
import Mathlib.Data.List.Infix
import Readout.Proofs.Dma.Plan

/-!
What the reports on its pages make of a superpage: the bytes that count and whether it is ready. The
reports come in the order of the pages, so each superpage has its own stretch of them.
-/

namespace Readout.Dma

/-- A page that has landed and the length that was reported for it. -/
structure Report where
  page : Page
  length : Nat
  deriving DecidableEq

/-- A length above the size of a page counts nothing. -/
def Report.counted (pageSize : Nat) (report : Report) : Nat :=
  if report.length ≤ pageSize then report.length else 0

theorem Report.counted_le (pageSize : Nat) (report : Report) : report.counted pageSize ≤ pageSize := by
  unfold counted
  split
  next h => exact h
  next => exact Nat.zero_le _

theorem total_counted_le (pageSize : Nat) (reports : List Report) :
    total (Report.counted pageSize) reports ≤ reports.length * pageSize := by
  induction reports with
  | nil => exact Nat.zero_le _
  | cons report rest ih =>
    have hle := report.counted_le pageSize
    rw [total, List.length_cons, Nat.succ_mul]
    omega

/-- The bytes that count fill all the pages only if each report was of a whole page. -/
theorem total_counted_eq_iff {pageSize : Nat} (hp : 0 < pageSize) (pages : Nat)
    {reports : List Report} (hle : reports.length ≤ pages) :
    total (Report.counted pageSize) reports = pages * pageSize ↔
      reports.map Report.length = List.replicate pages pageSize := by
  induction reports generalizing pages with
  | nil =>
    cases pages with
    | zero => simp [total]
    | succ pages =>
      have hpos : 0 < (pages + 1) * pageSize := Nat.mul_pos (Nat.succ_pos _) hp
      simp only [total, List.map_nil, List.replicate_succ, reduceCtorEq, iff_false]
      omega
  | cons report rest ih =>
    cases pages with
    | zero => simp at hle
    | succ pages =>
      rw [List.length_cons, Nat.add_le_add_iff_right] at hle
      have hfirst := report.counted_le pageSize
      have hrest := Nat.le_trans (total_counted_le pageSize rest) (Nat.mul_le_mul_right pageSize hle)
      rw [total, List.map_cons, List.replicate_succ, List.cons.injEq, ← ih pages hle,
        Nat.succ_mul]
      have hwhole : report.counted pageSize = pageSize ↔ report.length = pageSize := by
        unfold Report.counted
        split <;> omega
      rw [← hwhole]
      omega

namespace Superpage

variable {pageSize : Nat} {superpage : Superpage} {report : Report} {own : List Report}

/-- The superpage after one of its pages has landed: a length that is refused leaves it as it is. -/
def landed (pageSize : Nat) (superpage : Superpage) (report : Report) : Superpage :=
  if pageSize < report.length then superpage
  else
    match superpage.credit report.length with
    | .ok (.ok next) => next
    | _ => superpage

/-- The superpage after the reports on its pages. -/
def after (pageSize : Nat) (superpage : Superpage) (own : List Report) : Superpage :=
  own.foldl (landed pageSize) superpage

/-- What is given back of a superpage that was pushed: it is ready once all its pages have landed. -/
def outcome (pageSize : Nat) (superpage : Superpage) (own : List Report) : Superpage :=
  if own.length = superpage.identity.pages pageSize then (superpage.after pageSize own).markReady
  else superpage.after pageSize own

@[simp] theorem after_nil : superpage.after pageSize [] = superpage := rfl

theorem after_concat : superpage.after pageSize (own ++ [report]) =
    (superpage.after pageSize own).landed pageSize report := by
  simp [after]

/-- A page that lands changes no more than the count of bytes. -/
theorem exists_landed (pageSize : Nat) (superpage : Superpage) (report : Report) :
    ∃ received, superpage.landed pageSize report = { superpage with received := received } := by
  unfold landed credit
  split
  · exact ⟨superpage.received, rfl⟩
  · split
    next next hc =>
      split at hc
      · simp at hc
      · rw [Except.ok.injEq, setReceived_eq_ok_iff] at hc
        exact ⟨_, hc.2.2⟩
    · exact ⟨superpage.received, rfl⟩

theorem exists_after (pageSize : Nat) (superpage : Superpage) (own : List Report) :
    ∃ received, superpage.after pageSize own = { superpage with received := received } := by
  induction own using List.reverseRecOn with
  | nil => exact ⟨superpage.received, rfl⟩
  | append_singleton own report ih =>
    obtain ⟨received, hr⟩ := ih
    obtain ⟨next, hn⟩ := exists_landed pageSize { superpage with received := received } report
    rw [after_concat, hr, hn]
    exact ⟨next, rfl⟩

@[simp] theorem identity_outcome : (superpage.outcome pageSize own).identity = superpage.identity := by
  obtain ⟨received, hr⟩ := exists_after pageSize superpage own
  unfold outcome
  split <;> simp only [hr] <;> rfl

@[simp] theorem size_after : (superpage.after pageSize own).size = superpage.size := by
  obtain ⟨received, hr⟩ := exists_after pageSize superpage own
  rw [hr]

@[simp] theorem received_outcome :
    (superpage.outcome pageSize own).received = (superpage.after pageSize own).received := by
  unfold outcome
  split <;> rfl

/-- Ready is what was pushed as ready, and what all pages have landed of. -/
theorem ready_outcome_iff : (superpage.outcome pageSize own).ready = true ↔
    superpage.ready = true ∨ own.length = superpage.identity.pages pageSize := by
  obtain ⟨received, hr⟩ := exists_after pageSize superpage own
  unfold outcome
  split
  next h => simp [h]
  next h => simp [hr, h]

theorem outcome_nil (h : superpage.identity.pages pageSize ≠ 0) :
    superpage.outcome pageSize [] = superpage := by
  simp [outcome, h.symm]

theorem received_landed (h : superpage.received + pageSize ≤ superpage.size)
    (hb : superpage.size < byteBound) :
    (superpage.landed pageSize report).received =
      superpage.received + report.counted pageSize := by
  unfold landed Report.counted
  by_cases hlong : pageSize < report.length
  · rw [if_pos hlong, if_neg (Nat.not_le.mpr hlong), Nat.add_zero]
  · have hset : superpage.setReceived (superpage.received + report.length) =
        .ok { superpage with received := superpage.received + report.length } :=
      setReceived_eq_ok_iff.mpr ⟨by omega, by omega, rfl⟩
    rw [if_neg hlong, if_pos (Nat.le_of_not_lt hlong), credit_eq_ok (by omega), hset]

/-- Where there is room for every page, the count grows by the bytes that count. -/
theorem received_after (h : superpage.received + own.length * pageSize ≤ superpage.size)
    (hb : superpage.size < byteBound) :
    (superpage.after pageSize own).received =
      superpage.received + total (Report.counted pageSize) own := by
  induction own using List.reverseRecOn with
  | nil => rfl
  | append_singleton own report ih =>
    rw [List.length_append, List.length_singleton, Nat.succ_mul] at h
    have hown := ih (by omega)
    have hle := total_counted_le pageSize own
    obtain ⟨received, hr⟩ := exists_after pageSize superpage own
    rw [after_concat, received_landed, hown, total_append, total, total, Nat.add_zero,
      Nat.add_assoc]
    · rw [hown, hr]
      dsimp only
      omega
    · rw [hr]
      exact hb

end Superpage

/-- Of the reports, those on the pages of each superpage. -/
def shares (pageSize : Nat) : List Identity → List Report → List (List Report)
  | [], _ => []
  | identity :: rest, reports =>
    reports.take (identity.pages pageSize) ::
      shares pageSize rest (reports.drop (identity.pages pageSize))

/-- What the reports have made of the superpages that were pushed. -/
def outcomes (pageSize : Nat) (pushed : List Superpage) (reports : List Report) : List Superpage :=
  List.zipWith (Superpage.outcome pageSize) pushed
    (shares pageSize (pushed.map Superpage.identity) reports)

section Shares

variable {pageSize : Nat} {identity : Identity} {front back identities : List Identity}
  {reports : List Report}

@[simp] theorem length_shares (pageSize : Nat) (identities : List Identity)
    (reports : List Report) : (shares pageSize identities reports).length = identities.length := by
  induction identities generalizing reports with
  | nil => rfl
  | cons identity rest ih => simp [shares, ih]

theorem shares_append (front back : List Identity) (reports : List Report) :
    shares pageSize (front ++ back) reports = shares pageSize front reports ++
      shares pageSize back (reports.drop (total (Identity.pages pageSize) front)) := by
  induction front generalizing reports with
  | nil => simp [shares, total]
  | cons identity rest ih => simp [shares, total, ih, List.drop_drop]

/-- The share of a superpage is what those in front of it leave, up to the number of its pages. -/
theorem getElem?_shares (front back : List Identity) (identity : Identity)
    (reports : List Report) :
    (shares pageSize (front ++ identity :: back) reports)[front.length]? =
      some ((reports.drop (total (Identity.pages pageSize) front)).take
        (identity.pages pageSize)) := by
  rw [shares_append, List.getElem?_append_right (by simp), length_shares, Nat.sub_self]
  rfl

/-- A superpage has as many reports as the plan has given it of the pages so far. -/
theorem length_eq_count {place : Nat} {own : List Report}
    (h : (shares pageSize identities reports)[place]? = some own) :
    own.length = ((owners pageSize 0 identities).take reports.length).count place := by
  obtain ⟨hlt, -⟩ := List.getElem?_eq_some_iff.mp h
  rw [length_shares] at hlt
  have hplace : (identities.take place).length = place :=
    List.length_take_of_le (Nat.le_of_lt hlt)
  have hsplit := (List.take_append_drop place identities).symm
  rw [List.drop_eq_getElem_cons hlt] at hsplit
  have hshare := @getElem?_shares pageSize (identities.take place) (identities.drop (place + 1))
    identities[place] reports
  have hcount := count_take_owners pageSize 0 reports.length (identities.take place)
    (identities.drop (place + 1)) identities[place]
  rw [← hsplit, hplace] at hshare hcount
  rw [Nat.zero_add] at hcount
  rw [hcount, ← Option.some.inj (hshare.symm.trans h), List.length_take, List.length_drop]

/-- A report behind those of the superpages is none of theirs. -/
theorem shares_concat_of_le (h : total (Identity.pages pageSize) identities ≤ reports.length)
    (report : Report) :
    shares pageSize identities (reports ++ [report]) = shares pageSize identities reports := by
  induction identities generalizing reports with
  | nil => rfl
  | cons identity rest ih =>
    rw [total] at h
    have hrest : shares pageSize rest (reports.drop (identity.pages pageSize) ++ [report]) =
        shares pageSize rest (reports.drop (identity.pages pageSize)) := by
      apply ih
      rw [List.length_drop]
      omega
    rw [shares, shares, List.take_append_of_le_length (by omega),
      List.drop_append_of_le_length (by omega), hrest]

/-- The superpage whose pages the reports have come to: its share ends where the reports end. -/
theorem shares_split (hlt : reports.length < total (Identity.pages pageSize) front +
    identity.pages pageSize) :
    shares pageSize (front ++ identity :: back) reports = shares pageSize front reports ++
      reports.drop (total (Identity.pages pageSize) front) :: shares pageSize back [] := by
  have hlength : (reports.drop (total (Identity.pages pageSize) front)).length ≤
      identity.pages pageSize := by
    rw [List.length_drop]
    omega
  rw [shares_append, shares, List.take_of_length_le hlength, List.drop_eq_nil_of_le hlength]

/-- The next report joins the share of the superpage that the reports have come to. -/
theorem shares_split_concat (hle : total (Identity.pages pageSize) front ≤ reports.length)
    (hlt : reports.length < total (Identity.pages pageSize) front + identity.pages pageSize)
    (report : Report) :
    shares pageSize (front ++ identity :: back) (reports ++ [report]) =
      shares pageSize front reports ++
        (reports.drop (total (Identity.pages pageSize) front) ++ [report]) ::
          shares pageSize back [] := by
  have hlength : (reports.drop (total (Identity.pages pageSize) front) ++ [report]).length ≤
      identity.pages pageSize := by
    rw [List.length_append, List.length_drop, List.length_singleton]
    omega
  rw [shares_append, shares_concat_of_le hle, List.drop_append_of_le_length hle, shares,
    List.take_of_length_le hlength, List.drop_eq_nil_of_le hlength]

/-- Reports that follow the plan give each superpage reports on its own pages, in their order. -/
theorem offsets_of_mem_shares {place : Nat} {own : List Report}
    (hpages : reports.map (·.page.offset) <+: identities.flatMap (·.pageOffsets pageSize))
    (hi : identities[place]? = some identity)
    (hs : (shares pageSize identities reports)[place]? = some own) :
    own.map (·.page.offset) <+: identity.pageOffsets pageSize := by
  induction identities generalizing reports place with
  | nil => simp at hi
  | cons first rest ih =>
    rw [List.flatMap_cons] at hpages
    have hlength := first.length_pageOffsets pageSize
    cases place with
    | zero =>
      obtain rfl : first = identity := by simpa using hi
      obtain rfl : reports.take (first.pages pageSize) = own := by simpa [shares] using hs
      have htake := hpages.take (first.pages pageSize)
      rwa [← List.map_take, List.take_left' hlength] at htake
    | succ place =>
      have hdrop := hpages.drop (first.pages pageSize)
      rw [← List.map_drop, List.drop_left' hlength] at hdrop
      exact ih hdrop (by simpa using hi) (by simpa [shares] using hs)

end Shares

section Outcomes

variable {pageSize : Nat} {pushed : Superpage} {earlier later superpages : List Superpage}
  {reports : List Report}

@[simp] theorem length_outcomes (pageSize : Nat) (superpages : List Superpage)
    (reports : List Report) : (outcomes pageSize superpages reports).length = superpages.length := by
  simp [outcomes]

@[simp] theorem identities_outcomes (pageSize : Nat) (superpages : List Superpage)
    (reports : List Report) :
    (outcomes pageSize superpages reports).map Superpage.identity =
      superpages.map Superpage.identity := by
  induction superpages generalizing reports with
  | nil => rfl
  | cons superpage rest ih =>
    have hrest := ih (reports.drop (superpage.identity.pages pageSize))
    simpa [outcomes, shares] using hrest

theorem exists_of_mem_outcomes {place : Nat} {given : Superpage}
    (h : (outcomes pageSize superpages reports)[place]? = some given) :
    ∃ superpage own, superpages[place]? = some superpage ∧
      (shares pageSize (superpages.map Superpage.identity) reports)[place]? = some own ∧
      given = superpage.outcome pageSize own := by
  obtain ⟨superpage, own, hs, ho, rfl⟩ := List.getElem?_zipWith_eq_some.mp h
  exact ⟨superpage, own, hs, ho, rfl⟩

/-- The superpage that one of the outcomes is of, and those before and behind it. -/
theorem exists_split_of_outcomes {front back : List Superpage} {given : Superpage}
    (h : outcomes pageSize superpages reports = front ++ given :: back) :
    ∃ earlier pushed later, superpages = earlier ++ pushed :: later ∧
      earlier.map Superpage.identity = front.map Superpage.identity ∧
      pushed.identity = given.identity := by
  have hidentities := congrArg (List.map Superpage.identity) h
  rw [identities_outcomes, List.map_append, List.map_cons] at hidentities
  obtain ⟨earlier, rest, rfl, hearlier, hrest⟩ := List.map_eq_append_iff.mp hidentities
  obtain ⟨pushed, later, rfl, hpushed, -⟩ := List.map_eq_cons_iff.mp hrest
  exact ⟨earlier, pushed, later, rfl, hearlier, hpushed⟩

/-- A superpage that is pushed while no page of it is out has come to nothing yet. -/
theorem outcomes_push (h : reports.length ≤
      total (Identity.pages pageSize) (superpages.map Superpage.identity))
    (hp : pushed.identity.pages pageSize ≠ 0) :
    outcomes pageSize (superpages ++ [pushed]) reports =
      outcomes pageSize superpages reports ++ [pushed] := by
  unfold outcomes
  rw [List.map_append, List.map_singleton, shares_append, List.drop_eq_nil_of_le h,
    List.zipWith_append (by simp)]
  simp [shares, Superpage.outcome_nil hp]

theorem outcomes_split (hlt : reports.length <
      total (Identity.pages pageSize) (earlier.map Superpage.identity) +
        pushed.identity.pages pageSize) :
    outcomes pageSize (earlier ++ pushed :: later) reports = outcomes pageSize earlier reports ++
      pushed.outcome pageSize
          (reports.drop (total (Identity.pages pageSize) (earlier.map Superpage.identity))) ::
        outcomes pageSize later [] := by
  unfold outcomes
  rw [List.map_append, List.map_cons, shares_split hlt, List.zipWith_append (by simp),
    List.zipWith_cons_cons]

/-- The next report makes a difference to one superpage alone. -/
theorem outcomes_split_concat
    (hle : total (Identity.pages pageSize) (earlier.map Superpage.identity) ≤ reports.length)
    (hlt : reports.length < total (Identity.pages pageSize) (earlier.map Superpage.identity) +
      pushed.identity.pages pageSize) (report : Report) :
    outcomes pageSize (earlier ++ pushed :: later) (reports ++ [report]) =
      outcomes pageSize earlier reports ++
        pushed.outcome pageSize
            (reports.drop (total (Identity.pages pageSize) (earlier.map Superpage.identity)) ++
              [report]) ::
          outcomes pageSize later [] := by
  unfold outcomes
  rw [List.map_append, List.map_cons, shares_split_concat hle hlt, List.zipWith_append (by simp),
    List.zipWith_cons_cons]

end Outcomes

namespace Transfer

variable {transfer : Transfer}

theorem pageArrived_eq (pageSize : Nat) (transfer : Transfer) (report : Report) :
    (transfer.pageArrived pageSize report.length).2 =
      { transfer with
        arrived := transfer.arrived + 1
        superpage := transfer.superpage.landed pageSize report } := by
  unfold pageArrived Superpage.landed
  dsimp only
  split
  next => rfl
  next =>
    split
    next hc => simp [hc]
    next hc => simp [hc]
    next hc => simp [hc]

theorem received_finish (transfer : Transfer) :
    transfer.finish.received = transfer.superpage.received := by
  unfold finish
  split <;> rfl

theorem finish_of_lt (h : transfer.arrived < transfer.pages) :
    transfer.finish = transfer.superpage := by
  simp [finish, isComplete, Nat.ne_of_lt h]

end Transfer

namespace Tracker

variable {tracker next : Tracker} {accepted done : List Superpage} {reports : List Report}

/-- The superpage whose page lands next, among those that were accepted and among the transfers. -/
structure Owner (tracker : Tracker) (accepted done : List Superpage) (reports : List Report) where
  earlier : List Superpage
  pushed : Superpage
  later : List Superpage
  front : List Transfer
  transfer : Transfer
  back : List Transfer
  accepted_eq : accepted = earlier ++ pushed :: later
  find_eq : tracker.transfer.find? Transfer.hasPageInFlight = some transfer
  transfer_eq : tracker.transfer = front ++ transfer :: back
  update_eq : ∀ f, updateFirst Transfer.hasPageInFlight f tracker.transfer =
    front ++ f transfer :: back
  length_eq : reports.length =
    total (Identity.pages tracker.pageSize) (earlier.map Superpage.identity) + transfer.arrived
  arrived_lt : transfer.arrived < transfer.pages
  pages_eq : pushed.identity.pages tracker.pageSize = transfer.pages
  superpage_eq : transfer.superpage = pushed.after tracker.pageSize
    (reports.drop (total (Identity.pages tracker.pageSize) (earlier.map Superpage.identity)))
  earlier_eq : outcomes tracker.pageSize earlier reports = done ++ front.map Transfer.finish
  later_eq : outcomes tracker.pageSize later [] = back.map Transfer.finish

/-- What has landed of the transfers is all of those in front of the one that waits, and its own. -/
theorem InOrder.arrivedPages_of_split (h : tracker.InOrder) (hp : 0 < tracker.pageSize)
    {front back : List Transfer} {transfer : Transfer}
    (hl : tracker.transfer = front ++ transfer :: back)
    (hfront : ∀ earlier ∈ front, earlier.arrived = earlier.pages)
    (hback : ∀ later ∈ back, later.arrived = 0) :
    tracker.arrivedPages =
      total (Identity.pages tracker.pageSize) (front.map (·.superpage.identity)) +
        transfer.arrived := by
  have htotal := h.total_pages hp front fun other ho => by simp [hl, ho]
  rw [arrivedPages, hl, total_append, total, total_eq_zero hback, htotal, total_congr hfront]
  omega

/-- Where the outcomes are those of the reports, a page that is out has an owner. -/
theorem InOrder.exists_owner (h : tracker.InOrder) (hp : 0 < tracker.pageSize)
    (ho : tracker.outstanding ≠ [])
    (hlength : reports.length =
      total (Identity.pages tracker.pageSize) (done.map Superpage.identity) + tracker.arrivedPages)
    (heq : outcomes tracker.pageSize accepted reports =
      done ++ tracker.transfer.map Transfer.finish) :
    Nonempty (tracker.Owner accepted done reports) := by
  obtain ⟨transfer, hf⟩ := exists_inFlight_of_outstanding ho
  obtain ⟨front, back, hl, hlt, hfront, hback, hu⟩ := h.split_hasPageInFlight hf
  have hsound := h.sound transfer (by simp [hl])
  have harrived : transfer.arrived < transfer.pages := Nat.lt_of_lt_of_le hlt hsound.pushed_le_pages
  rw [hl, List.map_append, List.map_cons, ← List.append_assoc] at heq
  obtain ⟨earlier, pushed, later, rfl, hearlier, hpushed⟩ := exists_split_of_outcomes heq
  have hpages : pushed.identity.pages tracker.pageSize = transfer.pages := by
    rw [hpushed, Transfer.identity_finish]
    exact hsound.pages_eq hp
  have hplace : reports.length =
      total (Identity.pages tracker.pageSize) (earlier.map Superpage.identity) +
        transfer.arrived := by
    rw [hlength, h.arrivedPages_of_split hp hl hfront hback, hearlier, List.map_append,
      List.map_map, total_append, Nat.add_assoc]
    simp only [Function.comp_def, Transfer.identity_finish]
  rw [outcomes_split (by omega)] at heq
  have hlengths := congrArg List.length hearlier
  rw [List.length_map, List.length_map] at hlengths
  obtain ⟨hearlier_eq, hrest_eq⟩ := List.append_inj heq ((length_outcomes _ _ _).trans hlengths)
  obtain ⟨hpushed_eq, hlater_eq⟩ := List.cons.inj hrest_eq
  have hown : (reports.drop (total (Identity.pages tracker.pageSize)
      (earlier.map Superpage.identity))).length ≠ pushed.identity.pages tracker.pageSize := by
    rw [List.length_drop]
    omega
  rw [Transfer.finish_of_lt harrived, Superpage.outcome, if_neg hown] at hpushed_eq
  exact ⟨⟨earlier, pushed, later, front, transfer, back, rfl, hf, hl, hu, hplace, harrived, hpages,
    hpushed_eq.symm, hearlier_eq, hlater_eq⟩⟩

namespace Owner

/-- The reports on the pages of the owner. -/
def own (owner : tracker.Owner accepted done reports) : List Report :=
  reports.drop (total (Identity.pages tracker.pageSize) (owner.earlier.map Superpage.identity))

theorem length_own (owner : tracker.Owner accepted done reports) :
    owner.own.length = owner.transfer.arrived := by
  have hlength := owner.length_eq
  rw [own, List.length_drop]
  omega

theorem getElem?_accepted (owner : tracker.Owner accepted done reports) :
    accepted[owner.earlier.length]? = some owner.pushed := by
  have hplace := congrArg (·[owner.earlier.length]?) owner.accepted_eq
  simpa using hplace

theorem superpage_eq_after (owner : tracker.Owner accepted done reports) :
    owner.transfer.superpage = owner.pushed.after tracker.pageSize owner.own :=
  owner.superpage_eq

/-- What becomes of the owner when the page lands is what the next report makes of it. -/
theorem finish_pageArrived (owner : tracker.Owner accepted done reports) (report : Report) :
    (owner.transfer.pageArrived tracker.pageSize report.length).2.finish =
      owner.pushed.outcome tracker.pageSize (owner.own ++ [report]) := by
  rw [Transfer.pageArrived_eq, Transfer.finish, Superpage.outcome, Superpage.after_concat,
    ← owner.superpage_eq_after, List.length_append, List.length_singleton, owner.length_own,
    owner.pages_eq]
  simp [Transfer.isComplete]

theorem shares_concat (owner : tracker.Owner accepted done reports) (report : Report) :
    (shares tracker.pageSize (accepted.map Superpage.identity) (reports ++ [report]))[
      owner.earlier.length]? = some (owner.own ++ [report]) := by
  have hlength := owner.length_eq
  have hlt := owner.arrived_lt
  have hpages := owner.pages_eq
  have hidentities : accepted.map Superpage.identity = owner.earlier.map Superpage.identity ++
      owner.pushed.identity :: owner.later.map Superpage.identity := by
    rw [← List.map_cons, ← List.map_append, ← owner.accepted_eq]
  rw [hidentities, shares_split_concat (by omega) (by omega)]
  simp [own]

/-- The page that lands makes a difference to its owner alone. -/
theorem outcomes_concat (owner : tracker.Owner accepted done reports) (report : Report) :
    outcomes tracker.pageSize accepted (reports ++ [report]) =
      done ++ (tracker.pageArrived report.length).2.transfer.map Transfer.finish := by
  have hlength := owner.length_eq
  have hlt := owner.arrived_lt
  have hpages := owner.pages_eq
  have hnext := owner.finish_pageArrived report
  rw [own] at hnext
  have htransfer : (tracker.pageArrived report.length).2.transfer = owner.front ++
      (owner.transfer.pageArrived tracker.pageSize report.length).2 :: owner.back := by
    simp [Tracker.pageArrived, owner.find_eq, owner.update_eq]
  rw [htransfer, List.map_append, List.map_cons, hnext, ← owner.later_eq, ← List.append_assoc,
    ← owner.earlier_eq, ← outcomes_split_concat (by omega) (by omega), ← owner.accepted_eq]

/-- A superpage that was pushed with nothing received has room for each of its pages. -/
theorem room_of_fresh (owner : tracker.Owner accepted done reports)
    (hsize : owner.pushed.size % tracker.pageSize = 0) (hb : owner.pushed.size < byteBound)
    (hfresh : owner.pushed.received = 0) :
    owner.transfer.superpage.received + tracker.pageSize ≤ owner.transfer.superpage.size ∧
      owner.transfer.superpage.size < byteBound := by
  have hwhole : owner.transfer.pages * tracker.pageSize = owner.pushed.size := by
    rw [← owner.pages_eq]
    exact Nat.div_mul_cancel (Nat.dvd_of_mod_eq_zero hsize)
  have hnext : (owner.own.length + 1) * tracker.pageSize ≤ owner.pushed.size := by
    rw [← hwhole, owner.length_own]
    exact Nat.mul_le_mul_right _ owner.arrived_lt
  rw [Nat.succ_mul] at hnext
  have hfits : owner.pushed.received + owner.own.length * tracker.pageSize ≤ owner.pushed.size := by
    omega
  have hreceived := Superpage.received_after hfits hb
  have hle := total_counted_le tracker.pageSize owner.own
  obtain ⟨received, hr⟩ := Superpage.exists_after tracker.pageSize owner.pushed owner.own
  rw [owner.superpage_eq_after]
  refine ⟨?_, ?_⟩
  · rw [hreceived, hr]
    dsimp only
    omega
  · rw [hr]
    exact hb

end Owner

end Tracker

end Readout.Dma
