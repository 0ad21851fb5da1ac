import Readout.Proofs.Session.Step

/-!
A session can be called on behind a call that could not return. Such a call has come, by the steps
of other calls, to a page that landed but could not be booked; so what the steps keep, and a landing
that fails, is kept by all calls, however each of them ends.
-/

namespace Readout

open Dma

/-- A landing that fails leaves the rings and the pages in flight, and books at most the arrival. -/
theorem Dma.Flow.eq_of_land_error {flow next : Flow} {page : Page} {length : Nat}
    {fault : FlowFault} (h : flow.land page length = (.error fault, next)) :
    next = flow ∨ next = { flow with tracker := (flow.tracker.pageArrived length).2 } := by
  unfold land at h
  split at h
  · exact .inl (Prod.mk.inj h).2.symm
  · dsimp only at h
    split at h
    · exact .inr (Prod.mk.inj h).2.symm
    · split at h
      · simp at h
      · exact .inr (Prod.mk.inj h).2.symm

namespace Session

variable {ρ τ : Type} [PageTransport τ] {session next : Session ρ τ}

/-- The landing that a call could not book, and what led to it. -/
theorem exists_land_of_fault {operation : Operation} {fault : FlowFault}
    (h : session.perform operation = (.error fault, next)) (ledger : Ledger) :
    ∃ (middle : Session ρ τ) (page : Page) (transport : τ) (length : Nat) (flow : Flow),
      middle.state = .started ∧ Account.Path ⟨session, ledger⟩ ⟨middle, ledger⟩ ∧
      middle.flow.inFlight.head? = some page ∧
      PageTransport.pollPage middle.transport page = (.ok (some length), transport) ∧
      middle.flow.land page length = (.error fault, flow) ∧
      next = { middle with transport := transport, flow := flow } := by
  obtain ⟨hs, log, hc⟩ := Account.collect_of_perform_fault h
  obtain ⟨middle, hm, path, ends⟩ :=
    Account.collect_cases { session with log := log } ledger rfl hs
  change Account.CollectEnd middle (collectArrivals.on { session with log := log }) at ends
  rw [hc] at ends
  cases ends with
  | fault hhead hpoll hland =>
    exact ⟨middle, _, _, _, _, hm, path.head (.note _ _ _), hhead, hpoll, hland, rfl⟩

/-- What the steps keep, and also a landing that fails. -/
structure Lasting (P : Session ρ τ → Prop) : Prop where
  step : ∀ {account after : Account ρ τ}, Account.Step account after → P account.session →
    P after.session
  unbooked : ∀ {session : Session ρ τ} {page : Page} {length : Nat} {fault : FlowFault}
    {flow : Flow} (transport : τ), session.state = .started →
    session.flow.land page length = (.error fault, flow) → P session →
    P { session with transport := transport, flow := flow }

variable {P : Session ρ τ → Prop}

theorem Lasting.perform (h : Lasting P) (hp : P session) (operation : Operation) :
    P (session.perform operation).2 := by
  have along {middle : Session ρ τ} {ledger : Ledger}
      (path : Account.Path ⟨session, .empty⟩ ⟨middle, ledger⟩) : P middle :=
    path.keeps (P := fun account => P account.session) h.step hp
  rcases hperform : session.perform operation with ⟨fault | answer, next⟩
  · obtain ⟨middle, page, transport, length, flow, hs, path, -, -, hland, rfl⟩ :=
      exists_land_of_fault hperform .empty
    exact h.unbooked transport hs hland (along path)
  · exact along (Account.perform_path .empty hperform)

/-- The calls in turn with what comes of each of them, also behind one that a fault ended. -/
def performEach : List Operation → Session ρ τ →
    List (Except FlowFault (Except Error Answer)) × Session ρ τ
  | [], session => ([], session)
  | operation :: rest, session =>
    let (outcome, next) := session.perform operation
    let (outcomes, last) := performEach rest next
    (outcome :: outcomes, last)

theorem Lasting.performEach (h : Lasting P) (hp : P session) (operations : List Operation) :
    P (session.performEach operations).2 := by
  induction operations generalizing session with
  | nil => exact hp
  | cons operation rest ih => exact ih (h.perform hp operation)

end Session

end Readout
