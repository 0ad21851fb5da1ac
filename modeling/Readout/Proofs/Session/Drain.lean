import Readout.Proofs.Session.Echo
import Readout.Proofs.Session.Ending

/-!
The readout loop over the loopback: a fill, and then pops until one fails. Every round but the first
brings a page in or promotes a superpage, so the loop comes to an end, and all superpages come out
of it ready and filled.
-/

namespace Readout

open Dma

/-- The pages that have still to arrive and the superpages that have still to be promoted. -/
def Dma.Tracker.remaining (tracker : Tracker) : Nat := tracker.awaited + tracker.transfer.length

namespace Session

variable {ρ τ : Type} [PageTransport τ]

/-- Superpages are popped until a pop fails. -/
inductive Pops : Session ρ τ → List Superpage → Session ρ τ → Prop where
  | failed {session next : Session ρ τ} {error : Error} :
      session.perform .pop = (.ok (.error error), next) → Pops session [] next
  | popped {session middle next : Session ρ τ} {superpage : Superpage}
      {popped : List Superpage} :
      session.perform .pop = (.ok (.ok (.popped superpage)), middle) →
      Pops middle popped next →
      Pops session (superpage :: popped) next

/-- Rounds of the readout loop, with all that they pop: a fill that succeeds, then the pops. -/
inductive Rounds : Nat → Session ρ τ → List Superpage → Session ρ τ → Prop where
  | nil (session : Session ρ τ) : Rounds 0 session [] session
  | cons {session filled middle next : Session ρ τ} {n promoted : Nat}
      {popped more : List Superpage} :
      session.perform .fill = (.ok (.ok (.promoted promoted)), filled) →
      Pops filled popped middle →
      Rounds n middle more next →
      Rounds (n + 1) session (popped ++ more) next

variable {session next : Session ρ τ}

/-- Nothing is left in the ready queue; all else is as it was. -/
structure Emptied (session next : Session ρ τ) : Prop where
  state_eq : next.state = session.state
  inFlight_eq : next.flow.inFlight = session.flow.inFlight
  transfer_eq : next.flow.tracker.transfer = session.flow.tracker.transfer
  ready_eq : next.flow.tracker.ready = []

/-- The pops give the ready queue, oldest superpage first. -/
theorem exists_pops (session : Session ρ τ) (ledger : Ledger) :
    ∃ next, Pops session session.flow.tracker.ready next ∧ session.Emptied next ∧
      Account.Path ⟨session, ledger⟩
        ⟨next, { ledger with popped := ledger.popped ++ session.flow.tracker.ready }⟩ := by
  induction hr : session.flow.tracker.ready generalizing session ledger with
  | nil =>
    refine ⟨session, .failed (perform_pop_of_empty hr), ⟨rfl, rfl, rfl, hr⟩, ?_⟩
    rw [List.append_nil]
  | cons superpage ready ih =>
    have hpop := Tracker.pop_eq_ok_iff.mpr ⟨ready, hr, rfl⟩
    obtain ⟨next, pops, he, path⟩ := ih
      { session with flow := { session.flow with tracker := { session.flow.tracker with
          ready := ready, live := session.flow.tracker.live.erase superpage.offset } } }
      (ledger.pop superpage) rfl
    refine ⟨next, .popped ?_ pops, ⟨he.state_eq, he.inFlight_eq, he.transfer_eq, he.ready_eq⟩, ?_⟩
    · rw [perform, on_pop_of_ok hpop, returned]
    · rw [Ledger.pop, List.append_assoc] at path
      exact path.head (.pop hpop)

/-- All that is over has been popped, and a page is in flight for as long as one is awaited. -/
structure Primed (session : Session ρ τ) : Prop where
  ready_eq : session.flow.tracker.ready = []
  inFlight_of_awaited : ∀ transfer ∈ session.flow.tracker.transfer,
    transfer.arrived < transfer.pages → session.flow.inFlight ≠ []

end Session

namespace Account

open Session

variable {ρ τ : Type} {config : ChannelConfig}

theorem remaining_of_refilled [PageTransport τ] {session middle next : Session ρ τ}
    {reports : List Report} (credits : Credits session reports middle)
    (hi : session.flow.InStep)
    (hr : Refilled { middle with flow := middle.flow.promote.2 } (.ok (), next)) :
    next.flow.tracker.remaining + reports.length + middle.flow.tracker.promotable.length =
      session.flow.tracker.remaining := by
  obtain ⟨hawaited, -⟩ := credits.awaited hi
  have hlength := congrArg List.length credits.holds.transfer_eq
  have hsame := hr.sameQueues
  have hpromoted := middle.flow.tracker.awaited_promote
  have hmoved := middle.flow.tracker.length_transfer_promote
  have hleft := hsame.awaited_eq
  have hqueued := hsame.length_eq
  simp only [List.length_map] at hlength
  simp only [Flow.promote] at hleft hqueued
  unfold Tracker.remaining
  omega

/-- A transfer of which nothing is in flight, though a page of it would be, is complete. -/
theorem isComplete_of_primed {transfer : Transfer} {session : Session ρ τ} [PageTransport τ]
    (h : session.Primed) (hi : session.flow.InStep) (hnil : session.flow.inFlight = [])
    (ht : transfer ∈ session.flow.tracker.transfer) : transfer.isComplete = true := by
  have hsound := hi.inOrder.sound transfer ht
  have hpushed := hsound.arrived_le_pushed
  have hpages := hsound.pushed_le_pages
  have hnot : ¬ transfer.arrived < transfer.pages :=
    fun hlt => h.inFlight_of_awaited transfer ht hlt hnil
  rw [Transfer.isComplete, beq_iff_eq]
  omega

variable {session : Session ρ Loopback} {ledger : Ledger}

/-- What a round of the readout loop leaves. -/
structure Turned (config : ChannelConfig) (before after : Account ρ Loopback)
    (popped : List Superpage) : Prop where
  live : after.Live config
  primed : after.session.Primed
  accepted_eq : after.ledger.accepted = before.ledger.accepted
  popped_eq : after.ledger.popped = before.ledger.popped ++ popped
  filled : ∀ superpage ∈ popped, superpage.ready = true ∧ superpage.isFilled = true

/-- A round succeeds, and brings the transfers on wherever the one before it has. -/
theorem Live.exists_turned (h : Live config ⟨session, ledger⟩) (hpage : 0 < config.pageSize)
    (hready : 0 < config.readyCapacity) :
    ∃ promoted filled popped next later,
      session.perform .fill = (.ok (.ok (.promoted promoted)), filled) ∧
      Pops filled popped next ∧ Turned config ⟨session, ledger⟩ ⟨next, later⟩ popped ∧
      next.flow.tracker.remaining ≤ session.flow.tracker.remaining ∧
      (session.Primed → session.flow.tracker.transfer ≠ [] →
        next.flow.tracker.remaining < session.flow.tracker.remaining) := by
  have hi := h.looped.sound.coherent.inStep
  obtain ⟨reports, middle, filled, credits, hnil, hrefilled, hfill, hlive⟩ := h.exists_fill
  have hremaining := remaining_of_refilled credits hi hrefilled
  obtain ⟨next, pops, hemptied, path⟩ := exists_pops filled ledger
  have hsame : next.flow.tracker.remaining = filled.flow.tracker.remaining := by
    rw [Tracker.remaining, Tracker.awaited, hemptied.transfer_eq]
    rfl
  refine ⟨_, filled, _, next, { ledger with popped := ledger.popped ++ filled.flow.tracker.ready },
    hfill, pops, ⟨⟨?_, ?_, ?_⟩, ⟨?_, ?_⟩, rfl, rfl, ?_⟩, ?_, ?_⟩
  · exact hlive.looped.path path
  · exact h.fresh
  · exact hemptied.state_eq.trans hlive.started
  · exact hemptied.ready_eq
  · intro transfer ht hlt
    rw [hemptied.inFlight_eq]
    rw [hemptied.transfer_eq] at ht
    cases hrefilled with
    | done _ hnone =>
      have hcapacity := hlive.looped.sound.capacity_pos hpage (List.ne_nil_of_mem ht)
      exact hlive.looped.sound.coherent.inStep.inFlight_ne_nil_of_awaited hcapacity hnone ht hlt
  · exact hlive.echoing.filled hlive.started
  · omega
  · intro hprimed htransfer
    cases credits with
    | cons =>
      simp only [List.length_cons] at hremaining
      omega
    | nil =>
      -- nothing was in flight, so the oldest transfer is complete
      obtain ⟨transfer, rest, hl⟩ := List.exists_cons_of_ne_nil htransfer
      have hcomplete := isComplete_of_primed hprimed hi hnil (by rw [hl]; exact List.mem_cons_self)
      have hroom : session.flow.tracker.ready.length < session.flow.tracker.readyCapacity := by
        rw [hprimed.ready_eq, h.looped.sound.stocked.readyCapacity_eq]
        exact hready
      have hpos := List.length_pos_iff.mpr (Tracker.promotable_ne_nil hl hcomplete hroom)
      omega

theorem Turned.trans {before middle after : Account ρ Loopback} {popped more : List Superpage}
    (h : Turned config before middle popped) (hn : Turned config middle after more) :
    Turned config before after (popped ++ more) := by
  refine ⟨hn.live, hn.primed, hn.accepted_eq.trans h.accepted_eq, ?_, ?_⟩
  · rw [hn.popped_eq, h.popped_eq, List.append_assoc]
  · rw [List.forall_mem_append]
    exact ⟨h.filled, hn.filled⟩

/-- As many rounds as there are pages to arrive and superpages to promote empty the queues. -/
theorem Live.exists_rounds (h : Live config ⟨session, ledger⟩) (hpage : 0 < config.pageSize)
    (hready : 0 < config.readyCapacity) (hprimed : session.Primed) {bound : Nat}
    (hle : session.flow.tracker.remaining ≤ bound) :
    ∃ n ≤ bound, ∃ popped next later, Rounds n session popped next ∧
      Turned config ⟨session, ledger⟩ ⟨next, later⟩ popped ∧ next.flow.tracker.transfer = [] := by
  have stay : Turned config ⟨session, ledger⟩ ⟨session, ledger⟩ [] :=
    ⟨h, hprimed, rfl, (List.append_nil _).symm, nofun⟩
  induction bound generalizing session ledger with
  | zero =>
    have hnone : session.flow.tracker.transfer = [] := by
      rw [← List.length_eq_zero_iff]
      rw [Tracker.remaining] at hle
      omega
    exact ⟨0, Nat.le_refl 0, [], session, ledger, .nil _, stay, hnone⟩
  | succ bound ih =>
    by_cases hnone : session.flow.tracker.transfer = []
    · exact ⟨0, Nat.zero_le _, [], session, ledger, .nil _, stay, hnone⟩
    · obtain ⟨promoted, filled, popped, middle, later, hfill, pops, hturned, -, hless⟩ :=
        h.exists_turned hpage hready
      have hmiddle := hless hprimed hnone
      obtain ⟨n, hn, more, next, last, rounds, hrest, hempty⟩ :=
        ih hturned.live hturned.primed (by omega)
          ⟨hturned.live, hturned.primed, rfl, (List.append_nil _).symm, nofun⟩
      exact ⟨n + 1, Nat.succ_le_succ hn, popped ++ more, next, last, .cons hfill pops rounds,
        hturned.trans hrest, hempty⟩

/-- What the rounds pop is what was in the queues, if they leave nothing there. -/
theorem Turned.map_identity_popped {before after : Account ρ Loopback} {popped : List Superpage}
    (h : Turned config before after popped) (hb : before.Balanced)
    (ht : after.session.flow.tracker.transfer = []) :
    popped.map Superpage.identity = before.session.flow.tracker.identities := by
  have hnone : after.session.flow.tracker.identities = [] := by
    rw [Tracker.identities, ht, h.primed.ready_eq]
    rfl
  have hafter := h.live.looped.sound.balanced
  unfold Balanced at hb hafter
  rw [h.accepted_eq, hb, h.popped_eq, hnone, List.append_nil, List.map_append] at hafter
  exact (List.append_cancel_left hafter).symm

end Account

namespace Session

variable {ρ : Type} {session last : Session ρ Loopback} {operations : List Operation}
  {history : History}

/-- Runs that push only superpages with nothing received keep their ledger fresh. -/
theorem fresh_of_run {τ : Type} [PageTransport τ] {session last : Session ρ τ} {ledger : Ledger}
    (hfresh : ∀ superpage, .push superpage ∈ operations → superpage.received = 0)
    (hl : ledger.Fresh) (hr : session.run operations = .ok (history, last)) :
    (history.foldl Ledger.record ledger).Fresh := by
  induction operations generalizing session ledger history with
  | nil =>
    obtain ⟨rfl, -⟩ := Prod.mk.inj (Except.ok.inj hr)
    exact hl
  | cons operation rest ih =>
    obtain ⟨answer, next, later, -, hrest, rfl⟩ := exists_of_run_cons hr
    apply ih (fun superpage hm => hfresh superpage (List.mem_cons_of_mem _ hm)) _ hrest
    intro superpage hm
    rcases Ledger.mem_accepted_record hm with hm | hpushed
    · exact hl superpage hm
    · have hpushed : operation = .push superpage := hpushed
      exact hfresh superpage (hpushed ▸ List.mem_cons_self)

theorem Opened.looped {loopback : Loopback} (h : session.Opened loopback) :
    Account.Looped session.config ⟨session, .empty⟩ := by
  refine ⟨h.sound, fun _ => ?_⟩
  obtain ⟨-, hfresh⟩ := h.exists_fresh
  rw [hfresh]
  exact ⟨Tracker.whole_of_transfer_eq_nil rfl, nofun, nofun⟩

/--
Over the loopback a started session that was given superpages with nothing received has exactly the
pages in flight that the loopback holds, and can always be filled and stopped. Rounds of the readout
loop, no more than one over the number of pages to arrive and of superpages in transfer, give back
every superpage that was queued, ready and filled, in the order of the queues.
-/
theorem drained_of_run {loopback : Loopback} (h : session.Opened loopback)
    (hfresh : ∀ superpage, .push superpage ∈ operations → superpage.received = 0)
    (hr : session.run operations = .ok (history, last)) (hs : last.state = .started) :
    last.transport.pending = last.flow.inFlight ∧
    (∃ promoted next, last.perform .fill = (.ok (.ok (.promoted promoted)), next)) ∧
    (∃ next, last.perform .stop = (.ok (.ok .done), next)) ∧
    ∃ n ≤ last.flow.tracker.awaited + last.flow.tracker.transfer.length + 1, ∃ popped next,
      Rounds n last popped next ∧ next.flow.tracker.transfer = [] ∧
      next.flow.tracker.ready = [] ∧
      popped.map Superpage.identity = last.flow.tracker.identities ∧
      ∀ superpage ∈ popped, superpage.ready = true ∧ superpage.isFilled = true := by
  have hpage := h.pageSize_pos
  have hready : 0 < session.config.readyCapacity := by
    obtain ⟨hv, -⟩ := h.exists_fresh
    obtain ⟨-, -, ⟨-, hready⟩, -⟩ := ChannelConfig.validate_eq_ok_iff.mp hv
    exact hready
  have hlive : Account.Live session.config ⟨last, Ledger.ofHistory history⟩ :=
    ⟨h.looped.path (Account.run_path .empty hr), fresh_of_run hfresh nofun hr, hs⟩
  refine ⟨hlive.echoing.pending_eq hs, ?_, hlive.exists_stop, ?_⟩
  · obtain ⟨_, _, next, _, _, _, hfill, _⟩ := hlive.exists_fill
    exact ⟨_, next, hfill⟩
  -- the first round may only pop, each one behind it does more
  · obtain ⟨promoted, filled, popped, middle, later, hfill, pops, hturned, hle, -⟩ :=
      hlive.exists_turned hpage hready
    obtain ⟨n, hn, more, next, later', rounds, hrest, hempty⟩ :=
      hturned.live.exists_rounds hpage hready hturned.primed hle
    have hall := hturned.trans hrest
    exact ⟨n + 1, Nat.succ_le_succ hn, popped ++ more, next, .cons hfill pops rounds, hempty,
      hall.primed.ready_eq, hall.map_identity_popped hlive.looped.sound.balanced hempty,
      hall.filled⟩

/-- Three superpages come back through a ready queue that holds one at a time. -/
theorem drained_of_run_three :
    ∃ history last n popped next,
      (trial Loopback.idle).run [.start, .push (.fresh 0 16384), .push (.fresh 16384 8192),
        .push (.fresh 24576 8192)] = .ok (history, last) ∧
      n ≤ 8 ∧ Rounds n last popped next ∧ next.flow.tracker.transfer = [] ∧
      popped.map Superpage.identity = [⟨0, 16384, 0⟩, ⟨16384, 8192, 0⟩, ⟨24576, 8192, 0⟩] := by
  have computed : ((trial Loopback.idle).run [.start, .push (.fresh 0 16384),
      .push (.fresh 16384 8192), .push (.fresh 24576 8192)]).map
        (fun reached => (reached.2.state, reached.2.flow.tracker.awaited,
          reached.2.flow.tracker.transfer.length, reached.2.flow.tracker.identities)) =
      .ok (.started, 4, 3, [⟨0, 16384, 0⟩, ⟨16384, 8192, 0⟩, ⟨24576, 8192, 0⟩]) := by
    decide +kernel
  have hfresh : ∀ superpage, Operation.push superpage ∈ [.start, .push (.fresh 0 16384),
      .push (.fresh 16384 8192), .push (.fresh 24576 8192)] → superpage.received = 0 := by
    intro superpage hm
    simp only [List.mem_cons, reduceCtorEq, Operation.push.injEq, List.not_mem_nil, false_or,
      or_false] at hm
    rcases hm with rfl | rfl | rfl <;> rfl
  obtain ⟨⟨history, last⟩, hr, hl⟩ := exists_of_map_eq_ok computed
  simp only [Prod.mk.injEq] at hl
  obtain ⟨hs, hawaited, hlength, hqueued⟩ := hl
  obtain ⟨-, -, -, n, hn, popped, next, rounds, hempty, -, hpopped, -⟩ :=
    drained_of_run (opened_trial _) hfresh hr hs
  rw [hawaited, hlength] at hn
  exact ⟨history, last, n, popped, next, hr, hn, rounds, hempty, hpopped.trans hqueued⟩

end Session

end Readout
