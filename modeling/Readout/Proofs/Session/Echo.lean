import Readout.Channel.Loopback
import Readout.Proofs.Dma.Whole
import Readout.Proofs.Session.Progress

/-!
A session over the loopback. The loopback keeps the pages that the session has in flight, in the
same order, so whatever is asked for has landed, and lands in full.
-/

namespace Readout

open Dma

namespace Loopback

variable {loopback : Loopback} {page : Page} {rest : List Page}

/-- The oldest page that is pending answers with its size. -/
theorem pollPage_of_pending (h : loopback.pending = page :: rest) :
    PageTransport.pollPage loopback page =
      (.ok (some page.size), { loopback with pending := rest }) := by
  simp [PageTransport.pollPage, poll, h]

end Loopback

/-- Every superpage was accepted with nothing received. -/
def Ledger.Fresh (ledger : Ledger) : Prop :=
  ∀ superpage ∈ ledger.accepted, superpage.received = 0

theorem Ledger.fresh_of_accept {ledger : Ledger} {superpage : Superpage}
    (h : (ledger.accept superpage).Fresh) : superpage.received = 0 ∧ ledger.Fresh :=
  ⟨h superpage (List.mem_append_right _ (List.mem_singleton_self _)),
    fun other ho => h other (List.mem_append_left _ ho)⟩

namespace Session

variable {ρ : Type} {session next : Session ρ Loopback}

/-- The loopback has the pages that are in flight, and every page has landed in full. -/
structure Echoing (session : Session ρ Loopback) : Prop where
  whole : session.flow.tracker.Whole
  pending_eq : session.state = .started → session.transport.pending = session.flow.inFlight
  filled : session.state = .started →
    ∀ superpage ∈ session.flow.tracker.ready, superpage.ready = true ∧ superpage.isFilled = true

end Session

namespace Account

open Session

variable {ρ : Type} {config : ChannelConfig} {account after : Account ρ Loopback}
  {session next : Session ρ Loopback} {ledger : Ledger} {page : Page}

/-- While only superpages with nothing received were accepted, the loopback echoes the session. -/
structure Looped (config : ChannelConfig) (account : Account ρ Loopback) : Prop where
  sound : account.Sound config
  echoing : account.ledger.Fresh → account.session.Echoing

theorem Sound.size_lt {τ : Type} {account : Account ρ τ} (h : account.Sound config) :
    ∀ transfer ∈ account.session.flow.tracker.transfer,
      transfer.superpage.size < byteBound := by
  intro transfer ht
  have hend := (h.admitted.of_transfer h.balanced ht).end_lt
  simp only [Superpage.identity] at hend
  omega

/-- A page that the loopback gives back is credited. -/
theorem Sound.land_full (h : Sound config ⟨session, ledger⟩) (he : session.Echoing)
    (hp : session.flow.inFlight.head? = some page) :
    (session.flow.land page page.size).1 = .ok (.ok ()) ∧
      (session.flow.tracker.pageArrived page.size).2.Whole := by
  have hi := h.coherent.inStep
  have hsize := hi.size_of_mem (List.mem_of_head? hp)
  obtain ⟨hcredited, hwhole⟩ :=
    he.whole.pageArrived hi.inOrder h.size_lt (hi.outstanding_ne_nil hp)
  rw [hi.land_eq hp, hsize]
  refine ⟨?_, hwhole⟩
  rcases ha : session.flow.tracker.pageArrived session.flow.tracker.pageSize with
    ⟨overflow | credited, tracker⟩
  · simp [ha] at hcredited
  · rw [ha] at hcredited
    simpa using hcredited

/-- The oldest page in flight has landed on the loopback. -/
theorem pollPage_of_head (he : session.Echoing) (hs : session.state = .started)
    (hp : session.flow.inFlight.head? = some page) :
    PageTransport.pollPage session.transport page =
      (.ok (some page.size), { session.transport with pending := session.flow.inFlight.tail }) := by
  obtain ⟨rest, hl⟩ := List.head?_eq_some_iff.mp hp
  rw [hl, List.tail_cons]
  apply Loopback.pollPage_of_pending
  rw [he.pending_eq hs, hl]

theorem Looped.step (step : Step account after) (h : account.Looped config) :
    after.Looped config := by
  refine ⟨h.sound.step step, fun hfresh => ?_⟩
  have hi := h.sound.coherent.inStep
  cases step with
  | note =>
    have he := h.echoing hfresh
    exact ⟨he.whole, he.pending_eq, he.filled⟩
  | begin hs ha =>
    obtain ⟨-, rfl⟩ := Prod.mk.inj ha
    exact ⟨Tracker.whole_of_transfer_eq_nil rfl, fun _ => rfl, fun _ => nofun⟩
  | refuse hs ha => simp [PageTransport.start] at ha
  | accept hs _ _ ht =>
    obtain ⟨hreceived, hfresh⟩ := Ledger.fresh_of_accept hfresh
    have he := h.echoing hfresh
    have hwhole := he.whole.push hreceived ht
    obtain ⟨-, -, -, -, -, rfl⟩ := Tracker.push_eq_ok_iff.mp ht
    exact ⟨hwhole, he.pending_eq, he.filled⟩
  | pageRefused _ _ hp => simp [PageTransport.pushPage] at hp
  | pageTaken hs hn hp hf =>
    have he := h.echoing hfresh
    obtain ⟨-, rfl⟩ := Prod.mk.inj hp
    obtain ⟨-, rfl⟩ := Prod.mk.inj ((Flow.handOut_of_nextPage hn).symm.trans hf)
    refine ⟨he.whole.pagePushed, fun _ => ?_, he.filled⟩
    exact congrArg (· ++ _) (he.pending_eq hs)
  | pollFailed _ _ hc => simp [PageTransport.pollPage] at hc
  | pageOut hs hp hc =>
    rw [pollPage_of_head (h.echoing hfresh) hs hp] at hc
    simp at hc
  | pageLanded hs hp hc hf =>
    have he := h.echoing hfresh
    obtain ⟨-, hwhole⟩ := h.sound.land_full he hp
    rw [pollPage_of_head he hs hp] at hc
    obtain ⟨hlength, rfl⟩ := Prod.mk.inj hc
    obtain rfl := Option.some.inj (Except.ok.inj hlength)
    have htracker := Flow.tracker_of_land hf
    refine ⟨?_, fun _ => (Flow.land_eq_ok_iff.mp hf).2.2.2.symm, fun _ => ?_⟩
    · dsimp only
      rw [htracker]
      exact hwhole
    · dsimp only
      rw [htracker, Tracker.ready_pageArrived]
      exact he.filled hs
  | promote hs =>
    have he := h.echoing hfresh
    refine ⟨he.whole.promote, he.pending_eq, fun _ superpage hm => ?_⟩
    rcases List.mem_append.mp hm with hm | hm
    · exact he.filled hs superpage hm
    · exact he.whole.of_mem_promotable hi.inOrder hm
  | finish => exact ⟨Tracker.whole_of_transfer_eq_nil rfl, nofun, nofun⟩
  | pop hp =>
    have he := h.echoing hfresh
    obtain ⟨ready, hready, rfl⟩ := Tracker.pop_eq_ok_iff.mp hp
    refine ⟨he.whole, he.pending_eq, fun hs superpage hm => ?_⟩
    apply he.filled hs
    rw [hready]
    exact List.mem_cons_of_mem _ hm

theorem Looped.path (path : Path account after) (h : account.Looped config) :
    after.Looped config :=
  path.keeps (P := fun account => account.Looped config) Looped.step h

/-- A started session whose superpages were all accepted with nothing received. -/
structure Live (config : ChannelConfig) (account : Account ρ Loopback) : Prop where
  looped : account.Looped config
  fresh : account.ledger.Fresh
  started : account.session.state = .started

theorem Live.echoing (h : account.Live config) : account.session.Echoing :=
  h.looped.echoing h.fresh

/-- A collection over the loopback credits all that is in flight. -/
theorem Live.collected (h : Live config ⟨session, ledger⟩) :
    ∃ reports middle, Credits session reports middle ∧ middle.flow.inFlight = [] ∧
      collectArrivals.on session = (.ok (), middle) ∧ Live config ⟨middle, ledger⟩ := by
  obtain ⟨reports, middle, credits, ends⟩ := collect_credits session rfl
  change CollectEnd middle (collectArrivals.on session) at ends
  obtain ⟨hm, path⟩ := credits.path ledger h.started
  have hlive : Live config ⟨middle, ledger⟩ := ⟨h.looped.path path, h.fresh, hm⟩
  have landed {page : Page} {length : Nat} {transport : Loopback}
      (hp : middle.flow.inFlight.head? = some page)
      (hc : PageTransport.pollPage middle.transport page = (.ok (some length), transport)) :
      (middle.flow.land page length).1 = .ok (.ok ()) := by
    rw [pollPage_of_head hlive.echoing hm hp] at hc
    obtain rfl := Option.some.inj (Except.ok.inj (congrArg Prod.fst hc))
    exact (hlive.looped.sound.land_full hlive.echoing hp).1
  refine ⟨reports, middle, credits, ?_⟩
  generalize ho : collectArrivals.on session = outcome at ends
  cases ends with
  | done hnil => exact ⟨hnil, rfl, hlive⟩
  | failed _ hc => simp [PageTransport.pollPage] at hc
  | out hp hc =>
    rw [pollPage_of_head hlive.echoing hm hp] at hc
    simp at hc
  | fault hp hc hf => simpa [hf] using landed hp hc
  | uncredited hp hc hf => simpa [hf] using landed hp hc

/-- A fill over the loopback credits all that is in flight, and all that it hands out is taken. -/
theorem Live.exists_fill (h : Live config ⟨session, ledger⟩) :
    ∃ reports middle next, Credits session reports middle ∧ middle.flow.inFlight = [] ∧
      Refilled { middle with flow := middle.flow.promote.2 } (.ok (), next) ∧
      session.perform .fill = (.ok (.ok (.promoted middle.flow.promote.1)), next) ∧
      Live config ⟨next, ledger⟩ := by
  obtain ⟨reports, middle, credits, hnil, hc, hmiddle⟩ := h.collected
  obtain ⟨refilled, next, hr, hrefilled⟩ :=
    exists_refilled { middle with flow := middle.flow.promote.2 }
  have hf := on_fill_of_collected h.started hc hr
  cases hrefilled with
  | refused _ _ hp => simp [PageTransport.pushPage] at hp
  | done deliveries hnone =>
    have hp : session.perform .fill =
        (.ok (.ok (.promoted middle.flow.promote.1)), next) := by
      rw [perform, hf]
      rfl
    obtain ⟨hs, -⟩ := deliveries.path ledger hmiddle.started
    exact ⟨reports, middle, next, credits, hnil, .done deliveries hnone, hp,
      h.looped.path (perform_path ledger hp), h.fresh, hs⟩

theorem Live.exists_stop (h : Live config ⟨session, ledger⟩) :
    ∃ next, session.perform .stop = (.ok (.ok .done), next) := by
  have noted : Step ⟨session, ledger⟩ ⟨session.announceStop, ledger⟩ := .note _ _ _
  have hlive : Live config ⟨session.announceStop, ledger⟩ :=
    ⟨h.looped.step noted, h.fresh, h.started⟩
  obtain ⟨-, middle, -, -, hc, -⟩ := hlive.collected
  have hc : collectArrivals.on session.announceStop =
      ((Except.ok () : Except Error Unit).mapError .error, middle) := hc
  obtain ⟨log, hl⟩ := on_stop_of_collected h.started hc rfl
  exact ⟨_, by rw [perform, hl]; rfl⟩

end Account

end Readout
