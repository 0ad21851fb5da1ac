import Readout.Proofs.Lock.Acquisition
import Readout.Proofs.Lock.Scene

/-!
Who holds what on a system that several parties share. A party that waits for a name sees what the
others do meanwhile, and then either takes it or leaves everything as it is by then.
-/

namespace Readout

/-- Who holds what. -/
structure Holdings (ρ τ : Type) where
  bound : Multiset String
  locks : List ChannelLock
  sessions : List (Session ρ τ)

namespace Holdings

variable {ρ τ : Type}

/-- A name is bound. -/
def bind (holdings : Holdings ρ τ) (name : String) : Holdings ρ τ :=
  { holdings with bound := name ::ₘ holdings.bound }

def free (holdings : Holdings ρ τ) (name : String) : Holdings ρ τ :=
  { holdings with bound := holdings.bound.erase name }

@[simp] theorem free_bind (holdings : Holdings ρ τ) (name : String) :
    (holdings.bind name).free name = holdings := by
  simp [bind, free]

/-- A lock that was acquired. -/
def hold (holdings : Holdings ρ τ) (lock : ChannelLock) : Holdings ρ τ :=
  { holdings.bind lock.socketName with locks := holdings.locks ++ [lock] }

/-- A session that was opened. -/
def enroll (holdings : Holdings ρ τ) (session : Session ρ τ) : Holdings ρ τ :=
  { holdings.bind session.lock.socketName with sessions := holdings.sessions ++ [session] }

end Holdings

namespace Scene

variable {κ ρ τ : Type} [Kernel κ]

def holdings (scene : Scene κ ρ τ) : Holdings ρ τ :=
  ⟨Kernel.bound scene.kernel, scene.locks, scene.sessions⟩

/-- The kernel may have kept a record of something, but nobody holds anything else. -/
structure Alike (scene other : Scene κ ρ τ) : Prop where
  holdings_eq : other.holdings = scene.holdings
  coming_eq : other.coming = scene.coming

/-- The scene with one more name bound. -/
structure Binds (name : String) (scene other : Scene κ ρ τ) : Prop where
  notMem : name ∉ Kernel.bound scene.kernel
  holdings_eq : other.holdings = scene.holdings.bind name
  coming_eq : other.coming = scene.coming

variable {scene middle other : Scene κ ρ τ} {name : String}

theorem Alike.refl (scene : Scene κ ρ τ) : Alike scene scene := ⟨rfl, rfl⟩

theorem Alike.trans (h : Alike scene middle) (h' : Alike middle other) : Alike scene other :=
  ⟨h'.holdings_eq.trans h.holdings_eq, h'.coming_eq.trans h.coming_eq⟩

theorem Binds.alike (h : Binds name scene middle) (h' : Alike middle other) :
    Binds name scene other :=
  ⟨h.notMem, h'.holdings_eq.trans h.holdings_eq, h'.coming_eq.trans h.coming_eq⟩

theorem Alike.bound_eq (h : Alike scene other) :
    Kernel.bound other.kernel = Kernel.bound scene.kernel :=
  congrArg Holdings.bound h.holdings_eq

theorem Alike.binds (h : Alike scene middle) (h' : Binds name middle other) :
    Binds name scene other :=
  ⟨h.bound_eq ▸ h'.notMem, h'.holdings_eq.trans (by rw [h.holdings_eq]),
    h'.coming_eq.trans h.coming_eq⟩

theorem alike_record (scene : Scene κ ρ τ) (record : Record) :
    Alike scene (Sockets.record scene record) :=
  ⟨by simp [holdings, Sockets.record, Kernel.bound_record], rfl⟩

theorem alike_recordAll (scene : Scene κ ρ τ) (log : Log) :
    Alike scene (Sockets.recordAll scene log) := by
  induction log generalizing scene with
  | nil => exact .refl scene
  | cons record log ih => exact (alike_record scene record).trans (ih _)

theorem alike_make (scene : Scene κ ρ τ) :
    ∃ next, Sockets.make scene = (.ok (), next) ∧ Alike scene next := by
  refine ⟨_, Prod.ext (Kernel.make_fst scene.kernel) rfl, ?_, rfl⟩
  simp [holdings, Sockets.make, onKernel, Kernel.bound_make]

theorem bind_of_notMem (h : name ∉ Kernel.bound scene.kernel) :
    ∃ next, Sockets.bind scene name = (.ok (), next) ∧ Binds name scene next := by
  refine ⟨_, Prod.ext ?_ rfl, h, ?_, rfl⟩
  · exact (Kernel.bind_fst scene.kernel name).trans (if_neg h)
  · simp [holdings, Holdings.bind, Sockets.bind, onKernel, Kernel.bound_bind, h]

theorem bind_of_mem (h : name ∈ Kernel.bound scene.kernel) :
    ∃ next, Sockets.bind scene name = (.error .addressInUse, next) ∧ Alike scene next := by
  refine ⟨_, Prod.ext ?_ rfl, ?_, rfl⟩
  · exact (Kernel.bind_fst scene.kernel name).trans (if_pos h)
  · simp [holdings, Sockets.bind, onKernel, Kernel.bound_bind, h]

theorem holdings_release (lock : ChannelLock) (scene : Scene κ ρ τ) :
    (lock.release scene).holdings = scene.holdings.free lock.socketName := by
  simp [ChannelLock.release, holdings, Holdings.free, Sockets.close, Sockets.info, Sockets.record,
    Kernel.bound_close, Kernel.bound_record]

@[simp] theorem coming_release (lock : ChannelLock) (scene : Scene κ ρ τ) :
    (lock.release scene).coming = scene.coming := rfl

/-! ## Waiting for a name -/

variable {delay : Scene κ ρ τ → Scene κ ρ τ}

/-- Delays go by; between them nobody holds anything else. -/
inductive Passes (delay : Scene κ ρ τ → Scene κ ρ τ) : Scene κ ρ τ → Scene κ ρ τ → Prop where
  | still {scene other : Scene κ ρ τ} : Alike scene other → Passes delay scene other
  | wait {scene middle other : Scene κ ρ τ} :
      Alike scene middle → Passes delay (delay middle) other → Passes delay scene other

theorem Passes.alike (h : Passes delay scene middle) (h' : Alike middle other) :
    Passes delay scene other := by
  induction h with
  | still hs => exact .still (hs.trans h')
  | wait hs _ ih => exact .wait hs (ih h')

theorem Alike.passes (h : Alike scene middle) (h' : Passes delay middle other) :
    Passes delay scene other := by
  cases h' with
  | still hs => exact .still (h.trans hs)
  | wait hs hrest => exact .wait (h.trans hs) hrest

/-- Where nothing happens during a delay, nothing changes while it passes. -/
theorem Passes.quiet (h : Passes id scene other) : Alike scene other := by
  induction h with
  | still hs => exact hs
  | wait hs _ ih => exact hs.trans ih

/-- One attempt takes the name, or finds it bound and waits. -/
theorem attempt_cases (delay : Scene κ ρ τ → Scene κ ρ τ) (name : String) (scene : Scene κ ρ τ) :
    (∃ next, @ChannelLock.attempt _ (host delay) name scene = (.ok (some ()), next) ∧
      Binds name scene next) ∨
    ∃ next, @ChannelLock.attempt _ (host delay) name scene = (.ok none, delay next) ∧
      Alike scene next ∧ name ∈ Kernel.bound scene.kernel := by
  by_cases hm : name ∈ Kernel.bound scene.kernel
  · obtain ⟨next, hbind, halike⟩ := bind_of_mem hm
    refine .inr ⟨next, ?_, halike, hm⟩
    simp only [ChannelLock.attempt, hbind, if_true]
    rfl
  · obtain ⟨next, hbind, hbinds⟩ := bind_of_notMem hm
    refine .inl ⟨next, ?_, hbinds⟩
    simp only [ChannelLock.attempt, hbind]

/-- A wait ends with the name bound, or too late with nothing bound. -/
theorem binds_of_polled {deadline : Deadline} {clock : Clock}
    {wait : Deadline.Wait (Scene κ ρ τ) LockError Unit}
    (h : deadline.Polled (@ChannelLock.attempt _ (host delay) name) clock scene wait) :
    (∃ middle, Passes delay scene middle ∧ Binds name middle wait.state ∧
      wait.result = .ok (some ())) ∨ Passes delay scene wait.state ∧ wait.result = .ok none := by
  induction h with
  | @answered clock scene next answer hattempt =>
    rcases attempt_cases delay name scene with ⟨taken, ht, hbinds⟩ | ⟨_, ht, -⟩
    · obtain ⟨-, rfl⟩ := Prod.mk.inj (ht.symm.trans hattempt)
      exact .inl ⟨scene, .still (.refl scene), hbinds, rfl⟩
    · simp [ht] at hattempt
  | @failed clock scene next error hattempt =>
    rcases attempt_cases delay name scene with ⟨_, ht, -⟩ | ⟨_, ht, -⟩
    · simp [ht] at hattempt
    · simp [ht] at hattempt
  | @late clock scene next hattempt _ =>
    rcases attempt_cases delay name scene with ⟨_, ht, -⟩ | ⟨found, ht, halike, -⟩
    · simp [ht] at hattempt
    · obtain ⟨-, rfl⟩ := Prod.mk.inj (ht.symm.trans hattempt)
      exact .inr ⟨.wait halike (.still (.refl _)), rfl⟩
  | @early clock scene next wait hattempt _ _ ih =>
    rcases attempt_cases delay name scene with ⟨_, ht, -⟩ | ⟨found, ht, halike, -⟩
    · simp [ht] at hattempt
    · obtain ⟨-, rfl⟩ := Prod.mk.inj (ht.symm.trans hattempt)
      exact ih.imp (fun ⟨middle, hpasses, hrest⟩ => ⟨middle, .wait halike hpasses, hrest⟩)
        fun ⟨hpasses, hresult⟩ => ⟨.wait halike hpasses, hresult⟩

/-! ## Acquiring and opening -/

/-- A claim takes the name in the end, or leaves everything as it is by then. -/
theorem claim_cases (delay : Scene κ ρ τ → Scene κ ρ τ) (name : String) (mode : LockMode)
    (clock : Clock) (scene : Scene κ ρ τ) :
    (∃ middle later next, mode.Fits clock ∧ Passes delay scene middle ∧ Binds name middle next ∧
      @ChannelLock.claim _ (host delay) name mode clock scene = (.ok (.ok ()), later, next)) ∨
    ∃ refusal later next, refusal ≠ .ok (.ok ()) ∧ Passes delay scene next ∧
      @ChannelLock.claim _ (host delay) name mode clock scene = (refusal, later, next) := by
  cases mode with
  | immediate =>
    by_cases hm : name ∈ Kernel.bound scene.kernel
    · obtain ⟨next, hbind, halike⟩ := bind_of_mem hm
      exact .inr ⟨_, _, _, by simp, .still (halike.trans (alike_record _ _)),
        ChannelLock.claim_immediate_of_error hbind⟩
    · obtain ⟨next, hbind, hbinds⟩ := bind_of_notMem hm
      exact .inl ⟨scene, _, next, trivial, .still (.refl scene), hbinds,
        ChannelLock.claim_immediate_of_ok hbind⟩
  | wait timeout =>
    rcases Nat.lt_or_ge (clock.now + timeout.nanoseconds) Deadline.horizon with hlt | hle
    · have hpolled := Deadline.polled_poll ⟨clock.now, timeout, hlt⟩
        (@ChannelLock.attempt _ (host delay) name) clock.tick scene
      rcases binds_of_polled hpolled with ⟨middle, hpasses, hbinds, hresult⟩ | ⟨hpasses, hresult⟩
      · exact .inl ⟨middle, _, _, hlt, hpasses, hbinds,
          ChannelLock.claim_wait_of_answer hlt rfl hresult⟩
      · exact .inr ⟨_, _, _, by simp, hpasses, ChannelLock.claim_wait_of_late hlt rfl hresult⟩
    · exact .inr ⟨_, _, scene, by simp, .still (.refl scene),
        ChannelLock.claim_wait_of_overflow hle⟩

/-- An acquisition takes its name in the end, or leaves everything as it is by then. -/
theorem acquire_cases (delay : Scene κ ρ τ → Scene κ ρ τ) (name : String) (mode : LockMode)
    (clock : Clock) (scene : Scene κ ρ τ) :
    (∃ middle later next, mode.Fits clock ∧ Passes delay scene middle ∧
      Binds (Lock.socketName name) middle next ∧
      @ChannelLock.acquire _ (host delay) name mode clock scene =
        ⟨.ok (.ok (.ofName name)), later, next⟩) ∨
    ∃ refusal later next, (∀ lock, refusal ≠ .ok (.ok lock)) ∧ Passes delay scene next ∧
      @ChannelLock.acquire _ (host delay) name mode clock scene = ⟨refusal, later, next⟩ := by
  obtain ⟨made, hmake, hmade⟩ := alike_make scene
  rcases claim_cases delay (Lock.socketName name) mode clock made with
    ⟨middle, later, next, hfits, hpasses, hbinds, hclaim⟩ |
      ⟨refusal, later, next, hno, hpasses, hclaim⟩
  · exact .inl ⟨middle, later, _, hfits, hmade.passes hpasses, hbinds.alike (alike_record _ _),
      ChannelLock.acquire_of_claimed hmake hclaim⟩
  · rcases refusal with overflow | error | _
    · exact .inr ⟨_, later, next, by simp, hmade.passes hpasses,
        ChannelLock.acquire_of_overflow hmake hclaim⟩
    · exact .inr ⟨_, later, next, by simp, hmade.passes hpasses,
        ChannelLock.acquire_of_refused hmake hclaim⟩
    · exact absurd rfl hno

/-- A name that is free is taken at the first attempt. -/
theorem claim_of_notMem (delay : Scene κ ρ τ → Scene κ ρ τ) {mode : LockMode} {clock : Clock}
    (hf : mode.Fits clock) (h : name ∉ Kernel.bound scene.kernel) :
    ∃ later next, Binds name scene next ∧
      @ChannelLock.claim _ (host delay) name mode clock scene = (.ok (.ok ()), later, next) := by
  cases mode with
  | immediate =>
    obtain ⟨next, hbind, hbinds⟩ := bind_of_notMem h
    exact ⟨_, next, hbinds, ChannelLock.claim_immediate_of_ok hbind⟩
  | wait timeout =>
    rcases attempt_cases delay name scene with ⟨next, hattempt, hbinds⟩ | ⟨_, -, -, hno⟩
    · have hpoll : @ChannelLock.claimWait _ (host delay) name ⟨clock.now, timeout, hf⟩ clock scene =
          ⟨.ok (some ()), clock.tick, next⟩ :=
        Deadline.poll_of_answer hattempt
      exact ⟨_, next, hbinds, ChannelLock.claim_wait_of_answer hf hpoll rfl⟩
    · exact absurd hno h

theorem acquire_of_notMem (delay : Scene κ ρ τ → Scene κ ρ τ) {mode : LockMode} {clock : Clock}
    (hf : mode.Fits clock) (h : Lock.socketName name ∉ Kernel.bound scene.kernel) :
    ∃ later next, Binds (Lock.socketName name) scene next ∧
      @ChannelLock.acquire _ (host delay) name mode clock scene =
        ⟨.ok (.ok (.ofName name)), later, next⟩ := by
  obtain ⟨made, hmake, hmade⟩ := alike_make scene
  obtain ⟨later, next, hbinds, hclaim⟩ := claim_of_notMem delay hf (hmade.bound_eq ▸ h)
  exact ⟨later, _, (hmade.binds hbinds).alike (alike_record _ _),
    ChannelLock.acquire_of_claimed hmake hclaim⟩

/-- A name that is bound is not waited for by a party that does not wait. -/
theorem acquire_immediate_of_mem (delay : Scene κ ρ τ → Scene κ ρ τ) (clock : Clock)
    (h : Lock.socketName name ∈ Kernel.bound scene.kernel) :
    ∃ error later next, Alike scene next ∧
      @ChannelLock.acquire _ (host delay) name .immediate clock scene =
        ⟨.ok (.error error), later, next⟩ := by
  obtain ⟨made, hmake, hmade⟩ := alike_make scene
  obtain ⟨next, hbind, halike⟩ := bind_of_mem (hmade.bound_eq ▸ h)
  exact ⟨_, _, _, (hmade.trans halike).trans (alike_record _ _),
    ChannelLock.acquire_of_refused hmake (ChannelLock.claim_immediate_of_error hbind)⟩

variable {config : ChannelConfig}

theorem alike_announced (config : ChannelConfig) (scene : Scene κ ρ τ) :
    Alike scene (Session.announced config scene) :=
  alike_record scene _

/-- An opening takes its name in the end, or leaves everything as it is by then. -/
theorem open_cases (delay : Scene κ ρ τ → Scene κ ρ τ) (config : ChannelConfig) (port : ρ)
    (transport : τ) (clock : Clock) (scene : Scene κ ρ τ) :
    (∃ session middle later next, Session.offered? config port transport clock = some session ∧
      Passes delay scene middle ∧ Binds (Lock.socketName config.lockName) middle next ∧
      @Session.openOn _ _ _ (host delay) config port transport clock scene =
        ⟨.ok (.ok session), later, next⟩) ∨
    ∃ refusal later next, (∀ session, refusal ≠ .ok (.ok session)) ∧ Passes delay scene next ∧
      @Session.openOn _ _ _ (host delay) config port transport clock scene =
        ⟨refusal, later, next⟩ := by
  cases hv : config.validate with
  | error error =>
    exact .inr ⟨_, clock, scene, by simp, .still (.refl scene), Session.openOn_of_invalid hv⟩
  | ok _ =>
    have hannounced := alike_announced config scene
    rcases acquire_cases delay config.lockName config.lockMode clock
      (Session.announced config scene) with
      ⟨middle, later, next, hfits, hpasses, hbinds, hacquire⟩ |
        ⟨refusal, later, next, hno, hpasses, hacquire⟩
    · cases ht : Dma.Tracker.allocate config.pageSize config.transferCapacity
        config.readyCapacity with
      | ok tracker =>
        refine .inl ⟨_, middle, later, next, ?_, hannounced.passes hpasses, hbinds,
          Session.openOn_of_acquired hv hacquire ht⟩
        simp only [Session.offered?, hv, ht, if_pos hfits]
      | error overflow =>
        refine .inr ⟨_, later, _, by simp, (hannounced.passes hpasses).alike ?_,
          Session.openOn_of_overflow hv hacquire ht⟩
        refine ⟨?_, hbinds.coming_eq⟩
        rw [holdings_release, hbinds.holdings_eq]
        exact Holdings.free_bind _ _
    · rcases refusal with overflow | error | lock
      · exact .inr ⟨_, later, next, by simp, hannounced.passes hpasses,
          Session.openOn_of_endless hv hacquire⟩
      · exact .inr ⟨_, later, next, by simp, hannounced.passes hpasses,
          Session.openOn_of_refused hv hacquire⟩
      · exact absurd rfl (hno lock)

theorem open_of_notMem (delay : Scene κ ρ τ → Scene κ ρ τ) {port : ρ} {transport : τ}
    {session : Session ρ τ} {clock : Clock}
    (ho : Session.offered? config port transport clock = some session)
    (h : Lock.socketName config.lockName ∉ Kernel.bound scene.kernel) :
    ∃ later next, Binds (Lock.socketName config.lockName) scene next ∧
      @Session.openOn _ _ _ (host delay) config port transport clock scene =
        ⟨.ok (.ok session), later, next⟩ := by
  obtain ⟨tracker, hv, ht, hfits, rfl⟩ := Session.offered?_eq_some ho
  have hannounced := alike_announced config scene
  obtain ⟨later, next, hbinds, hacquire⟩ :=
    acquire_of_notMem delay hfits (hannounced.bound_eq ▸ h)
  exact ⟨later, next, hannounced.binds hbinds, Session.openOn_of_acquired hv hacquire ht⟩

end Scene

end Readout
