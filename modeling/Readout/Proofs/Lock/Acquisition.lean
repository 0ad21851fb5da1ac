import Readout.Channel.Lifecycle

/-! What acquiring a lock and opening a channel come to, one equation for each way they can go. -/

namespace Readout

/-- The wait that the mode asks for would end at a point in time. -/
def LockMode.Fits (clock : Clock) : LockMode → Prop
  | .immediate => True
  | .wait timeout => clock.now + timeout.nanoseconds < Deadline.horizon

instance {clock : Clock} {mode : LockMode} : Decidable (mode.Fits clock) :=
  match mode with
  | .immediate => inferInstanceAs (Decidable True)
  | .wait _ => inferInstanceAs (Decidable (_ < _))

namespace ChannelLock

/-- The lock that an acquisition gives under this name. -/
def ofName (name : String) : ChannelLock := ⟨name, Lock.socketName name⟩

/-- The wait of an acquisition that waits, from the clock that was read for its deadline. -/
def claimWait {η : Type} [Host η] (name : String) (deadline : Deadline) (clock : Clock)
    (host : η) : Deadline.Wait η LockError Unit :=
  deadline.poll (attempt name) clock.tick host

section Acquire

variable {η : Type} {_ : Host η} {name : String} {mode : LockMode} {clock later : Clock}
  {host made next : η}

theorem claim_immediate_of_ok (h : Sockets.bind host name = (.ok (), next)) :
    claim name .immediate clock host = (.ok (.ok ()), clock, next) := by
  simp [claim, h]

theorem claim_immediate_of_error {errno : Errno}
    (h : Sockets.bind host name = (.error errno, next)) :
    claim name .immediate clock host = (.ok (.error (.bindImmediateFailure name errno)), clock,
      Sockets.debug next s!"Lock {name} is held: {errno.message}") := by
  simp [claim, h]

/-- No attempt is made for a wait that has no end. -/
theorem claim_wait_of_overflow {timeout : Duration}
    (hle : Deadline.horizon ≤ clock.now + timeout.nanoseconds) :
    claim name (.wait timeout) clock host =
      (.error ⟨clock.now, timeout, hle⟩, clock.tick, host) := by
  simp only [claim, Deadline.after_of_le hle]

section Wait

variable {timeout : Duration} (hlt : clock.now + timeout.nanoseconds < Deadline.horizon)
  {wait : Deadline.Wait η LockError Unit}
  (hw : claimWait name ⟨clock.now, timeout, hlt⟩ clock host = wait)

include hw

theorem claim_wait_of_answer (h : wait.result = .ok (some ())) :
    claim name (.wait timeout) clock host = (.ok (.ok ()), wait.clock, wait.state) := by
  unfold claimWait at hw
  simp only [claim, Deadline.after_of_lt hlt, hw, h]

theorem claim_wait_of_late (h : wait.result = .ok none) :
    claim name (.wait timeout) clock host =
      (.ok (.error (.bindTimeout name timeout)), wait.clock, wait.state) := by
  unfold claimWait at hw
  simp only [claim, Deadline.after_of_lt hlt, hw, h]

end Wait

theorem acquire_of_claimed (hm : Sockets.make host = (.ok (), made))
    (hc : claim (Lock.socketName name) mode clock made = (.ok (.ok ()), later, next)) :
    acquire name mode clock host =
      ⟨.ok (.ok (ofName name)), later, Sockets.info next s!"Acquired lock {name}"⟩ := by
  simp [acquire, hm, hc, ofName]

theorem acquire_of_refused {error : LockError} (hm : Sockets.make host = (.ok (), made))
    (hc : claim (Lock.socketName name) mode clock made = (.ok (.error error), later, next)) :
    acquire name mode clock host = ⟨.ok (.error error), later, next⟩ := by
  simp [acquire, hm, hc]

theorem acquire_of_overflow {overflow : Deadline.Overflow}
    (hm : Sockets.make host = (.ok (), made))
    (hc : claim (Lock.socketName name) mode clock made = (.error overflow, later, next)) :
    acquire name mode clock host = ⟨.error overflow, later, next⟩ := by
  simp [acquire, hm, hc]

end Acquire

end ChannelLock

namespace Session

variable {ρ τ : Type}

section Open

variable {η : Type} {_ : Host η} {config : ChannelConfig} {port : ρ} {transport : τ}
  {clock later : Clock} {host next : η} {lock : ChannelLock} {tracker : Dma.Tracker}

/-- The system with the record that an opening leaves before it asks for its lock. -/
def announced {η : Type} [Sockets η] (config : ChannelConfig) (host : η) : η :=
  Sockets.info host
    s!"Acquiring DMA channel lock for {config.card.name} channel {config.channel.toNat}"

theorem openOn_of_invalid {error : ConfigError} (hv : config.validate = .error error) :
    openOn config port transport clock host = ⟨.ok (.error (.config error)), clock, host⟩ := by
  simp [openOn, hv]

theorem openOn_of_refused {error : LockError} (hv : config.validate = .ok ())
    (ha : ChannelLock.acquire config.lockName config.lockMode clock (announced config host) =
      ⟨.ok (.error error), later, next⟩) :
    openOn config port transport clock host = ⟨.ok (.error (.lock error)), later, next⟩ := by
  unfold announced at ha
  simp only [openOn, hv, ha]

theorem openOn_of_endless {overflow : Deadline.Overflow} (hv : config.validate = .ok ())
    (ha : ChannelLock.acquire config.lockName config.lockMode clock (announced config host) =
      ⟨.error overflow, later, next⟩) :
    openOn config port transport clock host = ⟨.error (.deadline overflow), later, next⟩ := by
  unfold announced at ha
  simp only [openOn, hv, ha]

theorem openOn_of_acquired (hv : config.validate = .ok ())
    (ha : ChannelLock.acquire config.lockName config.lockMode clock (announced config host) =
      ⟨.ok (.ok lock), later, next⟩)
    (ht : Dma.Tracker.allocate config.pageSize config.transferCapacity config.readyCapacity =
      .ok tracker) :
    openOn config port transport clock host =
      ⟨.ok (.ok (.fresh config lock tracker port transport)), later, next⟩ := by
  unfold announced at ha
  simp only [openOn, hv, ha, ht]

theorem openOn_of_overflow {overflow : CapacityOverflow} (hv : config.validate = .ok ())
    (ha : ChannelLock.acquire config.lockName config.lockMode clock (announced config host) =
      ⟨.ok (.ok lock), later, next⟩)
    (ht : Dma.Tracker.allocate config.pageSize config.transferCapacity config.readyCapacity =
      .error overflow) :
    openOn config port transport clock host =
      ⟨.error (.capacity overflow), later, lock.release next⟩ := by
  unfold announced at ha
  simp only [openOn, hv, ha, ht]

end Open

/-- The session that opening the configuration at this time gives where its lock is free. -/
def offered? (config : ChannelConfig) (port : ρ) (transport : τ) (clock : Clock) :
    Option (Session ρ τ) :=
  match config.validate,
    Dma.Tracker.allocate config.pageSize config.transferCapacity config.readyCapacity with
  | .ok _, .ok tracker =>
    if config.lockMode.Fits clock then
      some (.fresh config (.ofName config.lockName) tracker port transport)
    else none
  | _, _ => none

theorem offered?_eq_some {config : ChannelConfig} {port : ρ} {transport : τ} {clock : Clock}
    {session : Session ρ τ} (h : offered? config port transport clock = some session) :
    ∃ tracker, config.validate = .ok () ∧
      Dma.Tracker.allocate config.pageSize config.transferCapacity config.readyCapacity =
        .ok tracker ∧ config.lockMode.Fits clock ∧
      session = .fresh config (.ofName config.lockName) tracker port transport := by
  unfold offered? at h
  split at h
  next tracker hv ht =>
    split at h
    next hfits => exact ⟨tracker, hv, ht, hfits, (Option.some.inj h).symm⟩
    next => simp at h
  next => simp at h

end Session

end Readout
