import Readout.Proofs.Register.Plain
import Readout.Proofs.Sca.Likeness
import Readout.Proofs.Sca.Waiting

/-!
Engines that take turns on one memory. An operation changes only the three registers of its block
that are there to be written, and what it gives hangs on its block alone, whenever the clock is
read, as long as its waits have an end. So engines with blocks that lie apart each do what they
would do alone, in whatever order they come.
-/

namespace Readout.Sca

open Register PlainMemory Attempt

variable {ρ ρ' : Type} [RegisterPort ρ] [PlainMemory ρ] [RegisterPort ρ'] [PlainMemory ρ']

variable {index : Nat} {isDone : UInt32 → Bool}

/-- Looking again at a memory shows nothing new. -/
theorem result_of_polled {deadline : Deadline} {clock : Clock} {port : ρ}
    {wait : Deadline.Wait ρ ScaError Unit}
    (h : deadline.Polled (Bus.probe index isDone) clock port wait) :
    wait.result = glance isDone (cell port index).content ∧ wait.state = port := by
  induction h with
  | answered hprobe | failed hprobe | late hprobe =>
    rw [probe_eq, read_eq] at hprobe
    obtain ⟨hresult, hstate⟩ := Prod.mk.inj hprobe
    exact ⟨hresult.symm, hstate.symm⟩
  | early hprobe _ _ ih =>
    rw [probe_eq, read_eq] at hprobe
    obtain ⟨-, rfl⟩ := Prod.mk.inj hprobe
    exact ih

/-- Only the clock can tell how long a memory was waited for, unless the wait has no end. -/
theorem on_await_cases (timeout : Duration) (late : ScaError) (index : Nat)
    (isDone : UInt32 → Bool) (bus : Bus ρ) :
    (∃ overflow clock, (Bus.await timeout late index isDone).on bus =
      (.error (.fault overflow), { bus with clock := clock })) ∨
    ∃ clock, (Bus.await timeout late index isDone).on bus =
      (outlast late isDone (cell bus.port index).content, { bus with clock := clock }) := by
  rcases Nat.lt_or_ge (bus.clock.now + timeout.nanoseconds) Deadline.horizon with hlt | hle
  · have hpolled := Deadline.polled_poll ⟨bus.clock.now, timeout, hlt⟩ (Bus.probe index isDone)
      bus.clock.tick bus.port
    obtain ⟨hresult, hstate⟩ := result_of_polled hpolled
    refine .inr ⟨(bus.wait ⟨bus.clock.now, timeout, hlt⟩ index isDone).clock, ?_⟩
    rw [on_await hlt rfl hresult late, Bus.wait, hstate]
  · exact .inl ⟨_, _, on_await_of_overflow hle late index isDone⟩

/-! ## What an operation changes -/

/-- A register that the engine does not write answers as before, and its bus is its own. -/
theorem likeness_frame (engine : Engine) (memory : Nat → Cell) :
    engine.Likeness (fun _ => False) fun (bus : Bus ρ) other => other = bus ∧
      ∀ index, (∀ register ∈ writeRegisters, index ≠ engine.offset + register) →
        cell bus.port index = memory index := by
  constructor
  case withLog =>
    rintro _ bus ⟨rfl, hkept⟩ f
    exact ⟨rfl, hkept⟩
  case store =>
    rintro register hr value _ bus ⟨rfl, hkept⟩ - -
    refine ⟨rfl, rfl, fun index hi => ?_⟩
    exact (cell_write_of_ne (hi register hr) value).trans (hkept index hi)
  case fetch =>
    rintro register hr _ bus ⟨rfl, hkept⟩ - -
    refine ⟨rfl, rfl, fun index hi => ?_⟩
    simp only [Engine.fetch, Bus.read, Attempt.on_of, read_eq]
    exact hkept index hi
  case await =>
    rintro timeout late register hr isDone _ bus ⟨rfl, hkept⟩ - -
    refine ⟨rfl, rfl, ?_⟩
    rcases on_await_cases timeout late (engine.offset + register) isDone bus with
      ⟨_, _, hon⟩ | ⟨_, hon⟩ <;> rwa [hon]

/-- The registers of the block answer alike in both memories. -/
def SameBlock (offset : Nat) (port : ρ) (other : ρ') : Prop :=
  ∀ register, InBlock register → cell other (offset + register) = cell port (offset + register)

/-- The wait had no end. -/
def Failure.IsFault : Failure → Prop
  | .error _ => False
  | .fault _ => True

theorem likeness_sameBlock (engine : Engine) :
    engine.Likeness Failure.IsFault fun (bus : Bus ρ) (other : Bus ρ') =>
      SameBlock engine.offset bus.port other.port := by
  constructor
  case withLog => exact fun hsame _ => hsame
  case store =>
    intro register hr value bus other hsame _ _
    have hcell := hsame register (inBlock_of_write hr)
    constructor
    · simp only [Engine.store, Bus.write, Attempt.on_of, answer_eq, hcell]
    · intro register' hr'
      simp only [Engine.store, Bus.write, Attempt.on_of]
      by_cases hi : register' = register
      · subst hi
        rw [cell_write_self, cell_write_self, hcell]
      · have hne : engine.offset + register' ≠ engine.offset + register :=
          fun heq => hi (Nat.add_left_cancel heq)
        rw [cell_write_of_ne hne, cell_write_of_ne hne]
        exact hsame register' hr'
  case fetch =>
    intro register hr bus other hsame _ _
    simp only [Engine.fetch, Bus.read, Attempt.on_of, read_eq]
    rw [hsame register (inBlock_of_read hr)]
    exact ⟨rfl, hsame⟩
  case await =>
    intro timeout late register hr isDone bus other hsame hends hends'
    rcases on_await_cases timeout late (engine.offset + register) isDone bus with
      ⟨_, _, hon⟩ | ⟨_, hon⟩
    · rw [hon] at hends
      exact absurd trivial hends
    rcases on_await_cases timeout late (engine.offset + register) isDone other with
      ⟨_, _, hon'⟩ | ⟨_, hon'⟩
    · rw [hon'] at hends'
      exact absurd trivial hends'
    rw [hon, hon', hsame register (inBlock_of_read hr)]
    exact ⟨rfl, hsame⟩

theorem SameBlock.refl (offset : Nat) (port : ρ) : SameBlock offset port port := fun _ _ => rfl

/-- The turns of others leave the block as it is. -/
theorem SameBlock.of_turn {engine turned : Engine} (ha : Apart turned.offset engine.offset)
    {bus : Bus ρ} {port : ρ'} (h : SameBlock engine.offset bus.port port) (operation : Operation) :
    SameBlock engine.offset ((turned.perform operation).on bus).2.port port := by
  intro register hr
  have hframe := ((likeness_frame turned (cell bus.port)).perform operation).matches
    (show bus = bus ∧ _ from ⟨rfl, fun _ _ => rfl⟩)
  have hkept := hframe.2.2 (engine.offset + register)
    (fun _ hw => (ha.ne (inBlock_of_write hw) hr).symm)
  rw [hkept]
  exact h register hr

/-! ## Turns -/

/-- Operations of engines, one after the other on one bus, each with what comes of it. -/
def takeTurns {ρ : Type} [RegisterPort ρ] :
    List (Engine × Operation) → Bus ρ → List (Engine × Except Failure Answer) × Bus ρ
  | [], bus => ([], bus)
  | (engine, operation) :: rest, bus =>
    let (result, next) := (engine.perform operation).on bus
    let (results, last) := takeTurns rest next
    ((engine, result) :: results, last)

/-- The turns that are the engine's own. -/
def ownTurns (engine : Engine) (turns : List (Engine × Operation)) : List (Engine × Operation) :=
  turns.filter (·.1 = engine)

theorem SameBlock.of_turns {engine : Engine} {turns : List (Engine × Operation)}
    (ha : ∀ turn ∈ turns, Apart turn.1.offset engine.offset) {bus : Bus ρ} {port : ρ'}
    (h : SameBlock engine.offset bus.port port) :
    SameBlock engine.offset (takeTurns turns bus).2.port port := by
  induction turns generalizing bus with
  | nil => exact h
  | cons turn rest ih =>
    obtain ⟨hturn, hrest⟩ := List.forall_mem_cons.1 ha
    exact ih hrest (h.of_turn hturn turn.2)

/-- No turn of the engine among these ended in a wait that has no end. -/
def Ends (engine : Engine) (results : List (Engine × Except Failure Answer)) : Prop :=
  ∀ overflow, (engine, .error (.fault overflow)) ∉ results

theorem Ends.of_cons {engine : Engine} {turn : Engine × Except Failure Answer}
    {results : List (Engine × Except Failure Answer)} (h : Ends engine (turn :: results)) :
    Ends engine results :=
  fun overflow hm => h overflow (List.mem_cons_of_mem _ hm)

theorem Ends.not_spoilt {engine : Engine} {result : Except Failure Answer}
    {results : List (Engine × Except Failure Answer)}
    (h : Ends engine ((engine, result) :: results)) : ¬ Spoilt Failure.IsFault result := by
  rcases result with (error | overflow) | answer
  · exact id
  · exact absurd List.mem_cons_self (h overflow)
  · exact id

theorem takeTurns_apart (engine : Engine) {turns : List (Engine × Operation)}
    (h : ∀ turn ∈ turns, turn.1 ≠ engine → Apart turn.1.offset engine.offset) {bus : Bus ρ}
    {alone : Bus ρ'} (hsame : SameBlock engine.offset bus.port alone.port)
    (he : Ends engine (takeTurns turns bus).1)
    (he' : Ends engine (takeTurns (ownTurns engine turns) alone).1) :
    (takeTurns turns bus).1.filter (·.1 = engine) = (takeTurns (ownTurns engine turns) alone).1 ∧
      SameBlock engine.offset (takeTurns turns bus).2.port
        (takeTurns (ownTurns engine turns) alone).2.port := by
  induction turns generalizing bus alone with
  | nil => exact ⟨rfl, hsame⟩
  | cons turn rest ih =>
    obtain ⟨turned, operation⟩ := turn
    obtain ⟨hturn, hrest⟩ := List.forall_mem_cons.1 h
    by_cases ho : turned = engine
    · subst ho
      have hown : ownTurns turned ((turned, operation) :: rest) =
          (turned, operation) :: ownTurns turned rest := List.filter_cons_of_pos (by simp)
      rw [hown] at he' ⊢
      obtain ⟨hresult, hnext⟩ := (likeness_sameBlock turned).perform operation hsame
        he.not_spoilt he'.not_spoilt
      obtain ⟨hresults, hlast⟩ := ih hrest hnext he.of_cons he'.of_cons
      refine ⟨?_, hlast⟩
      simp only [takeTurns]
      rw [List.filter_cons_of_pos (by simp), hresults, hresult]
    · have hown : ownTurns engine ((turned, operation) :: rest) = ownTurns engine rest :=
        List.filter_cons_of_neg (by simpa using ho)
      rw [hown] at he' ⊢
      obtain ⟨hresults, hlast⟩ := ih hrest (hsame.of_turn (hturn ho) operation) he.of_cons he'
      refine ⟨?_, hlast⟩
      simp only [takeTurns]
      rw [List.filter_cons_of_neg (by simpa using ho)]
      exact hresults

/--
An engine of a layout reads and writes only registers of its link's block. Where links are eight
words or more apart, as on every card, two engines on different links never access the same
register; and on a plain memory the turns of the others leave the block as it is, so that turns in
any order give the engine the results, and its block the contents, that its own turns give alone,
as long as no wait of the engine is without an end, there or here.
-/
theorem Engine.keeps_to_block {layout : Layout} {link : UInt32} {engine : Engine}
    (h : Engine.ofLayout layout link = .ok engine) :
    (∀ (ρ : Type) [RegisterPort ρ] (operations : List Operation) (bus : Bus ρ),
      ∀ access ∈ (engine.deeds operations bus).flatMap Deed.accesses,
        Within (layout.base + link.toNat * layout.stride) access) ∧
    (∀ card, layout = .ofCard card → 8 ≤ layout.stride) ∧
    (8 ≤ layout.stride →
      (∀ other link', Engine.ofLayout layout link' = .ok other → link' ≠ link →
        ∀ (ρ ρ' : Type) [RegisterPort ρ] [RegisterPort ρ'] (operations operations' : List Operation)
          (bus : Bus ρ) (bus' : Bus ρ'),
        ∀ access ∈ (engine.deeds operations bus).flatMap Deed.accesses,
        ∀ access' ∈ (other.deeds operations' bus').flatMap Deed.accesses,
          access.index ≠ access'.index) ∧
      ∀ (ρ : Type) [RegisterPort ρ] [PlainMemory ρ] (turns : List (Engine × Operation))
        (bus : Bus ρ),
        (∀ turn ∈ turns, ∃ link', Engine.ofLayout layout link' = .ok turn.1) →
        ((∀ turn ∈ turns, turn.1 ≠ engine) → ∀ register, InBlock register →
          cell (takeTurns turns bus).2.port (engine.offset + register) =
            cell bus.port (engine.offset + register)) ∧
        ∀ alone : Bus ρ, SameBlock engine.offset bus.port alone.port →
          Ends engine (takeTurns turns bus).1 →
          Ends engine (takeTurns (ownTurns engine turns) alone).1 →
          (takeTurns turns bus).1.filter (·.1 = engine) =
            (takeTurns (ownTurns engine turns) alone).1 ∧
          ∀ register, InBlock register →
            cell (takeTurns turns bus).2.port (engine.offset + register) =
              cell (takeTurns (ownTurns engine turns) alone).2.port (engine.offset + register)) := by
  refine ⟨?_, ?_, fun hs => ⟨?_, ?_⟩⟩
  · intro ρ _ operations bus
    rw [← Engine.offset_of_ofLayout h]
    exact engine.within_of_deeds operations bus
  · rintro card rfl
    cases card <;> decide
  · intro other link' h' hne ρ ρ' _ _ operations operations' bus bus' access hm access' hm'
    exact Within.index_ne (Engine.apart_of_ofLayout hs h h' hne.symm)
      (engine.within_of_deeds operations bus access hm)
      (other.within_of_deeds operations' bus' access' hm')
  · intro ρ _ _ turns bus hturns
    have hapart : ∀ turn ∈ turns, turn.1 ≠ engine → Apart turn.1.offset engine.offset := by
      intro turn hm hne
      obtain ⟨link', h'⟩ := hturns turn hm
      apply Engine.apart_of_ofLayout hs h' h
      rintro rfl
      exact hne (Except.ok.inj (h'.symm.trans h))
    constructor
    · intro hothers register hr
      have hlast := SameBlock.of_turns (fun turn hm => hapart turn hm (hothers turn hm))
        (SameBlock.refl engine.offset bus.port)
      exact (hlast register hr).symm
    · intro alone hsame he he'
      obtain ⟨hresults, hlast⟩ := takeTurns_apart engine hapart hsame he he'
      exact ⟨hresults, fun register hr => (hlast register hr).symm⟩

/-- The engines of the two links of a C-RORC. -/
def firstOfTwo : Engine := ⟨12, Layout.defaultBusyTimeout, Layout.defaultChannelBusyTimeout⟩

def secondOfTwo : Engine := ⟨32, Layout.defaultBusyTimeout, Layout.defaultChannelBusyTimeout⟩

/-- The second link sends a request between a request of the first and its reply. -/
def mixedTurns : List (Engine × Operation) :=
  [(firstOfTwo, .write ⟨Gpio.writeOut, 5⟩), (secondOfTwo, .write ⟨Gpio.writeOut, 7⟩),
    (firstOfTwo, .read), (secondOfTwo, .bringUp)]

/-- Memory for both blocks, of which the last registers are protected. -/
def sharedWindow : Bus MappedWindow :=
  ⟨.filled 256 0 (some ⟨60, 64⟩), .ticking 1 Nat.one_pos, []⟩

theorem Engine.keeps_to_block_mixed :
    Engine.ofLayout (.ofCard .crorc) 0 = .ok firstOfTwo ∧
    8 ≤ (Layout.ofCard .crorc).stride ∧
    (∀ turn ∈ mixedTurns, ∃ link, Engine.ofLayout (.ofCard .crorc) link = .ok turn.1) ∧
    ownTurns firstOfTwo mixedTurns =
      [(firstOfTwo, .write ⟨Gpio.writeOut, 5⟩), (firstOfTwo, .read)] ∧
    Ends firstOfTwo (takeTurns mixedTurns sharedWindow).1 ∧
    Ends firstOfTwo (takeTurns (ownTurns firstOfTwo mixedTurns) sharedWindow).1 ∧
    (takeTurns mixedTurns sharedWindow).1.filter (·.1 = firstOfTwo) =
      (takeTurns (ownTurns firstOfTwo mixedTurns) sharedWindow).1 ∧
    cell (takeTurns mixedTurns sharedWindow).2.port (12 + writeData) =
      cell (takeTurns (ownTurns firstOfTwo mixedTurns) sharedWindow).2.port (12 + writeData) := by
  have hfirst : Engine.ofLayout (.ofCard .crorc) 0 = .ok firstOfTwo := by decide
  have hsecond : Engine.ofLayout (.ofCard .crorc) 1 = .ok secondOfTwo := by decide
  have hlinks :
      ∀ turn ∈ mixedTurns, ∃ link, Engine.ofLayout (.ofCard .crorc) link = .ok turn.1 := by
    intro turn hm
    have hengine : turn.1 = firstOfTwo ∨ turn.1 = secondOfTwo := by
      revert turn
      decide
    rcases hengine with he | he
    · exact ⟨0, he ▸ hfirst⟩
    · exact ⟨1, he ▸ hsecond⟩
  obtain ⟨-, hstride, hapart⟩ := Engine.keeps_to_block hfirst
  have hs := hstride .crorc rfl
  obtain ⟨-, hturns⟩ := hapart hs
  have ends {results : List (Engine × Except Failure Answer)}
      (hok : (results.all fun turn => turn.2.toBool) = true) : Ends firstOfTwo results :=
    fun overflow hm => Bool.false_ne_true (List.all_eq_true.1 hok _ hm)
  have hmixed : Ends firstOfTwo (takeTurns mixedTurns sharedWindow).1 :=
    ends (by decide +kernel)
  have hown : Ends firstOfTwo (takeTurns (ownTurns firstOfTwo mixedTurns) sharedWindow).1 :=
    ends (by decide +kernel)
  obtain ⟨-, halone⟩ := hturns MappedWindow mixedTurns sharedWindow hlinks
  obtain ⟨hresults, hblock⟩ := halone sharedWindow (SameBlock.refl _ _) hmixed hown
  exact ⟨hfirst, hs, hlinks, by decide, hmixed, hown, hresults,
    hblock writeData (inBlock_of_write (by decide))⟩

end Readout.Sca
