import Mathlib.Data.List.Perm.Basic
import Mathlib.Data.Multiset.Filter
import Readout.Proofs.Lock.Moves
import Readout.Simulation.ScriptedTransport

/-!
At most one party holds a name at a time, whatever the parties do and however what they do is
interleaved; and so at most one session is open on a channel, or on a card that is locked as a
whole.
-/

namespace Readout

theorem map_modify_of_eq {α β : Type} {f : α → α} {g : α → β} (h : ∀ a, g (f a) = g a)
    (l : List α) (i : Nat) : (l.modify i f).map g = l.map g := by
  refine List.ext_getElem? fun j => ?_
  rw [List.getElem?_map, List.getElem?_modify, List.getElem?_map]
  cases l[j]? with
  | none => simp
  | some a => by_cases hij : i = j <;> simp [hij, h]

namespace Holdings

variable {ρ τ : Type} {holdings other : Holdings ρ τ} {lock : ChannelLock}

/-- The locks of all parties, those of their sessions included. -/
def alive (holdings : Holdings ρ τ) : List ChannelLock :=
  holdings.locks ++ holdings.sessions.map Session.lock

/-- What is bound are the names of the locks that are alive, each once. -/
structure Exclusive (holdings : Holdings ρ τ) : Prop where
  bound_eq : holdings.bound = holdings.alive.map ChannelLock.socketName
  nodup : holdings.bound.Nodup
  socketName_eq : ∀ lock ∈ holdings.alive, lock.socketName = Lock.socketName lock.name
  lockName_eq : ∀ session ∈ holdings.sessions, session.lock.name = session.config.lockName

theorem Exclusive.lock_eq (h : holdings.Exclusive) {session : Session ρ τ}
    (hs : session ∈ holdings.sessions) :
    session.lock.socketName = Lock.socketName session.config.lockName := by
  rw [← h.lockName_eq session hs]
  exact h.socketName_eq _ (List.mem_append_right _ (List.mem_map_of_mem hs))

/-- One more lock is alive, and a name that was free is bound. -/
theorem Exclusive.of_bind (h : holdings.Exclusive) (hfree : lock.socketName ∉ holdings.bound)
    (hb : other.bound = lock.socketName ::ₘ holdings.bound)
    (hp : other.alive.Perm (lock :: holdings.alive))
    (hn : lock.socketName = Lock.socketName lock.name)
    (hs : ∀ session ∈ other.sessions, session.lock.name = session.config.lockName) :
    other.Exclusive where
  bound_eq := by
    rw [hb, h.bound_eq]
    exact (Multiset.coe_eq_coe.2 (hp.map ChannelLock.socketName)).symm
  nodup := by
    rw [hb]
    exact Multiset.nodup_cons.2 ⟨hfree, h.nodup⟩
  socketName_eq found hmem := by
    rcases List.mem_cons.1 (hp.mem_iff.1 hmem) with rfl | hold
    · exact hn
    · exact h.socketName_eq found hold
  lockName_eq := hs

/-- One lock is no longer alive, and its name is free. -/
theorem Exclusive.of_free (h : holdings.Exclusive)
    (hb : other.bound = holdings.bound.erase lock.socketName)
    (hp : holdings.alive.Perm (lock :: other.alive)) (hs : other.sessions ⊆ holdings.sessions) :
    other.Exclusive where
  bound_eq := by
    rw [hb, h.bound_eq, Multiset.coe_eq_coe.2 (hp.map ChannelLock.socketName)]
    exact Multiset.erase_cons_head lock.socketName (other.alive.map ChannelLock.socketName)
  nodup := by
    rw [hb]
    exact h.nodup.erase _
  socketName_eq found hmem := h.socketName_eq found (hp.mem_iff.2 (List.mem_cons_of_mem _ hmem))
  lockName_eq session hmem := h.lockName_eq session (hs hmem)

theorem Exclusive.hold (h : holdings.Exclusive) {name : String}
    (hfree : Lock.socketName name ∉ holdings.bound) : (holdings.hold (.ofName name)).Exclusive := by
  have hp : (holdings.hold (.ofName name)).alive.Perm (.ofName name :: holdings.alive) := by
    simp only [alive, Holdings.hold, List.append_assoc, List.singleton_append]
    exact List.perm_middle
  exact h.of_bind hfree rfl hp rfl h.lockName_eq

theorem Exclusive.enroll (h : holdings.Exclusive) {session : Session ρ τ}
    (hlock : session.lock = .ofName session.config.lockName)
    (hfree : Lock.socketName session.config.lockName ∉ holdings.bound) :
    (holdings.enroll session).Exclusive := by
  have hname : session.lock.socketName = Lock.socketName session.lock.name := by rw [hlock]; rfl
  have hp : (holdings.enroll session).alive.Perm (session.lock :: holdings.alive) := by
    simp only [alive, Holdings.enroll, List.map_append, List.map_singleton, ← List.append_assoc]
    exact List.perm_append_singleton _ _
  refine h.of_bind (by rw [hlock]; exact hfree) rfl hp hname fun found hmem => ?_
  rcases List.mem_append.1 hmem with hold | hnew
  · exact h.lockName_eq found hold
  · rw [List.mem_singleton.1 hnew, hlock]
    rfl

theorem Exclusive.drop (h : holdings.Exclusive) {index : Nat}
    (hl : holdings.locks[index]? = some lock) :
    ({ holdings with locks := holdings.locks.eraseIdx index }.free lock.socketName).Exclusive := by
  obtain ⟨hlt, rfl⟩ := List.getElem?_eq_some_iff.1 hl
  refine h.of_free rfl ?_ (List.Subset.refl _)
  exact ((List.getElem_cons_eraseIdx_perm hlt).symm.append_right _)

theorem Exclusive.leave (h : holdings.Exclusive) {index : Nat} {session : Session ρ τ}
    (hs : holdings.sessions[index]? = some session) :
    ({ holdings with sessions := holdings.sessions.eraseIdx index }.free
      session.lock.socketName).Exclusive := by
  obtain ⟨hlt, rfl⟩ := List.getElem?_eq_some_iff.1 hs
  refine h.of_free rfl ?_ (List.eraseIdx_subset)
  have hp := (List.getElem_cons_eraseIdx_perm hlt).symm.map Session.lock
  exact (hp.append_left holdings.locks).trans List.perm_middle

variable [PageTransport τ]

theorem Exclusive.operate (h : holdings.Exclusive) (index : Nat) (operation : Operation) :
    { holdings with sessions := holdings.sessions.modify index fun session =>
        (session.perform operation).2 }.Exclusive := by
  have hkept := map_modify_of_eq (g := fun session : Session ρ τ => (session.config, session.lock))
    (fun session =>
      Prod.ext (session.keeps_perform operation).1 (session.keeps_perform operation).2)
    holdings.sessions index
  have hlocks := map_modify_of_eq (g := Session.lock)
    (fun session : Session ρ τ => (session.keeps_perform operation).2) holdings.sessions index
  have halive : holdings.locks ++ (holdings.sessions.modify index fun session =>
      (session.perform operation).2).map Session.lock = holdings.alive := by
    rw [hlocks]
    rfl
  refine ⟨?_, h.nodup, ?_, ?_⟩
  · simp only [alive, halive]
    exact h.bound_eq
  · simp only [alive, halive]
    exact h.socketName_eq
  · intro session hmem
    have hpair := List.mem_map_of_mem (f := fun session => (session.config, session.lock)) hmem
    simp only [hkept] at hpair
    obtain ⟨found, hfound, hsame⟩ := List.mem_map.1 hpair
    obtain ⟨hconfig, hlock⟩ := Prod.mk.inj hsame
    rw [← hconfig, ← hlock]
    exact h.lockName_eq found hfound

/-- What one move keeps. -/
theorem Exclusive.after (h : holdings.Exclusive) (move : Move ρ τ) :
    (holdings.after move).Exclusive := by
  cases move with
  | acquire name mode clock =>
    rw [Holdings.after]
    split
    next hfree => exact h.hold hfree.2
    next => exact h
  | drop index =>
    simp only [Holdings.after]
    cases hl : holdings.locks[index]? with
    | none => exact h
    | some lock => exact h.drop hl
  | enter config port transport clock =>
    simp only [Holdings.after]
    cases ho : Session.offered? config port transport clock with
    | none => exact h
    | some session =>
      obtain ⟨tracker, -, -, -, rfl⟩ := Session.offered?_eq_some ho
      dsimp only
      split
      · exact h
      next hfree => exact h.enroll rfl hfree
  | operate index operation => exact h.operate index operation
  | leave index =>
    simp only [Holdings.after]
    cases hs : holdings.sessions[index]? with
    | none => exact h
    | some session => exact h.leave hs

theorem Exclusive.afterAll (h : holdings.Exclusive) (moves : List (Move ρ τ)) :
    (holdings.afterAll moves).Exclusive := by
  induction moves generalizing holdings with
  | nil => exact h
  | cons move moves ih => exact ih (h.after move)

end Holdings

namespace Session

variable {ρ τ : Type}

/--
The sessions are on different channels if they are on one C-RORC, and on different cards if neither
card is a C-RORC.
-/
def Apart (first second : Session ρ τ) : Prop :=
  (first.config.card = .crorc → second.config.card = .crorc →
    first.config.cardId = second.config.cardId → first.config.channel ≠ second.config.channel) ∧
  (first.config.card ≠ .crorc → second.config.card ≠ .crorc →
    first.config.cardId ≠ second.config.cardId)

theorem apart_of_lockName_ne {first second : Session ρ τ}
    (h : first.config.lockName ≠ second.config.lockName) : first.Apart second := by
  constructor
  · intro hfirst hsecond hid hchannel
    exact h (by simp [ChannelConfig.lockName, hfirst, hsecond, hid, hchannel])
  · intro hfirst hsecond hid
    exact h (by simp [ChannelConfig.lockName, Card.locksEachChannel, hfirst, hsecond, hid])

end Session

/-- Locks that are alive at a time have different socket names, so sessions stand apart. -/
theorem Holdings.Exclusive.pairwise_apart {ρ τ : Type} {holdings : Holdings ρ τ}
    (h : holdings.Exclusive) : holdings.sessions.Pairwise Session.Apart := by
  have hnames : (holdings.sessions.map fun session => session.lock.socketName).Nodup := by
    have hall := h.nodup
    rw [h.bound_eq, Multiset.coe_nodup, Holdings.alive, List.map_append, List.map_map] at hall
    exact hall.of_append_right
  rw [List.Nodup, List.pairwise_map] at hnames
  refine hnames.imp_of_mem fun {first second} hfirst hsecond hne => ?_
  refine Session.apart_of_lockName_ne fun hname => hne ?_
  rw [h.lock_eq hfirst, h.lock_eq hsecond, hname]

namespace Scene

variable {κ ρ τ : Type} [Kernel κ] {scene other : Scene κ ρ τ}

theorem exclusive_empty {kernel : κ} (h : Kernel.bound kernel = 0) :
    (empty kernel : Scene κ ρ τ).holdings.Exclusive :=
  ⟨h, by simp [holdings, empty, h], by simp [holdings, empty, Holdings.alive],
    by simp [holdings, empty]⟩

/-- An acquisition that does not wait sees no delay. -/
theorem acquire_eq_quiet (delay : Scene κ ρ τ → Scene κ ρ τ) (name : String) (clock : Clock) :
    @ChannelLock.acquire _ (host delay) name .immediate clock scene =
      @ChannelLock.acquire _ (host id) name .immediate clock scene := rfl

/-- Nor does an opening that is invalid or does not wait. -/
theorem openOn_eq_quiet (delay : Scene κ ρ τ → Scene κ ρ τ) {config : ChannelConfig}
    (h : config.validate ≠ .ok () ∨ config.lockMode = .immediate) (port : ρ) (transport : τ)
    (clock : Clock) :
    @Session.openOn _ _ _ (host delay) config port transport clock scene =
      @Session.openOn _ _ _ (host id) config port transport clock scene := by
  cases hv : config.validate with
  | error error => simp only [Session.openOn, hv]
  | ok _ =>
    have hmode : config.lockMode = .immediate := h.resolve_left fun hno => hno hv
    simp only [Session.openOn, hv, hmode, acquire_eq_quiet delay]

/-- The name of a lock that is given back is free. -/
theorem notMem_release {lock : ChannelLock} (h : scene.holdings.Exclusive)
    (hl : lock ∈ scene.holdings.alive) :
    Lock.socketName lock.name ∉ Kernel.bound (lock.release scene).kernel := by
  have hfreed : Kernel.bound (lock.release scene).kernel =
      (Kernel.bound scene.kernel).erase lock.socketName :=
    congrArg Holdings.bound (holdings_release lock scene)
  rw [hfreed, ← h.socketName_eq lock hl]
  exact h.nodup.notMem_erase

variable [PageTransport τ]

theorem Passes.exclusive (h : Passes pass scene other) (he : scene.holdings.Exclusive) :
    other.holdings.Exclusive := by
  obtain ⟨n, -, hholdings⟩ := h.exists_take
  rw [hholdings]
  exact he.afterAll _

/-- What a move keeps, whatever others do during its delays. -/
theorem exclusive_move (h : scene.holdings.Exclusive) (move : Move ρ τ) :
    (scene.move pass move).holdings.Exclusive := by
  obtain ⟨middle, hpasses, -, hdone | hnot⟩ := exists_passes_move pass scene move
  · rw [hdone]
    exact (hpasses.exclusive h).after move
  · rw [hnot]
    exact hpasses.exclusive h

theorem exclusive_run (h : scene.holdings.Exclusive)
    (calls : List (Move ρ τ × List (List (Move ρ τ)))) :
    (scene.run calls).holdings.Exclusive := by
  induction calls generalizing scene with
  | nil => exact h
  | cons call calls ih =>
    have hscene : (scene.expecting call.2).holdings.Exclusive := h
    exact ih (exclusive_move hscene call.1)

/-- An acquisition that does not wait succeeds if the name is free, and only then. -/
theorem acquire_immediate_iff {name : String} {clock : Clock} :
    (∃ lock, (ChannelLock.acquire name .immediate clock scene).result = .ok (.ok lock)) ↔
      Lock.socketName name ∉ Kernel.bound scene.kernel := by
  constructor
  · rintro ⟨lock, hok⟩ hm
    obtain ⟨error, later, next, -, hacquire⟩ := acquire_immediate_of_mem pass clock hm
    have hno : (ChannelLock.acquire name .immediate clock scene).result = .ok (.error error) :=
      congrArg Acquisition.result hacquire
    simp [hno] at hok
  · intro hfree
    have hfits : LockMode.immediate.Fits clock := trivial
    obtain ⟨later, next, -, hacquire⟩ := acquire_of_notMem pass hfits hfree
    exact ⟨_, congrArg Acquisition.result hacquire⟩

/-- While a party waits, the others do what they do during the first of its delays. -/
theorem Passes.exists_act {coming : List (List (Move ρ τ))}
    (h : Passes pass (scene.expecting coming) other) :
    ∃ n, other.holdings = (scene.act (coming.take n).flatten).holdings := by
  obtain ⟨n, -, hholdings⟩ := h.exists_take
  exact ⟨n, hholdings.trans (act_eq _ scene).1.symm⟩

/-- What an acquisition that gives no lock leaves is what the others did during its delays. -/
theorem exists_act_of_refused {name : String} {mode : LockMode} {clock : Clock}
    {coming : List (List (Move ρ τ))}
    (h : ∀ lock, (ChannelLock.acquire name mode clock (scene.expecting coming)).result ≠
      .ok (.ok lock)) :
    ∃ n, (mode = .immediate → n = 0) ∧
      (ChannelLock.acquire name mode clock (scene.expecting coming)).host.holdings =
        (scene.act (coming.take n).flatten).holdings := by
  have refused (delay : Scene κ ρ τ → Scene κ ρ τ)
      (hd : ∀ lock, (@ChannelLock.acquire _ (host delay) name mode clock
        (scene.expecting coming)).result ≠ .ok (.ok lock)) :
      Passes delay (scene.expecting coming)
        (@ChannelLock.acquire _ (host delay) name mode clock (scene.expecting coming)).host := by
    rcases acquire_cases delay name mode clock (scene.expecting coming) with
      ⟨_, _, _, -, -, -, hacquire⟩ | ⟨_, _, _, -, hpasses, hacquire⟩
    · exact absurd (congrArg Acquisition.result hacquire) (hd _)
    · rwa [hacquire]
  by_cases hmode : mode = .immediate
  · subst hmode
    exact ⟨0, fun _ => rfl, (refused id h).quiet.holdings_eq⟩
  · obtain ⟨n, hholdings⟩ := (refused pass h).exists_act
    exact ⟨n, fun hno => absurd hno hmode, hholdings⟩

/-- So is what an opening leaves that gives no session. -/
theorem exists_act_of_unopened {config : ChannelConfig} {port : ρ} {transport : τ} {clock : Clock}
    {coming : List (List (Move ρ τ))}
    (h : ∀ session, (Session.openOn config port transport clock (scene.expecting coming)).result ≠
      .ok (.ok session)) :
    ∃ n, (config.validate ≠ .ok () ∨ config.lockMode = .immediate → n = 0) ∧
      (Session.openOn config port transport clock (scene.expecting coming)).host.holdings =
        (scene.act (coming.take n).flatten).holdings := by
  have unopened (delay : Scene κ ρ τ → Scene κ ρ τ)
      (hd : ∀ session, (@Session.openOn _ _ _ (host delay) config port transport clock
        (scene.expecting coming)).result ≠ .ok (.ok session)) :
      Passes delay (scene.expecting coming) (@Session.openOn _ _ _ (host delay) config port
        transport clock (scene.expecting coming)).host := by
    rcases open_cases delay config port transport clock (scene.expecting coming) with
      ⟨session, _, _, _, -, -, -, hopen⟩ | ⟨_, _, _, -, hpasses, hopen⟩
    · exact absurd (congrArg Opening.result hopen) (hd session)
    · rwa [hopen]
  by_cases hquiet : config.validate ≠ .ok () ∨ config.lockMode = .immediate
  · have heq : Session.openOn config port transport clock (scene.expecting coming) =
        @Session.openOn _ _ _ (host id) config port transport clock (scene.expecting coming) :=
      openOn_eq_quiet pass hquiet port transport clock
    have hleft := (unopened id fun session => heq ▸ h session).quiet
    exact ⟨0, fun _ => rfl,
      (congrArg (fun opening => opening.host.holdings) heq).trans hleft.holdings_eq⟩
  · obtain ⟨n, hholdings⟩ := (unopened pass h).exists_act
    exact ⟨n, fun hno => absurd hno hquiet, hholdings⟩

theorem notMem_close {session : Session ρ τ} (h : scene.holdings.Exclusive)
    (hs : session ∈ scene.sessions) :
    Lock.socketName session.config.lockName ∉ Kernel.bound (session.close scene).2.2.kernel := by
  have hfreed : Kernel.bound (session.close scene).2.2.kernel =
      (Kernel.bound scene.kernel).erase session.lock.socketName :=
    congrArg Holdings.bound (close_eq session scene).1
  rw [hfreed, ← h.lock_eq hs]
  exact h.nodup.notMem_erase

/--
Whatever moves any number of parties make, and whatever the others do during the delays of one that
waits: the names that are bound are those of the locks that are alive, each once, and open sessions
stand apart. An acquisition that does not wait succeeds exactly if its name is free. One that gives
no lock, also where its wait has no end, and an opening that gives no session leave what the others
did meanwhile. A lock that is dropped and a session that is closed give their name back, also when
the transport cannot be stopped.
-/
theorem exclusive_of_run {kernel : κ} (h : Kernel.bound kernel = 0)
    (calls : List (Move ρ τ × List (List (Move ρ τ)))) {scene : Scene κ ρ τ}
    (hr : (empty kernel).run calls = scene) :
    (Kernel.bound scene.kernel =
        scene.holdings.alive.map (fun lock => Lock.socketName lock.name) ∧
      (scene.holdings.alive.map fun lock => Lock.socketName lock.name).Nodup) ∧
    scene.sessions.Pairwise Session.Apart ∧
    (∀ name clock coming,
      (∃ lock, (ChannelLock.acquire name .immediate clock (scene.expecting coming)).result =
        .ok (.ok lock)) ↔ Lock.socketName name ∉ Kernel.bound scene.kernel) ∧
    (∀ name mode clock coming,
      (∀ lock, (ChannelLock.acquire name mode clock (scene.expecting coming)).result ≠
        .ok (.ok lock)) →
      ∃ n, (mode = .immediate → n = 0) ∧
        (ChannelLock.acquire name mode clock (scene.expecting coming)).host.holdings =
          (scene.act (coming.take n).flatten).holdings) ∧
    (∀ config (port : ρ) (transport : τ) clock coming,
      (∀ session, (Session.openOn config port transport clock (scene.expecting coming)).result ≠
        .ok (.ok session)) →
      ∃ n, (config.validate ≠ .ok () ∨ config.lockMode = .immediate → n = 0) ∧
        (Session.openOn config port transport clock (scene.expecting coming)).host.holdings =
          (scene.act (coming.take n).flatten).holdings) ∧
    (∀ lock ∈ scene.locks, Lock.socketName lock.name ∉ Kernel.bound (lock.release scene).kernel) ∧
    ∀ session ∈ scene.sessions, Lock.socketName session.config.lockName ∉
      Kernel.bound (session.close scene).2.2.kernel := by
  have hexclusive : scene.holdings.Exclusive := hr ▸ exclusive_run (exclusive_empty h) calls
  have hnames : scene.holdings.alive.map ChannelLock.socketName =
      scene.holdings.alive.map fun lock => Lock.socketName lock.name :=
    List.map_congr_left hexclusive.socketName_eq
  have hbound : Kernel.bound scene.kernel =
      scene.holdings.alive.map fun lock => Lock.socketName lock.name := by
    rw [← hnames]
    exact hexclusive.bound_eq
  refine ⟨⟨hbound, ?_⟩, hexclusive.pairwise_apart, fun _ _ _ => acquire_immediate_iff,
    fun _ _ _ _ => exists_act_of_refused, fun _ _ _ _ _ => exists_act_of_unopened, ?_, ?_⟩
  · have hnodup : (Kernel.bound scene.kernel).Nodup := hexclusive.nodup
    rwa [hbound, Multiset.coe_nodup] at hnodup
  · intro lock hmem
    exact notMem_release hexclusive (List.mem_append_left _ hmem)
  · intro session hmem
    exact notMem_close hexclusive hmem

/--
A lock is dropped while a party waits for its name to open a session, the session is started on a
transport that cannot be stopped, and another party that does not wait is refused.
-/
def handover : List (Move Register.BlankPort Simulation.ScriptedTransport ×
    List (List (Move Register.BlankPort Simulation.ScriptedTransport))) :=
  [(.acquire Session.trialConfig.lockName .immediate (.ticking 1 Nat.one_pos), []),
    (.enter { Session.trialConfig with lockMode := .wait ⟨5⟩ } ⟨⟩ ⟨[], none, false, true, false⟩
      (.ticking 1 Nat.one_pos), [[.drop 0]]),
    (.operate 0 .start, []),
    (.enter Session.trialConfig ⟨⟩ ⟨[], none, false, false, false⟩ (.ticking 1 Nat.one_pos), [])]

theorem exclusive_of_run_handover :
    ∃ scene, (empty Simulation.LockTable.empty).run handover = scene ∧ scene.locks = [] ∧
      (∃ session, scene.sessions = [session] ∧ session.state = .started ∧
        (PageTransport.stop session.transport).1 = .error (.register (.writeProtected 9002)) ∧
        Lock.socketName session.config.lockName ∉
          Kernel.bound (session.close scene).2.2.kernel) ∧
      Kernel.bound scene.kernel = ↑[Lock.socketName Session.trialConfig.lockName] ∧
      ¬ ∃ lock, (ChannelLock.acquire Session.trialConfig.lockName .immediate
        (.ticking 1 Nat.one_pos) (scene.expecting [])).result = .ok (.ok lock) := by
  have computed : (((empty Simulation.LockTable.empty).run handover).locks,
      ((empty Simulation.LockTable.empty).run handover).sessions.map fun session =>
        (session.state, (PageTransport.stop session.transport).1, session.lock.name)) =
      ([], [(.started, .error (.register (.writeProtected 9002)),
        Session.trialConfig.lockName)]) := by
    decide +kernel
  obtain ⟨hlocks, hsessions⟩ := Prod.mk.inj computed
  obtain ⟨session, hs, hfacts⟩ := List.map_eq_singleton_iff.1 hsessions
  simp only [Prod.mk.injEq] at hfacts
  obtain ⟨hstate, hstop, hname⟩ := hfacts
  have hempty : Kernel.bound Simulation.LockTable.empty = 0 := rfl
  obtain ⟨⟨hbound, -⟩, -, himmediate, -, -, -, hclosed⟩ := exclusive_of_run hempty handover rfl
  have halive : ((empty Simulation.LockTable.empty).run handover).holdings.alive =
      [session.lock] := by
    simp only [Holdings.alive, holdings, hlocks, hs]
    rfl
  rw [halive, List.map_singleton, hname] at hbound
  refine ⟨_, rfl, hlocks, ⟨session, hs, hstate, hstop, hclosed session ?_⟩, hbound, ?_⟩
  · rw [hs]
    exact List.mem_singleton_self _
  · rw [himmediate, hbound]
    simp

end Scene

end Readout
