import Readout.Proofs.Lock.Holdings

/-!
What the moves of the parties do to what they hold: it hangs on who holds what, and on nothing else
of the system.
-/

namespace Readout

theorem Session.lock_endRun {ρ τ : Type} [PageTransport τ] (session : Session ρ τ) :
    session.endRun.lock = session.lock := by
  unfold endRun
  split
  · rfl
  · split <;> rfl

namespace Holdings

variable {ρ τ : Type} [PageTransport τ]

/-- What a move comes to where nobody else is about. -/
def after (holdings : Holdings ρ τ) : Move ρ τ → Holdings ρ τ
  | .acquire name mode clock =>
    if mode.Fits clock ∧ Lock.socketName name ∉ holdings.bound then holdings.hold (.ofName name)
    else holdings
  | .drop index =>
    match holdings.locks[index]? with
    | none => holdings
    | some lock => { holdings with locks := holdings.locks.eraseIdx index }.free lock.socketName
  | .enter config port transport clock =>
    match Session.offered? config port transport clock with
    | none => holdings
    | some session =>
      if Lock.socketName config.lockName ∈ holdings.bound then holdings else holdings.enroll session
  | .operate index operation =>
    { holdings with sessions := holdings.sessions.modify index fun session =>
        (session.perform operation).2 }
  | .leave index =>
    match holdings.sessions[index]? with
    | none => holdings
    | some session =>
      { holdings with sessions := holdings.sessions.eraseIdx index }.free session.lock.socketName

/-- The moves one after the other. -/
def afterAll (moves : List (Move ρ τ)) (holdings : Holdings ρ τ) : Holdings ρ τ :=
  moves.foldl after holdings

@[simp] theorem afterAll_append (moves more : List (Move ρ τ)) (holdings : Holdings ρ τ) :
    holdings.afterAll (moves ++ more) = (holdings.afterAll moves).afterAll more :=
  List.foldl_append

end Holdings

namespace Scene

variable {κ ρ τ : Type} [Kernel κ] {scene middle next other : Scene κ ρ τ} {name : String}
  {delay : Scene κ ρ τ → Scene κ ρ τ}

theorem Binds.holdings_hold {lock : ChannelLock} (h : Binds lock.socketName scene next) :
    { next with locks := next.locks ++ [lock] }.holdings = scene.holdings.hold lock := by
  obtain ⟨hbound, hlocks, hsessions⟩ := Holdings.mk.inj h.holdings_eq
  simp only [holdings, Holdings.hold, Holdings.bind, hbound, hlocks, hsessions]

theorem Binds.holdings_enroll {session : Session ρ τ}
    (h : Binds session.lock.socketName scene next) :
    { next with sessions := next.sessions ++ [session] }.holdings =
      scene.holdings.enroll session := by
  obtain ⟨hbound, hlocks, hsessions⟩ := Holdings.mk.inj h.holdings_eq
  simp only [holdings, Holdings.enroll, Holdings.bind, hbound, hlocks, hsessions]

variable [PageTransport τ]

/-- Closing a session frees its name, whether or not its transport can be stopped. -/
theorem close_eq (session : Session ρ τ) (scene : Scene κ ρ τ) :
    (session.close scene).2.2.holdings = scene.holdings.free session.lock.socketName ∧
      (session.close scene).2.2.coming = scene.coming := by
  have hrecorded := alike_recordAll scene session.endRun.farewell
  simp only [Session.close]
  constructor
  · rw [holdings_release, hrecorded.holdings_eq, session.lock_endRun]
  · rw [coming_release, hrecorded.coming_eq]

/-- Moves for which nobody waits. -/
theorem move_drop (delay : Scene κ ρ τ → Scene κ ρ τ) (scene : Scene κ ρ τ) (index : Nat) :
    (scene.move delay (.drop index)).holdings = scene.holdings.after (.drop index) ∧
      (scene.move delay (.drop index)).coming = scene.coming := by
  have hlocks : scene.holdings.locks = scene.locks := rfl
  simp only [move, Holdings.after, hlocks]
  cases scene.locks[index]? with
  | none => exact ⟨rfl, rfl⟩
  | some lock => exact ⟨holdings_release _ _, rfl⟩

theorem move_leave (delay : Scene κ ρ τ → Scene κ ρ τ) (scene : Scene κ ρ τ) (index : Nat) :
    (scene.move delay (.leave index)).holdings = scene.holdings.after (.leave index) ∧
      (scene.move delay (.leave index)).coming = scene.coming := by
  have hsessions : scene.holdings.sessions = scene.sessions := rfl
  simp only [move, Holdings.after, hsessions]
  cases scene.sessions[index]? with
  | none => exact ⟨rfl, rfl⟩
  | some session => exact close_eq session _

/-- A party that waits sees delays go by, and then its move comes to something or to nothing. -/
theorem exists_passes_move (delay : Scene κ ρ τ → Scene κ ρ τ) (scene : Scene κ ρ τ)
    (move : Move ρ τ) :
    ∃ middle, Passes delay scene middle ∧ (scene.move delay move).coming = middle.coming ∧
      ((scene.move delay move).holdings = middle.holdings.after move ∨
        (scene.move delay move).holdings = middle.holdings) := by
  cases move with
  | acquire name mode clock =>
    rcases acquire_cases delay name mode clock scene with
      ⟨middle, later, next, hfits, hpasses, hbinds, hacquire⟩ |
        ⟨refusal, later, next, hno, hpasses, hacquire⟩
    · simp only [Scene.move, hacquire]
      refine ⟨middle, hpasses, hbinds.coming_eq, .inl ?_⟩
      rw [Binds.holdings_hold hbinds]
      exact (if_pos ⟨hfits, hbinds.notMem⟩).symm
    · have hmove : scene.move delay (.acquire name mode clock) = next := by
        simp only [Scene.move, hacquire]
      rw [hmove]
      exact ⟨next, hpasses, rfl, .inr rfl⟩
  | enter config port transport clock =>
    rcases open_cases delay config port transport clock scene with
      ⟨session, middle, later, next, ho, hpasses, hbinds, hopen⟩ |
        ⟨refusal, later, next, hno, hpasses, hopen⟩
    · obtain ⟨tracker, -, -, -, rfl⟩ := Session.offered?_eq_some ho
      simp only [Scene.move, hopen]
      refine ⟨middle, hpasses, hbinds.coming_eq, .inl ?_⟩
      rw [Binds.holdings_enroll hbinds]
      simp only [Holdings.after, ho]
      exact (if_neg hbinds.notMem).symm
    · have hmove : scene.move delay (.enter config port transport clock) = next := by
        simp only [Scene.move, hopen]
      rw [hmove]
      exact ⟨next, hpasses, rfl, .inr rfl⟩
  | drop index => exact ⟨scene, .still (.refl _), (move_drop delay scene index).2,
      .inl (move_drop delay scene index).1⟩
  | operate index operation => exact ⟨scene, .still (.refl _), rfl, .inl rfl⟩
  | leave index => exact ⟨scene, .still (.refl _), (move_leave delay scene index).2,
      .inl (move_leave delay scene index).1⟩

/-- With nobody else about, a move does what it says. -/
theorem move_quiet (scene : Scene κ ρ τ) (move : Move ρ τ) :
    (scene.move id move).holdings = scene.holdings.after move ∧
      (scene.move id move).coming = scene.coming := by
  obtain ⟨middle, hpasses, hcoming, hmove⟩ := exists_passes_move id scene move
  have hquiet := hpasses.quiet
  refine ⟨?_, hcoming.trans hquiet.coming_eq⟩
  rcases hmove with hdone | hnot
  · rw [hdone, hquiet.holdings_eq]
  cases move with
  | acquire name mode clock =>
    by_cases hm : mode.Fits clock ∧ Lock.socketName name ∉ Kernel.bound scene.kernel
    · obtain ⟨later, next, hbinds, hacquire⟩ := acquire_of_notMem id hm.1 hm.2
      simp only [Scene.move, hacquire]
      rw [Binds.holdings_hold hbinds]
      exact (if_pos hm).symm
    · rw [hnot, hquiet.holdings_eq]
      exact (if_neg hm).symm
  | enter config port transport clock =>
    cases ho : Session.offered? config port transport clock with
    | none =>
      rw [hnot, hquiet.holdings_eq]
      simp only [Holdings.after, ho]
    | some session =>
      by_cases hm : Lock.socketName config.lockName ∈ Kernel.bound scene.kernel
      · rw [hnot, hquiet.holdings_eq]
        simp only [Holdings.after, ho]
        exact (if_pos hm).symm
      · obtain ⟨later, next, hbinds, hopen⟩ := open_of_notMem id ho hm
        obtain ⟨tracker, -, -, -, rfl⟩ := Session.offered?_eq_some ho
        simp only [Scene.move, hopen]
        rw [Binds.holdings_enroll hbinds]
        simp only [Holdings.after, ho]
        exact (if_neg hm).symm
  | drop index => exact (move_drop id scene index).1
  | operate index operation => rfl
  | leave index => exact (move_leave id scene index).1

theorem act_eq (moves : List (Move ρ τ)) (scene : Scene κ ρ τ) :
    (scene.act moves).holdings = scene.holdings.afterAll moves ∧
      (scene.act moves).coming = scene.coming := by
  induction moves generalizing scene with
  | nil => exact ⟨rfl, rfl⟩
  | cons move moves ih =>
    obtain ⟨hholdings, hcoming⟩ := move_quiet scene move
    obtain ⟨hrest, hleft⟩ := ih (scene.move id move)
    rw [hholdings] at hrest
    exact ⟨hrest, hleft.trans hcoming⟩

/-- What goes by while a party waits is what the others do during some of the coming delays. -/
theorem Passes.exists_take (h : Passes pass scene other) :
    ∃ n, other.coming = scene.coming.drop n ∧
      other.holdings = scene.holdings.afterAll (scene.coming.take n).flatten := by
  induction h with
  | still halike => exact ⟨0, halike.coming_eq, halike.holdings_eq⟩
  | @wait scene middle other halike _ ih =>
    obtain ⟨n, hcoming, hholdings⟩ := ih
    rw [← halike.coming_eq, ← halike.holdings_eq]
    cases hc : middle.coming with
    | nil =>
      have hpass : middle.pass = middle := by simp only [pass, hc]
      rw [hpass, hc] at hcoming hholdings
      exact ⟨n, hcoming, hholdings⟩
    | cons moves rest =>
      obtain ⟨hacted, hleft⟩ := act_eq moves { middle with coming := rest }
      have hpass : middle.pass = { middle with coming := rest }.act moves := by
        simp only [pass, hc]
      rw [hpass, hleft] at hcoming hholdings
      refine ⟨n + 1, hcoming, ?_⟩
      rw [hholdings, hacted, List.take_succ_cons, List.flatten_cons, Holdings.afterAll_append]
      rfl

end Scene

end Readout
