import Readout.Proofs.Sca.Strobe

/-!
The block of a link: the registers that an engine reads and writes, counted from where the block
begins. An engine accesses no others, so engines whose blocks lie apart never meet.
-/

namespace Readout.Register

/-- The register that is accessed. -/
def Access.index : Access → Nat
  | .read index _ => index
  | .write index _ _ => index

end Readout.Register

namespace Readout.Sca

open Register

def readRegisters : List Nat := [readData, readCommand, readBusy, readTime]

def writeRegisters : List Nat := [writeData, writeCommand, control]

/-- The register belongs to a block; the block has eight of them in a row. -/
def InBlock (register : Nat) : Prop := 8 ≤ register ∧ register < 16

theorem inBlock_of_read {register : Nat} (h : register ∈ readRegisters) : InBlock register := by
  unfold InBlock
  revert register
  decide

theorem inBlock_of_write {register : Nat} (h : register ∈ writeRegisters) : InBlock register := by
  unfold InBlock
  revert register
  decide

/-- The access is one that an engine makes in the block that begins at `offset`. -/
def Within (offset : Nat) : Access → Prop
  | .read index _ => ∃ register ∈ readRegisters, index = offset + register
  | .write index _ _ => ∃ register ∈ writeRegisters, index = offset + register

/-- No register belongs to both blocks. -/
def Apart (offset other : Nat) : Prop := offset + 8 ≤ other ∨ other + 8 ≤ offset

theorem Apart.ne {offset other register register' : Nat} (h : Apart offset other)
    (hr : InBlock register) (hr' : InBlock register') : offset + register ≠ other + register' := by
  unfold Apart at h
  unfold InBlock at hr hr'
  omega

section Runs

variable {offset register : Nat} {isDone : UInt32 → Bool} {late : ScaError} {step : Step}
  {steps : List Step} {access : Access} {accesses : List Access} {outcome : Option Failure}

theorem Within.exists_inBlock (h : Within offset access) :
    ∃ register, InBlock register ∧ access.index = offset + register := by
  cases access with
  | read index answer =>
    obtain ⟨register, hr, hi⟩ := h
    exact ⟨register, inBlock_of_read hr, hi⟩
  | write index value answer =>
    obtain ⟨register, hr, hi⟩ := h
    exact ⟨register, inBlock_of_write hr, hi⟩

theorem Within.index_ne {offset other : Nat} {access access' : Access} (ha : Apart offset other)
    (h : Within offset access) (h' : Within other access') : access.index ≠ access'.index := by
  obtain ⟨register, hr, hi⟩ := h.exists_inBlock
  obtain ⟨register', hr', hi'⟩ := h'.exists_inBlock
  rw [hi, hi']
  exact ha.ne hr hr'

/-- A wait reads one register only. -/
theorem Waits.within (h : Waits (offset + register) isDone late accesses outcome)
    (hr : register ∈ readRegisters) : ∀ access ∈ accesses, Within offset access := by
  have look {answer : Except RegisterError UInt32} :
      Within offset (.read (offset + register) answer) := ⟨register, hr, rfl⟩
  cases h with
  | endless => exact List.forall_mem_nil _
  | looked hlooks =>
    induction hlooks with
    | seen => exact List.forall_mem_singleton.2 look
    | failed => exact List.forall_mem_singleton.2 look
    | late => exact List.forall_mem_singleton.2 look
    | again _ _ ih => exact List.forall_mem_cons.2 ⟨look, ih⟩

theorem Fetches.within {result : Except Failure Reply} (h : Fetches offset accesses result) :
    ∀ access ∈ accesses, Within offset access := by
  have data {answer : Except RegisterError UInt32} :
      Within offset (.read (offset + readData) answer) := ⟨readData, by decide, rfl⟩
  have command {answer : Except RegisterError UInt32} :
      Within offset (.read (offset + readCommand) answer) := ⟨readCommand, by decide, rfl⟩
  cases h with
  | dataFailed => exact List.forall_mem_singleton.2 data
  | commandFailed => exact List.forall_mem_cons.2 ⟨data, List.forall_mem_singleton.2 command⟩
  | unsettled hwaits | flagged hwaits | clean hwaits =>
    exact List.forall_mem_cons.2 ⟨data, List.forall_mem_cons.2 ⟨command,
      hwaits.within (by decide)⟩⟩

/-- A step that stores does so in one of the registers that are there to be written. -/
def Step.isAddressed : Step → Bool
  | .store register _ => writeRegisters.contains register
  | _ => true

theorem Step.Makes.within (h : step.Makes offset accesses outcome) (hs : step.isAddressed = true) :
    ∀ access ∈ accesses, Within offset access := by
  cases h with
  | stored | unstored => exact List.forall_mem_singleton.2 ⟨_, List.contains_iff_mem.1 hs, rfl⟩
  | awaited hwaits => exact hwaits.within (by decide)
  | fetched hfetches => exact hfetches.within
  | timed | untimed => exact List.forall_mem_singleton.2 ⟨readTime, by decide, rfl⟩
  | refused => exact List.forall_mem_nil _

theorem Runs.within (h : Runs offset steps accesses outcome)
    (hs : ∀ step ∈ steps, step.isAddressed = true) : ∀ access ∈ accesses, Within offset access := by
  induction h with
  | done => exact List.forall_mem_nil _
  | step hstep _ ih =>
    obtain ⟨hfirst, hrest⟩ := List.forall_mem_cons.1 hs
    exact List.forall_mem_append.2 ⟨hstep.within hfirst, ih hrest⟩
  | fail hstep => exact hstep.within (List.forall_mem_cons.1 hs).1

end Runs

theorem Request.isAddressed_of_mem {request : Request} :
    ∀ step ∈ request.exchangeSteps, step.isAddressed = true := by
  have htail : ∀ step ∈ [Step.fetchReply], step.isAddressed = true := by decide
  refine List.forall_mem_append.2 ⟨?_, htail⟩
  unfold Request.steps
  split
  · exact List.forall_mem_singleton.2 rfl
  · simp [Step.isAddressed, writeRegisters]

theorem Operation.isAddressed_of_mem (operation : Operation) :
    ∀ step ∈ operation.steps, step.isAddressed = true := by
  have hload {request : Request} : ∀ step ∈ request.steps, step.isAddressed = true :=
    fun step hm => Request.isAddressed_of_mem step (List.mem_append_left _ hm)
  have hbring : ∀ step ∈ resetPlan ++ enablePlan, step.isAddressed = true := by decide
  cases operation with
  | bringUp => exact hbring
  | write request => exact hload
  | read => decide
  | readTime => decide
  | exchangeAll requests =>
    intro step hm
    obtain ⟨request, -, hstep⟩ := List.mem_flatMap.1 hm
    exact Request.isAddressed_of_mem step hstep
  | writeGpio data =>
    exact List.forall_mem_append.2 ⟨hbring, List.forall_mem_append.2 ⟨hload,
      List.forall_mem_append.2 ⟨Request.isAddressed_of_mem, Request.isAddressed_of_mem⟩⟩⟩
  | readGpio => exact Request.isAddressed_of_mem

/-- Whatever a port answers, an engine stays in its block. -/
theorem Engine.within_of_deeds {ρ : Type} [RegisterPort ρ] (engine : Engine)
    (operations : List Operation) (bus : Bus ρ) :
    ∀ access ∈ (engine.deeds operations bus).flatMap Deed.accesses,
      Within engine.offset access := by
  intro access hm
  obtain ⟨deed, hdeed, haccess⟩ := List.mem_flatMap.1 hm
  obtain ⟨-, hruns⟩ := engine.runs_of_mem_deeds hdeed
  exact hruns.within deed.operation.isAddressed_of_mem access haccess

/-! ## The blocks of a layout -/

theorem Engine.offset_of_ofLayout {layout : Layout} {link : UInt32} {engine : Engine}
    (h : Engine.ofLayout layout link = .ok engine) :
    engine.offset = layout.base + link.toNat * layout.stride := by
  unfold Engine.ofLayout at h
  cases ho : layout.offset link with
  | error error => simp [ho] at h
  | ok offset =>
    obtain ⟨-, rfl⟩ := Layout.offset_eq_ok_iff.1 ho
    rw [ho] at h
    exact congrArg Engine.offset (Except.ok.inj h).symm

/-- Links that are a stride of eight or more apart have blocks that lie apart. -/
theorem Engine.apart_of_ofLayout {layout : Layout} {link link' : UInt32} {engine other : Engine}
    (hs : 8 ≤ layout.stride) (h : Engine.ofLayout layout link = .ok engine)
    (h' : Engine.ofLayout layout link' = .ok other) (hne : link ≠ link') :
    Apart engine.offset other.offset := by
  have later {m n : Nat} (hlt : m < n) : m * layout.stride + layout.stride ≤ n * layout.stride := by
    rw [← Nat.succ_mul]
    exact Nat.mul_le_mul_right _ hlt
  rw [Engine.offset_of_ofLayout h, Engine.offset_of_ofLayout h']
  unfold Apart
  rcases Nat.lt_or_gt_of_ne (mt UInt32.toNat_inj.1 hne) with hlt | hgt
  · have := later hlt
    omega
  · have := later hgt
    omega

end Readout.Sca
