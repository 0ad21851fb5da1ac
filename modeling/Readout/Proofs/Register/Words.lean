import Readout.Proofs.Register.Bits
import Readout.Proofs.Register.Plain
import Readout.Register.Lent

/-!
A mapped window as an array of words. What a register holds is told by the uses that came before:
the last word that was stored there, or the first one if none was; and whether a use succeeds is told
by its index, the length of the window and the protected range alone.
-/

namespace Readout.Register

/-! ## Uses of a port -/

/-- What the holder of a port can do with it. -/
inductive Use where
  | read (index : Nat)
  | write (index : Nat) (value : UInt32)
  | modify (index : Nat) (field : Field) (value : UInt32)
  deriving DecidableEq

/-- Only a read that succeeds brings a word. -/
abbrev Outcome := Except RegisterError (Option UInt32)

namespace Use

def on {ρ : Type} [RegisterPort ρ] : Use → ρ → Outcome × ρ
  | read index, port =>
    ((RegisterPort.read port index).1.map some, (RegisterPort.read port index).2)
  | write index value, port =>
    ((RegisterPort.write port index value).1.map fun _ => none,
      (RegisterPort.write port index value).2)
  | modify index field value, port =>
    ((RegisterPort.modify port index field value).1.map fun _ => none,
      (RegisterPort.modify port index field value).2)

/-- The use through a reference to a reference and so on, as many as there are. -/
def through : Nat → {ρ : Type} → [RegisterPort ρ] → Use → ρ → Outcome × ρ
  | 0, _, _, use, port => use.on port
  | references + 1, _, _, use, port =>
    ((through references use (Lent.mk port)).1, (through references use (Lent.mk port)).2.port)

theorem on_lent {ρ : Type} [RegisterPort ρ] (use : Use) (port : ρ) :
    use.on (Lent.mk port) = Lent.handBack (use.on port) := by
  cases use with
  | read index => rfl
  | write index value => rfl
  | modify index field value =>
    rw [on, ← Lent.modify_eq]
    rfl

/-- A reference changes nothing. -/
theorem through_eq (references : Nat) (use : Use) {ρ : Type} [RegisterPort ρ] (port : ρ) :
    use.through references port = use.on port := by
  induction references generalizing ρ with
  | zero => rfl
  | succ references ih =>
    rw [through, ih, on_lent]
    rfl

end Use

/-- A use with what came of it. -/
structure Used where
  use : Use
  outcome : Outcome

/-- What a register with this index that holds `word` holds after the use. -/
def Used.leaves (index : Nat) (word : UInt32) : Used → UInt32
  | ⟨.write place value, .ok _⟩ => if place = index then value else word
  | ⟨.modify place field value, .ok _⟩ => if place = index then field.replaced word value else word
  | _ => word

/-- Only a success stores anything. -/
theorem Used.leaves_error (use : Use) (error : RegisterError) (index : Nat) (word : UInt32) :
    Used.leaves index word ⟨use, .error error⟩ = word := by
  cases use <;> rfl

/-- What a register that held `word` first holds at last, by the uses since then. -/
def wordAfter (history : List Used) (index : Nat) (word : UInt32) : UInt32 :=
  history.foldl (Used.leaves index) word

/-- Uses one after the other, each through some number of references; the oldest is kept first. -/
def useAll {ρ : Type} [RegisterPort ρ] : List (Nat × Use) → ρ → List Used × ρ
  | [], port => ([], port)
  | (references, use) :: rest, port =>
    let (outcome, next) := use.through references port
    let (history, last) := useAll rest next
    (⟨use, outcome⟩ :: history, last)

/-! ## A window's answers -/

/-- The index is in the protected range, if there is one. -/
def Shields (guarded : Option Range) (index : Nat) : Prop :=
  ∃ range, guarded = some range ∧ range.start ≤ index ∧ index < range.stop

namespace MappedWindow

variable {window : MappedWindow} {index : Nat}

theorem guards_iff : window.guards index = true ↔ Shields window.guarded index := by
  unfold guards Shields
  cases window.guarded with
  | none => simp
  | some range => simp [Range.contains]

instance (guarded : Option Range) (index : Nat) : Decidable (Shields guarded index) :=
  match guarded with
  | none => isFalse nofun
  | some range => decidable_of_iff (range.start ≤ index ∧ index < range.stop) (by simp [Shields])

/-- What the register holds, if there is one. -/
def word (window : MappedWindow) (index : Nat) : UInt32 := window.memory[index]?.getD 0

theorem on_read (window : MappedWindow) (index : Nat) :
    (Use.read index).on window =
      (if index < window.size then .ok (some (window.word index))
        else .error (.outOfRange index window.size), window) := by
  show ((window.read index).map some, window) = _
  rw [read_eq, word]
  split <;> rfl

/-- Protection is checked before the range. -/
theorem write_cases (window : MappedWindow) (index : Nat) (value : UInt32) :
    RegisterPort.write window index value =
      if Shields window.guarded index then (.error (.writeProtected index), window)
      else if index < window.size then (.ok (), window.put index value)
      else (.error (.outOfRange index window.size), window) := by
  simp only [RegisterPort.write, write_eq, permit, guards_iff]
  by_cases hshields : Shields window.guarded index
  · simp only [if_pos hshields]
    rfl
  · by_cases hlt : index < window.size
    · simp only [if_neg hshields, if_pos hlt]
      rfl
    · simp only [if_neg hshields, if_neg hlt]
      rfl

theorem on_write (window : MappedWindow) (index : Nat) (value : UInt32) :
    (Use.write index value).on window =
      if Shields window.guarded index then (.error (.writeProtected index), window)
      else if index < window.size then (.ok none, window.put index value)
      else (.error (.outOfRange index window.size), window) := by
  rw [Use.on, write_cases]
  split
  · rfl
  · split <;> rfl

/-- The read comes first, so the range is checked before protection. -/
theorem on_modify (window : MappedWindow) (index : Nat) (field : Field) (value : UInt32) :
    (Use.modify index field value).on window =
      if window.size ≤ index then (.error (.outOfRange index window.size), window)
      else if Shields window.guarded index then (.error (.writeProtected index), window)
      else (.ok none, window.put index (field.replaced (window.word index) value)) := by
  have hread : RegisterPort.read window index = (if index < window.size then .ok (window.word index)
      else .error (.outOfRange index window.size), window) := congrArg (·, window) (read_eq _ _)
  by_cases h : index < window.size
  · rw [if_pos h] at hread
    rw [if_neg (Nat.not_le.mpr h), Use.on, RegisterPort.modify_of_read_ok hread, write_cases,
      if_pos h, field.insert_eq_replaced]
    split <;> rfl
  · rw [if_neg h] at hread
    rw [if_pos (Nat.le_of_not_lt h), Use.on, RegisterPort.modify_of_read_error hread]
    rfl

/-! ## What a use leaves -/

theorem memory_put {place : Nat} (h : place < window.size) (value : UInt32) (index : Nat) :
    (window.put place value).memory[index]? =
      window.memory[index]?.map fun word => if place = index then value else word := by
  show (window.memory.setIfInBounds place value)[index]? = _
  have hlt := lt_size_memory h
  by_cases hi : place = index
  · subst hi
    rw [Array.getElem?_setIfInBounds_self_of_lt hlt, Array.getElem?_eq_getElem hlt, Option.map_some,
      if_pos rfl]
  · simp only [if_neg hi, Option.map_id']
    exact Array.getElem?_setIfInBounds_ne hi

theorem memory_put_word {place : Nat} (h : place < window.size) (f : UInt32 → UInt32) (index : Nat) :
    (window.put place (f (window.word place))).memory[index]? =
      window.memory[index]?.map fun word => if place = index then f word else word := by
  rw [memory_put h]
  by_cases hi : place = index
  · subst hi
    simp only [if_pos, word, Array.getElem?_eq_getElem (lt_size_memory h), Option.map_some,
      Option.getD_some]
  · simp only [if_neg hi]

/-- All that a use can do to a window. -/
inductive Effect (window : MappedWindow) (use : Use) : Prop where
  | idle : (use.on window).2 = window →
      (∀ index word, Used.leaves index word ⟨use, (use.on window).1⟩ = word) → Effect window use
  | store (place : Nat) (f : UInt32 → UInt32) : place < window.size →
      ¬ Shields window.guarded place →
      use.on window = (.ok none, window.put place (f (window.word place))) →
      (∀ index word, Used.leaves index word ⟨use, .ok none⟩ =
        if place = index then f word else word) → Effect window use

theorem Effect.of_error {use : Use} {error : RegisterError}
    (hon : use.on window = (.error error, window)) : Effect window use := by
  apply Effect.idle
  · rw [hon]
  · rw [hon]
    exact Used.leaves_error use error

theorem effect (use : Use) (window : MappedWindow) : Effect window use := by
  cases use with
  | read place => exact .idle (by rw [on_read]) fun _ _ => rfl
  | write place value =>
    have hon := on_write window place value
    by_cases hshields : Shields window.guarded place
    · rw [if_pos hshields] at hon
      exact .of_error hon
    · rw [if_neg hshields] at hon
      by_cases hlt : place < window.size
      · rw [if_pos hlt] at hon
        exact .store place (fun _ => value) hlt hshields hon fun _ _ => rfl
      · rw [if_neg hlt] at hon
        exact .of_error hon
  | modify place field value =>
    have hon := on_modify window place field value
    by_cases hle : window.size ≤ place
    · rw [if_pos hle] at hon
      exact .of_error hon
    · rw [if_neg hle] at hon
      by_cases hshields : Shields window.guarded place
      · rw [if_pos hshields] at hon
        exact .of_error hon
      · rw [if_neg hshields] at hon
        exact .store place (field.replaced · value) (Nat.lt_of_not_le hle) hshields hon fun _ _ => rfl

theorem settings_on (use : Use) (window : MappedWindow) :
    (use.on window).2.bytes = window.bytes ∧ (use.on window).2.guarded = window.guarded := by
  cases effect use window with
  | idle hsame =>
    rw [hsame]
    exact ⟨rfl, rfl⟩
  | store place f _ _ hon =>
    rw [hon]
    exact ⟨rfl, rfl⟩

theorem snd_on_of_error {use : Use} {error : RegisterError}
    (h : (use.on window).1 = .error error) : (use.on window).2 = window := by
  cases effect use window with
  | idle hsame => exact hsame
  | store place f _ _ hon =>
    rw [hon] at h
    cases h

theorem memory_on (use : Use) (window : MappedWindow) (index : Nat) :
    (use.on window).2.memory[index]? =
      window.memory[index]?.map (Used.leaves index · ⟨use, (use.on window).1⟩) := by
  cases effect use window with
  | idle hsame hleaves =>
    rw [hsame]
    simp only [hleaves, Option.map_id']
  | store place f hlt _ hon hleaves =>
    rw [hon]
    simp only [hleaves]
    exact memory_put_word hlt f index

/-- Where a register is protected, or there is none, nothing is ever stored. -/
theorem memory_on_of_barred (use : Use) (h : Shields window.guarded index ∨ window.size ≤ index) :
    (use.on window).2.memory[index]? = window.memory[index]? := by
  cases effect use window with
  | idle hsame => rw [hsame]
  | store place f hlt hshields hon =>
    have hne : place ≠ index := by
      rintro rfl
      rcases h with hs | hle
      · exact hshields hs
      · exact absurd hlt (Nat.not_lt.mpr hle)
    rw [hon]
    exact Array.getElem?_setIfInBounds_ne hne

/-! ## Runs -/

/-- What uses make of a window, told by what they came to. -/
structure Follows (window : MappedWindow) (history : List Used) (after : MappedWindow) : Prop where
  bytes_eq : after.bytes = window.bytes
  guarded_eq : after.guarded = window.guarded
  memory_eq : ∀ index, after.memory[index]? = window.memory[index]?.map (wordAfter history index)
  barred_eq : ∀ index, Shields window.guarded index ∨ window.size ≤ index →
    after.memory[index]? = window.memory[index]?

theorem follows_useAll (uses : List (Nat × Use)) (window : MappedWindow) :
    window.Follows (useAll uses window).1 (useAll uses window).2 := by
  induction uses generalizing window with
  | nil => exact ⟨rfl, rfl, fun _ => Option.map_id'.symm, fun _ _ => rfl⟩
  | cons first rest ih =>
    obtain ⟨references, use⟩ := first
    -- the rest begins with what the first use leaves, in which no limit has changed
    have hrest := ih (use.on window).2
    obtain ⟨hbytes, hguarded⟩ := settings_on use window
    rw [useAll, Use.through_eq]
    constructor
    case bytes_eq => exact hrest.bytes_eq.trans hbytes
    case guarded_eq => exact hrest.guarded_eq.trans hguarded
    case memory_eq =>
      intro index
      rw [hrest.memory_eq, memory_on, Option.map_map]
      rfl
    case barred_eq =>
      intro index hbarred
      rw [hrest.barred_eq index (by rwa [hguarded, size, hbytes]), memory_on_of_barred use hbarred]

/--
However a window is used, directly or through references, each use is answered by what was made of
its registers before. A read gives the word that was last stored, or the first one; a write asks
for protection before it asks for the range, a modification the other way round, and it replaces
its field of the word and nothing else. What fails leaves the window as it was, and a word that is
protected, or is no whole word of the window, stays what it was at first.
-/
theorem words_of_uses (window : MappedWindow) (uses : List (Nat × Use)) :
    ∃ history after, useAll uses window = (history, after) ∧
      (∀ references index, (Use.read index).through references after =
        (if index < window.bytes / 4 then .ok (some (wordAfter history index (window.word index)))
          else .error (.outOfRange index (window.bytes / 4)), after)) ∧
      (∀ references index value, ((Use.write index value).through references after).1 =
        if Shields window.guarded index then .error (.writeProtected index)
        else if index < window.bytes / 4 then .ok none
        else .error (.outOfRange index (window.bytes / 4))) ∧
      (∀ references index field value,
        ((Use.modify index field value).through references after).1 =
          if window.bytes / 4 ≤ index then .error (.outOfRange index (window.bytes / 4))
          else if Shields window.guarded index then .error (.writeProtected index)
          else .ok none) ∧
      (∀ references (use : Use) error, (use.through references after).1 = .error error →
        (use.through references after).2 = after) ∧
      (∀ index, after.memory[index]? = window.memory[index]?.map (wordAfter history index)) ∧
      ∀ index, Shields window.guarded index ∨ window.bytes / 4 ≤ index →
        after.memory[index]? = window.memory[index]? := by
  have hfollows := follows_useAll uses window
  have hsize : (useAll uses window).2.size = window.bytes / 4 := by rw [size, hfollows.bytes_eq]
  refine ⟨_, _, rfl, ?_, ?_, ?_, ?_, hfollows.memory_eq, hfollows.barred_eq⟩
  · intro references index
    rw [Use.through_eq, on_read, hsize]
    by_cases hlt : index < window.bytes / 4
    · rw [if_pos hlt, if_pos hlt, word, hfollows.memory_eq, word,
        Array.getElem?_eq_getElem (lt_size_memory hlt), Option.map_some, Option.getD_some,
        Option.getD_some]
    · rw [if_neg hlt, if_neg hlt]
  · intro references index value
    rw [Use.through_eq, on_write, hsize, hfollows.guarded_eq, apply_ite Prod.fst,
      apply_ite Prod.fst]
  · intro references index field value
    rw [Use.through_eq, on_modify, hsize, hfollows.guarded_eq, apply_ite Prod.fst,
      apply_ite Prod.fst]
  · intro references use error hfail
    rw [Use.through_eq] at hfail ⊢
    exact snd_on_of_error hfail

/-- Three registers and a part of a fourth word; the last register is protected, and what follows. -/
def shielded : MappedWindow where
  bytes := 15
  memory := #[7, 7, 7, 7]
  guarded := some ⟨2, 9⟩
  size_memory := rfl

/-- The last three fail, for protection, for the range and for protection again. -/
def attempts : List (Nat × Use) :=
  [(0, .write 1 0x0f0f), (2, .modify 1 ⟨4, 8⟩ 0xab), (1, .write 2 9), (0, .modify 3 ⟨0, 32⟩ 1),
    (0, .write 3 1)]

theorem words_of_uses_shielded :
    Shields shielded.guarded 2 ∧ shielded.bytes / 4 ≤ 3 ∧
      ∃ history after, useAll attempts shielded = (history, after) ∧
        (Use.read 1).through 1 after = (.ok (some 0x0abf), after) ∧
        after.memory[2]? = some 7 ∧ after.memory[3]? = some 7 := by
  have hshields : Shields shielded.guarded 2 := by decide
  have hend : shielded.bytes / 4 ≤ 3 := by decide
  obtain ⟨history, after, hrun, hread, -, -, -, -, hbarred⟩ := words_of_uses shielded attempts
  have hword : wordAfter (useAll attempts shielded).1 1 (shielded.word 1) = 0x0abf := by
    decide +kernel
  rw [hrun] at hword
  refine ⟨hshields, hend, history, after, hrun, ?_, hbarred 2 (.inl hshields), hbarred 3 (.inr hend)⟩
  rw [hread, hword, if_pos (by decide)]

end MappedWindow

end Readout.Register
