import Readout.Proofs.Lock.Naming

/-!
When two names are the same. The name of a channel's lock can be taken for that of a card's lock
only where the card is called like the other card and its channel; and long names share a socket
only where both their kept characters and their hashes agree.
-/

namespace Readout

namespace Lock

/-! ## Numbers behind a mark -/

theorem eq_nil_of_notMem {between back more : List Char} {mark : Char} (h : mark ∉ back)
    (heq : mark :: back = between ++ mark :: more) : between = [] ∧ back = more := by
  cases between with
  | nil => exact ⟨rfl, (List.cons.inj heq).2⟩
  | cons first rest =>
    obtain ⟨-, rfl⟩ := List.cons.inj heq
    exact absurd (List.mem_append_right rest List.mem_cons_self) h

/-- What stands behind the last mark can be told from what stands before it. -/
theorem append_mark_inj {front other back more : List Char} {mark : Char} (h : mark ∉ back)
    (hm : mark ∉ more) :
    front ++ mark :: back = other ++ mark :: more ↔ front = other ∧ back = more := by
  constructor
  · intro heq
    rcases List.append_eq_append_iff.mp heq with ⟨between, rfl, hrest⟩ | ⟨between, rfl, hrest⟩
    · obtain ⟨rfl, hback⟩ := eq_nil_of_notMem h hrest
      exact ⟨(List.append_nil front).symm, hback⟩
    · obtain ⟨rfl, hmore⟩ := eq_nil_of_notMem hm hrest
      exact ⟨List.append_nil other, hmore.symm⟩
  · rintro ⟨rfl, rfl⟩
    rfl

theorem notMem_toString {mark : Char} (h : mark.isDigit = false) (number : Nat) :
    mark ∉ (toString number).toList := by
  rw [Nat.toString_eq_ofList_toDigits, String.toList_ofList]
  intro hm
  have hdigit := Nat.isDigit_of_mem_toDigits (by decide) (by decide) hm
  rw [h] at hdigit
  cases hdigit

/-- A card may be called like one of its channels; the last `n` is still that of the mark. -/
theorem append_chan_inj {cardId other : String} {channel channel' : Nat} :
    cardId ++ "_chan" ++ toString channel = other ++ "_chan" ++ toString channel' ↔
      cardId = other ∧ channel = channel' := by
  constructor
  · intro heq
    have hlists := congrArg String.toList heq
    have hmark : "_chan".toList = "_cha".toList ++ ['n'] := by decide
    simp only [String.toList_append, hmark, List.append_assoc, List.singleton_append] at hlists
    rw [← List.append_assoc, ← List.append_assoc, append_mark_inj (notMem_toString rfl _)
      (notMem_toString rfl _)] at hlists
    obtain ⟨hcards, hchannels⟩ := hlists
    exact ⟨String.toList_inj.mp (List.append_cancel_right hcards),
      toString_injective (String.toList_inj.mp hchannels)⟩
  · rintro ⟨rfl, rfl⟩
    rfl

/-! ## Long names -/

/-- Where no character takes more than `width` bytes, the bytes are bounded by the characters. -/
theorem utf8ByteSize_le_mul {name : String} {width : Nat}
    (h : ∀ c ∈ name.toList, c.utf8Size ≤ width) : name.utf8ByteSize ≤ width * name.length := by
  induction name using String.push_induction with
  | empty => simp
  | push front last ih =>
    rw [String.toList_push] at h
    have hlast : last.utf8Size ≤ width := h last (by simp)
    have hfront : front.utf8ByteSize ≤ width * front.length :=
      ih fun c hc => h c (List.mem_append_left _ hc)
    rw [String.utf8ByteSize_push, String.length_push, Nat.mul_succ]
    omega

/-- A character takes up to four bytes. -/
theorem utf8ByteSize_le (name : String) : name.utf8ByteSize ≤ 4 * name.length :=
  utf8ByteSize_le_mul fun c _ => c.utf8Size_le_four

/-- A long name has all the characters that are to be kept of it. -/
theorem keptCharacters_le_length {name : String} (h : socketNameLimit ≤ name.utf8ByteSize) :
    keptCharacters ≤ name.length := by
  have := utf8ByteSize_le name
  unfold socketNameLimit at h
  unfold keptCharacters
  omega

/--
Names of 104 bytes or more are bound as the same one only if their first 17 characters are the same
and their hashes too. What was kept and what was hashed can be read off the socket's name, whichever
digits the kept characters end in.
-/
theorem socketName_eq_iff {name other : String} (h : 104 ≤ name.utf8ByteSize)
    (ho : 104 ≤ other.utf8ByteSize) :
    (socketName name = socketName other ↔
      name.toList.take 17 = other.toList.take 17 ∧ djb2 (bytes name) = djb2 (bytes other)) ∧
    ∀ (start : List Char) (number : Nat), start.length = 17 →
      (socketName name = String.ofList start ++ toString number ++ "_lock" ↔
        name.toList.take 17 = start ∧ (djb2 (bytes name)).toNat = number) := by
  have hlength : keptCharacters ≤ name.length := keptCharacters_le_length h
  have hother : keptCharacters ≤ other.length := keptCharacters_le_length ho
  rw [socketName_of_le h, socketName_of_le ho]
  constructor
  · exact hashedName_inj hlength hother
  · intro start number hs
    exact hashedName_eq_iff hlength hs

/-- A name of 106 bytes, but 28 characters, that ends in two of which the hash sees only one sum. -/
def faces (ending : String) : String := String.ofList (List.replicate 26 '😀') ++ ending

theorem socketName_eq_iff_faces :
    104 ≤ (faces "az").utf8ByteSize ∧ 104 ≤ (faces "bY").utf8ByteSize ∧ faces "az" ≠ faces "bY" ∧
      socketName (faces "az") = socketName (faces "bY") := by
  have hsize : 104 ≤ (faces "az").utf8ByteSize := by decide +kernel
  have hsize' : 104 ≤ (faces "bY").utf8ByteSize := by decide +kernel
  refine ⟨hsize, hsize', by decide +kernel, ?_⟩
  exact (socketName_eq_iff hsize hsize').1.mpr ⟨by decide +kernel, by decide +kernel⟩

end Lock

namespace ChannelConfig

open Lock

/-- What a lock is for: the card, or one channel of it. -/
def lockedUnit (config : ChannelConfig) : String :=
  if config.card.locksEachChannel then config.cardId ++ "_chan" ++ toString config.channel.toNat
  else config.cardId

theorem lockName_eq (config : ChannelConfig) :
    config.lockName = dmaClass ++ config.lockedUnit ++ nameEnding := by
  unfold lockedUnit
  split
  next h =>
    rw [lockName_of_locksEachChannel h]
    simp only [String.append_assoc]
  next h =>
    rw [lockName, if_neg h]
    rfl

theorem lockName_inj {config other : ChannelConfig} :
    config.lockName = other.lockName ↔ config.lockedUnit = other.lockedUnit := by
  rw [lockName_eq, lockName_eq, String.append_left_inj, String.append_right_inj]

/--
Where channels are locked one by one, two locks have the same name only if card and channel are the
same; where cards are locked as a whole, only if the card is the same. A lock of the one kind has
the name of one of the other kind only if that other card is called like this card and its channel.
-/
theorem lockName_eq_iff (config other : ChannelConfig) :
    config.lockName = other.lockName ↔
      match config.card.locksEachChannel, other.card.locksEachChannel with
      | true, true => config.cardId = other.cardId ∧ config.channel = other.channel
      | false, false => config.cardId = other.cardId
      | true, false => other.cardId = config.cardId ++ "_chan" ++ toString config.channel.toNat
      | false, true => config.cardId = other.cardId ++ "_chan" ++ toString other.channel.toNat := by
  rw [lockName_inj]
  unfold lockedUnit
  cases config.card.locksEachChannel with
  | true =>
    cases other.card.locksEachChannel with
    | true =>
      rw [if_pos rfl, if_pos rfl, append_chan_inj, UInt32.toNat_inj]
    | false =>
      rw [if_pos rfl, if_neg Bool.false_ne_true]
      exact eq_comm
  | false =>
    cases other.card.locksEachChannel with
    | true => rw [if_neg Bool.false_ne_true, if_pos rfl]
    | false => rw [if_neg Bool.false_ne_true, if_neg Bool.false_ne_true]

example :
    (standard .crorc "rack_chan1" 2).lockName = (standard .cru "rack_chan1_chan2" 0).lockName := by
  decide

end ChannelConfig

end Readout
