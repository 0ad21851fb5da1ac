import Readout.Channel.Config
import Readout.Proofs.Lock.Hash

/-!
Which names are kept apart. A long name is told by the characters that are kept of it and by its
hash, so two names that differ in a single digit stay different, however long they are.
-/

namespace Readout

namespace Lock

@[simp] theorem length_bytes (name : String) : (bytes name).length = name.utf8ByteSize := rfl

@[simp] theorem bytes_append (name other : String) :
    bytes (name ++ other) = bytes name ++ bytes other := by
  simp [bytes]

/-- A digit is written as a byte of its own. -/
theorem bytes_digit {digit : Nat} (h : digit < 10) :
    bytes (toString digit) = [UInt8.ofNat (48 + digit)] := by
  have hdigits : ∀ digit : Fin 10, bytes (toString digit.val) = [UInt8.ofNat (48 + digit)] := by
    decide
  exact hdigits ⟨digit, h⟩

theorem eq_of_digitByte_eq {digit other : Nat} (h : digit < 10) (ho : other < 10)
    (heq : UInt8.ofNat (48 + digit) = UInt8.ofNat (48 + other)) : digit = other := by
  have hnat := congrArg UInt8.toNat heq
  rw [UInt8.toNat_ofNat', UInt8.toNat_ofNat'] at hnat
  omega

/-- No two numbers are written alike. -/
theorem toString_injective {number other : Nat} (h : toString number = toString other) :
    number = other := by
  have hlists := congrArg String.toList h
  simp only [Nat.toString_eq_ofList_toDigits, String.toList_ofList] at hlists
  calc
    number = Nat.ofDigitChars 10 (Nat.toDigits 10 number) 0 :=
      Nat.ofDigitChars_ten_toDigits.symm
    _ = Nat.ofDigitChars 10 (Nat.toDigits 10 other) 0 := by rw [hlists]
    _ = other := Nat.ofDigitChars_ten_toDigits

theorem length_take_kept {name : String} (h : keptCharacters ≤ name.length) :
    (name.toList.take keptCharacters).length = keptCharacters := by
  rw [List.length_take, String.length_toList]
  omega

/-- The hash begins where the kept characters end, so both can be read off a hashed name. -/
theorem hashedName_eq_iff {name : String} {start : List Char} {number : Nat}
    (h : keptCharacters ≤ name.length) (hs : start.length = keptCharacters) :
    hashedName name = String.ofList start ++ toString number ++ nameEnding ↔
      name.toList.take keptCharacters = start ∧ (djb2 (bytes name)).toNat = number := by
  constructor
  · intro heq
    have hlists := congrArg String.toList heq
    simp only [hashedName, String.toList_append, String.toList_ofList] at hlists
    have hfront := List.append_cancel_right hlists
    obtain ⟨hkept, hhash⟩ := List.append_inj hfront (by rw [length_take_kept h, hs])
    exact ⟨hkept, toString_injective (String.toList_inj.mp hhash)⟩
  · rintro ⟨rfl, rfl⟩
    rfl

/-- Neither the kept characters nor the hash can stand in for the other. -/
theorem hashedName_inj {name other : String} (h : keptCharacters ≤ name.length)
    (ho : keptCharacters ≤ other.length) :
    hashedName name = hashedName other ↔
      name.toList.take keptCharacters = other.toList.take keptCharacters ∧
        djb2 (bytes name) = djb2 (bytes other) := by
  rw [hashedName.eq_def other, hashedName_eq_iff h (length_take_kept ho), UInt64.toNat_inj]

variable {front back : String} {digit other : Nat}

theorem bytes_around (front back : String) (hd : digit < 10) :
    bytes (front ++ toString digit ++ back) =
      bytes front ++ [UInt8.ofNat (48 + digit)] ++ bytes back := by
  rw [bytes_append, bytes_append, bytes_digit hd]

/-- The hash of a name tells its digits apart. -/
theorem djb2_ne_of_digit_ne (hd : digit < 10) (ho : other < 10) (hne : digit ≠ other) :
    djb2 (bytes (front ++ toString digit ++ back)) ≠
      djb2 (bytes (front ++ toString other ++ back)) := by
  intro heq
  rw [bytes_around front back hd, bytes_around front back ho, djb2_append_left_inj,
    djb2_concat_right_inj] at heq
  exact hne (eq_of_digitByte_eq hd ho heq)

/-- Names that differ in one digit are bound as different ones, whether or not they are hashed. -/
theorem socketName_ne_of_digit_ne (hfront : keptCharacters ≤ front.length) (hd : digit < 10)
    (ho : other < 10) (hne : digit ≠ other) :
    socketName (front ++ toString digit ++ back) ≠ socketName (front ++ toString other ++ back) := by
  have hhash : djb2 (bytes (front ++ toString digit ++ back)) ≠
      djb2 (bytes (front ++ toString other ++ back)) := djb2_ne_of_digit_ne hd ho hne
  have hsize : (front ++ toString digit ++ back).utf8ByteSize =
      (front ++ toString other ++ back).utf8ByteSize := by
    rw [← length_bytes, ← length_bytes, bytes_around front back hd, bytes_around front back ho]
    simp
  have hlong (number : Nat) : keptCharacters ≤ (front ++ toString number ++ back).length := by
    simp only [String.length_append]
    omega
  by_cases hshort : (front ++ toString digit ++ back).utf8ByteSize < socketNameLimit
  · rw [socketName_of_lt hshort, socketName_of_lt (hsize ▸ hshort)]
    intro heq
    exact hhash (congrArg (fun name => djb2 (bytes name)) heq)
  · have hle := Nat.le_of_not_lt hshort
    rw [socketName_of_le hle, socketName_of_le (hsize ▸ hle)]
    intro heq
    exact hhash ((hashedName_inj (hlong digit) (hlong other)).mp heq).2

end Lock

namespace ChannelConfig

open Lock

variable {config other : ChannelConfig}

/-- Where channels are locked one by one, the lock's name is the card's around the channel. -/
theorem lockName_of_locksEachChannel (h : config.card.locksEachChannel = true) :
    config.lockName =
      (dmaClass ++ config.cardId ++ "_chan") ++ toString config.channel.toNat ++ nameEnding := by
  rw [lockName, if_pos h]
  simp only [String.append_assoc]
  rfl

theorem channel_lt_ten (hcard : config.card = .crorc) (hv : config.validate = .ok ()) :
    config.channel.toNat < 10 := by
  obtain ⟨hchannel, -⟩ := validate_eq_ok_iff.mp hv
  rw [hcard, UInt32.le_iff_toNat_le] at hchannel
  exact Nat.lt_of_le_of_lt hchannel (by decide)

/--
Two channels of one C-RORC never exclude each other: their locks are bound under different names,
whatever the card is called and however long that makes the names.
-/
theorem socketName_ne_of_channel_ne (hcard : config.card = .crorc) (hother : other.card = .crorc)
    (hid : config.cardId = other.cardId) (hv : config.validate = .ok ())
    (ho : other.validate = .ok ()) (hne : config.channel ≠ other.channel) :
    socketName config.lockName ≠ socketName other.lockName := by
  have hfront : keptCharacters ≤ (dmaClass ++ config.cardId ++ "_chan").length := by
    have hclass : dmaClass.length = 16 := by decide
    have hchan : "_chan".length = 5 := by decide
    rw [String.length_append, String.length_append, hclass, hchan, keptCharacters]
    omega
  have hdigit : config.channel.toNat ≠ other.channel.toNat := by
    intro heq
    exact hne (UInt32.toNat_inj.mp heq)
  rw [lockName_of_locksEachChannel (by rw [hcard]; rfl),
    lockName_of_locksEachChannel (by rw [hother]; rfl), ← hid]
  exact socketName_ne_of_digit_ne hfront (channel_lt_ten hcard hv) (channel_lt_ten hother ho) hdigit

/-- The card of a name so long that the names of its locks are hashed. -/
def longId : String := String.ofList (List.replicate 80 'x')

theorem socketName_ne_of_channel_ne_hashed :
    (standard .crorc longId 0).validate = .ok () ∧ (standard .crorc longId 5).validate = .ok () ∧
      socketNameLimit ≤ (standard .crorc longId 0).lockName.utf8ByteSize ∧
      socketName (standard .crorc longId 0).lockName ≠
        socketName (standard .crorc longId 5).lockName := by
  refine ⟨rfl, rfl, by decide +kernel, ?_⟩
  exact socketName_ne_of_channel_ne rfl rfl rfl rfl rfl (by decide)

end ChannelConfig

end Readout
