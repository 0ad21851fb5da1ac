import Mathlib.Data.Nat.Digits.Defs
import Readout.Proofs.Lock.Collision

/-!
Names that a socket can be given. A hashed name has at most 93 bytes, however wide the characters
that it keeps and however many digits its hash has, so it is below the limit and is not hashed again.
-/

namespace Readout.Lock

theorem utf8Size_of_isDigit {c : Char} (h : c.isDigit = true) : c.utf8Size = 1 := by
  have hdigit : c.val ≤ 57 := by
    simp only [Char.isDigit, Bool.and_eq_true, decide_eq_true_eq] at h
    exact h.2
  unfold Char.utf8Size
  rw [if_pos (UInt32.le_trans hdigit (by decide))]

/-- A hash has up to twenty digits, of a byte each. -/
theorem utf8ByteSize_hash_le (hash : UInt64) : (toString hash.toNat).utf8ByteSize ≤ 20 := by
  have hlength : (toString hash.toNat).length ≤ 20 := by
    rw [Nat.toString_eq_ofList_toDigits, String.length_ofList]
    apply Nat.toDigits_length 10 _ _ (by decide)
    exact Nat.lt_trans hash.toNat_lt (by decide)
  have hdigits : ∀ c ∈ (toString hash.toNat).toList, c.utf8Size ≤ 1 := by
    intro c hc
    rw [Nat.toString_eq_ofList_toDigits, String.toList_ofList] at hc
    exact Nat.le_of_eq (utf8Size_of_isDigit (Nat.isDigit_of_mem_toDigits (by decide) (by decide) hc))
  have hbytes := utf8ByteSize_le_mul hdigits
  omega

/-- The kept characters may all be of four bytes. -/
theorem utf8ByteSize_kept_le (name : String) :
    (String.ofList (name.toList.take keptCharacters)).utf8ByteSize ≤ 68 := by
  have hlength : (String.ofList (name.toList.take keptCharacters)).length ≤ 17 := by
    rw [String.length_ofList]
    exact List.length_take_le _ _
  have hbytes := utf8ByteSize_le (String.ofList (name.toList.take keptCharacters))
  omega

theorem utf8ByteSize_hashedName_le (name : String) : (hashedName name).utf8ByteSize ≤ 93 := by
  have hkept := utf8ByteSize_kept_le name
  have hhash := utf8ByteSize_hash_le (djb2 (bytes name))
  have hending : nameEnding.utf8ByteSize = 5 := by decide
  rw [hashedName, String.utf8ByteSize_append, String.utf8ByteSize_append]
  omega

/-- The bound is met with wide characters and a hash of twenty digits. -/
example : (hashedName (faces "_lock")).utf8ByteSize = 93 := by decide +kernel

theorem utf8ByteSize_socketName_lt (name : String) :
    (socketName name).utf8ByteSize < socketNameLimit := by
  by_cases h : name.utf8ByteSize < socketNameLimit
  · rw [socketName_of_lt h]
    exact h
  · rw [socketName_of_le (Nat.le_of_not_lt h)]
    exact Nat.lt_of_le_of_lt (utf8ByteSize_hashedName_le name) (by decide)

/--
Whatever the name of a lock, its socket's name has at most 103 bytes. It is the lock's own name
exactly where that one has fewer than 104 bytes, and as a lock's name it would stay as it is.
-/
theorem bindable_socketName (name : String) :
    (socketName name).utf8ByteSize ≤ 103 ∧
      (socketName name = name ↔ name.utf8ByteSize < 104) ∧
      socketName (socketName name) = socketName name := by
  have hlimit := utf8ByteSize_socketName_lt name
  refine ⟨Nat.le_of_lt_succ hlimit, ⟨?_, socketName_of_lt⟩, socketName_of_lt hlimit⟩
  intro hsame
  rw [hsame] at hlimit
  exact hlimit

end Readout.Lock
