import Mathlib.Data.Int.ModEq
import Mathlib.Data.List.Induction
import Mathlib.Data.Nat.Digits.Defs
import Mathlib.Tactic.Ring
import Readout.Lock.Name

/-!
What the hash of a name keeps apart. A step of it multiplies by an odd number and adds a byte, both
of which can be undone modulo `2 ^ 64`, so equal bytes at the end of two names can be taken off. As
a number, the hash has the bytes for its digits in base 33, so what a changed byte does to it
depends on nothing but how many bytes follow.
-/

namespace Readout.Lock

/-! ## Steps undone -/

/-- A multiplication by this one undoes a multiplication by 33. -/
def inverse : UInt64 := 0x0f83e0f83e0f83e1

theorem mul_inverse (hash : UInt64) : hash * 33 * inverse = hash := by
  have hunit : (33 : UInt64) * inverse = 1 := by decide
  rw [UInt64.mul_assoc, hunit, UInt64.mul_one]

theorem mul_left_inj {hash other : UInt64} : hash * 33 = other * 33 ↔ hash = other := by
  constructor
  · intro h
    rw [← mul_inverse hash, h, mul_inverse]
  · intro h
    rw [h]

section Ends

variable {front other back : List UInt8}

theorem djb2_concat_left_inj {byte : UInt8} :
    djb2 (front ++ [byte]) = djb2 (other ++ [byte]) ↔ djb2 front = djb2 other := by
  rw [djb2_concat, djb2_concat, UInt64.add_left_inj, mul_left_inj]

/-- Behind the same bytes the hash tells any two bytes apart. -/
theorem djb2_concat_right_inj {byte changed : UInt8} :
    djb2 (front ++ [byte]) = djb2 (front ++ [changed]) ↔ byte = changed := by
  rw [djb2_concat, djb2_concat, UInt64.add_right_inj, UInt8.toUInt64_inj]

/-- What two names end in alike takes no part in whether their hashes agree. -/
theorem djb2_append_left_inj :
    djb2 (front ++ back) = djb2 (other ++ back) ↔ djb2 front = djb2 other := by
  induction back generalizing front other with
  | nil => simp
  | cons byte rest ih =>
    rw [List.append_cons, List.append_cons other, ih, djb2_concat_left_inj]

end Ends

/-! ## The hash as a number -/

/-- The number with the bytes for its digits in base 33, the last one lowest. -/
def weight (bytes : List UInt8) : Nat := Nat.ofDigits 33 (bytes.reverse.map UInt8.toNat)

@[simp] theorem weight_singleton (byte : UInt8) : weight [byte] = byte.toNat := by
  simp [weight]

theorem weight_append (front back : List UInt8) :
    weight (front ++ back) = weight front * 33 ^ back.length + weight back := by
  unfold weight
  rw [List.reverse_append, List.map_append, Nat.ofDigits_append, List.length_map,
    List.length_reverse]
  ring

theorem toNat_djb2_concat (front : List UInt8) (byte : UInt8) :
    (djb2 (front ++ [byte])).toNat ≡ (djb2 front).toNat * 33 + byte.toNat [MOD 2 ^ 64] := by
  rw [djb2_concat, UInt64.toNat_add, UInt64.toNat_mul, UInt8.toNat_toUInt64]
  exact (Nat.mod_modEq _ _).trans ((Nat.mod_modEq _ _).add_right _)

/-- However often its steps wrap around, the hash is the seed and the bytes reduced only once. -/
theorem toNat_djb2 (bytes : List UInt8) :
    (djb2 bytes).toNat = (5381 * 33 ^ bytes.length + weight bytes) % 2 ^ 64 := by
  rw [← Nat.mod_eq_of_lt (djb2 bytes).toNat_lt]
  change _ ≡ _ [MOD 2 ^ 64]
  -- bytes are added at the end, so the string is taken apart from there
  induction bytes using List.reverseRecOn with
  | nil => rfl
  | append_singleton front byte ih =>
    calc
      (djb2 (front ++ [byte])).toNat ≡ (djb2 front).toNat * 33 + byte.toNat [MOD 2 ^ 64] :=
        toNat_djb2_concat front byte
      _ ≡ (5381 * 33 ^ front.length + weight front) * 33 + byte.toNat [MOD 2 ^ 64] :=
        (ih.mul_right 33).add_right _
      _ = 5381 * 33 ^ (front ++ [byte]).length + weight (front ++ [byte]) := by
        rw [weight_append, weight_singleton, List.length_append, List.length_singleton]
        ring

example : (djb2 (bytes "ab")).toNat = 5381 * 33 ^ 2 + 97 * 33 + 98 := by decide

/-- Among byte strings of one length the seed makes no difference. -/
theorem djb2_sub_modEq {name other : List UInt8} (h : name.length = other.length) :
    ((djb2 name).toNat : ℤ) - (djb2 other).toNat ≡ (weight name : ℤ) - weight other
      [ZMOD 2 ^ 64] := by
  rw [toNat_djb2, toNat_djb2, h]
  push_cast
  calc
    _ ≡ (5381 * 33 ^ other.length + weight name : ℤ) - (5381 * 33 ^ other.length + weight other)
        [ZMOD 2 ^ 64] := (Int.mod_modEq _ _).sub (Int.mod_modEq _ _)
    _ = weight name - weight other := by ring

/-! ## One changed byte -/

theorem weight_sub_of_change (front back : List UInt8) (byte changed : UInt8) :
    (weight (front ++ [byte] ++ back) : ℤ) - weight (front ++ [changed] ++ back) =
      ((byte.toNat : ℤ) - changed.toNat) * 33 ^ back.length := by
  simp only [weight_append, weight_singleton, List.length_singleton]
  push_cast
  ring

/--
The hash changes with every single byte, wherever it stands and however long the string is: by the
difference of the two bytes times one factor of 33 for each byte that follows, modulo `2 ^ 64`.
-/
theorem djb2_of_changed_byte (front back : List UInt8) (byte changed : UInt8) :
    (djb2 (front ++ [byte] ++ back) ≠ djb2 (front ++ [changed] ++ back) ↔ byte ≠ changed) ∧
      ((djb2 (front ++ [byte] ++ back)).toNat : ℤ) - (djb2 (front ++ [changed] ++ back)).toNat ≡
        ((byte.toNat : ℤ) - changed.toNat) * 33 ^ back.length [ZMOD 2 ^ 64] := by
  constructor
  · rw [ne_eq, ne_eq, djb2_append_left_inj, djb2_concat_right_inj]
  · have hlength : (front ++ [byte] ++ back).length = (front ++ [changed] ++ back).length := by
      simp only [List.length_append, List.length_singleton]
    rw [← weight_sub_of_change]
    exact djb2_sub_modEq hlength

end Readout.Lock
