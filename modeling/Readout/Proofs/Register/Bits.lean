import Mathlib.Data.Nat.Init
import Readout.Register.Field

/-!
Fields of a word bit by bit. A field covers the bits from its position on, as many as it is wide; a
word in which the field is replaced has the value's bits there and its own bits everywhere else.
-/

namespace Readout.Register

/-! ## Words as bits -/

/-- A word is known by its bits. -/
theorem eq_of_testBit {word other : UInt32}
    (h : ∀ bit < 32, word.toNat.testBit bit = other.toNat.testBit bit) : word = other := by
  apply UInt32.eq_of_toBitVec_eq
  apply BitVec.eq_of_getLsbD_eq
  intro bit hbit
  rw [← BitVec.testBit_toNat, ← BitVec.testBit_toNat]
  exact h bit hbit

theorem testBit_not (word : UInt32) {bit : Nat} (h : bit < 32) :
    (~~~word).toNat.testBit bit = !word.toNat.testBit bit := by
  rw [← UInt32.toNat_toBitVec, UInt32.toBitVec_not, BitVec.testBit_toNat, BitVec.getLsbD_not,
    ← BitVec.testBit_toNat, UInt32.toNat_toBitVec, decide_eq_true h, Bool.true_and]

theorem testBit_shiftLeft {amount : UInt32} (ha : amount < 32) (word : UInt32) {bit : Nat}
    (h : bit < 32) : (word <<< amount).toNat.testBit bit =
      (decide (amount.toNat ≤ bit) && word.toNat.testBit (bit - amount.toNat)) := by
  have hamount : amount.toNat % 32 = amount.toNat := Nat.mod_eq_of_lt (UInt32.lt_iff_toNat_lt.mp ha)
  rw [UInt32.toNat_shiftLeft, hamount, Nat.testBit_mod_two_pow, Nat.testBit_shiftLeft,
    decide_eq_true h, Bool.true_and]

/-- Every bit is taken from the one word or from the other. -/
theorem testBit_blend (word other mask : UInt32) {bit : Nat} (h : bit < 32) :
    ((word &&& ~~~mask) ||| (other &&& mask)).toNat.testBit bit =
      if mask.toNat.testBit bit then other.toNat.testBit bit else word.toNat.testBit bit := by
  rw [UInt32.toNat_or, Nat.testBit_or, UInt32.toNat_and, Nat.testBit_and, UInt32.toNat_and,
    Nat.testBit_and, testBit_not mask h]
  cases mask.toNat.testBit bit <;> simp

section Ones

variable {width : UInt32} (h : width < 32)

include h

theorem toNat_power : ((1 : UInt32) <<< width).toNat = 1 <<< width.toNat := by
  have hwidth : width.toNat < 32 := UInt32.lt_iff_toNat_lt.mp h
  have hlt : 1 <<< width.toNat < 2 ^ 32 := by
    rw [Nat.one_shiftLeft]
    exact Nat.pow_lt_pow_right (by decide) hwidth
  rw [UInt32.toNat_shiftLeft, Nat.mod_eq_of_lt hwidth, UInt32.toNat_one, Nat.mod_eq_of_lt hlt]

theorem one_le_power : 1 ≤ (1 : UInt32) <<< width := by
  rw [UInt32.le_iff_toNat_le, toNat_power h, Nat.one_shiftLeft]
  exact Nat.one_le_two_pow

/-- The `width` lowest bits are set and no others. -/
theorem testBit_ones (bit : Nat) :
    ((1 : UInt32) <<< width - 1).toNat.testBit bit = decide (bit < width.toNat) := by
  rw [UInt32.toNat_sub_of_le _ _ (one_le_power h), toNat_power h, Nat.one_shiftLeft]
  exact Nat.testBit_two_pow_sub_one _ _

end Ones

/-- A left shift that is refused when it would move every bit out of the word. -/
def shiftLeft? (word amount : UInt32) : Option UInt32 :=
  if amount < 32 then some (word <<< amount) else none

/-- The difference, where it is a number. -/
def minus? (word other : UInt32) : Option UInt32 :=
  if other ≤ word then some (word - other) else none

/-! ## What a field covers -/

namespace Field

/-- The bits that belong to the field; those beyond bit 31 are bits of no word. -/
def Covers (field : Field) (bit : Nat) : Prop :=
  field.position.toNat ≤ bit ∧ bit < field.position.toNat + field.width.toNat

instance (field : Field) (bit : Nat) : Decidable (field.Covers bit) :=
  inferInstanceAs (Decidable (_ ∧ _))

theorem testBit_mask (field : Field) {bit : Nat} (h : bit < 32) :
    field.mask.toNat.testBit bit = decide (field.Covers bit) := by
  unfold mask
  split
  next hnone =>
    -- an empty field, or one that lies beyond the word
    have hnot : ¬ field.Covers bit := by
      rintro ⟨hfrom, hto⟩
      rcases hnone with hwidth | hposition
      · rw [hwidth] at hto
        exact absurd hto (Nat.not_lt.mpr hfrom)
      · rw [UInt32.le_iff_toNat_le] at hposition
        exact absurd (Nat.le_trans hposition hfrom) (Nat.not_le.mpr h)
    rw [decide_eq_false hnot]
    exact Nat.zero_testBit bit
  next hsome =>
    have hposition : field.position < 32 := UInt32.not_le.mp fun hle => hsome (.inr hle)
    split
    next hwide =>
      rw [UInt32.le_iff_toNat_le] at hwide
      have hones : (0xffffffff : UInt32).toNat = 2 ^ 32 - 1 := by decide
      have hlow : bit - field.position.toNat < 32 := Nat.lt_of_le_of_lt (Nat.sub_le _ _) h
      rw [testBit_shiftLeft hposition _ h, hones, Nat.testBit_two_pow_sub_one, decide_eq_true hlow,
        Bool.and_true]
      apply decide_eq_decide.mpr
      unfold Covers
      change 32 ≤ _ at hwide
      omega
    next hnarrow =>
      rw [testBit_shiftLeft hposition _ h, testBit_ones (UInt32.not_le.mp hnarrow), ← Bool.decide_and]
      apply decide_eq_decide.mpr
      unfold Covers
      omega

theorem testBit_insert (field : Field) (word value : UInt32) {bit : Nat} (h : bit < 32) :
    (field.insert word value).toNat.testBit bit =
      if field.Covers bit then value.toNat.testBit (bit - field.position.toNat)
      else word.toNat.testBit bit := by
  rw [insert, testBit_blend _ _ _ h, testBit_mask field h]
  by_cases hcovers : field.Covers bit
  · have hposition : field.position < 32 :=
      UInt32.lt_iff_toNat_lt.mpr (Nat.lt_of_le_of_lt hcovers.1 h)
    rw [if_pos (decide_eq_true hcovers), if_pos hcovers, testBit_shiftLeft hposition _ h,
      decide_eq_true hcovers.1, Bool.true_and]
  · rw [if_neg (by simpa using hcovers), if_neg hcovers]

/-- The word put together bit by bit: the field's from the low end of the value, the others its own. -/
def replaced (field : Field) (word value : UInt32) : UInt32 :=
  UInt32.ofNat (Nat.ofBits fun bit : Fin 32 =>
    if field.Covers bit then value.toNat.testBit (bit - field.position.toNat)
    else word.toNat.testBit bit)

theorem testBit_replaced (field : Field) (word value : UInt32) {bit : Nat} (h : bit < 32) :
    (field.replaced word value).toNat.testBit bit =
      if field.Covers bit then value.toNat.testBit (bit - field.position.toNat)
      else word.toNat.testBit bit := by
  rw [replaced, UInt32.toNat_ofNat_of_lt' (Nat.ofBits_lt_two_pow _)]
  exact Nat.testBit_ofBits_lt _ bit h

theorem insert_eq_replaced (field : Field) (word value : UInt32) :
    field.insert word value = field.replaced word value := by
  apply eq_of_testBit
  intro bit hbit
  rw [testBit_insert field word value hbit, testBit_replaced field word value hbit]

/-- No bit of a word is in both fields. -/
def Disjoint (field other : Field) : Prop := ∀ bit < 32, field.Covers bit → ¬ other.Covers bit

instance (field other : Field) : Decidable (field.Disjoint other) :=
  inferInstanceAs (Decidable (∀ bit < 32, field.Covers bit → ¬ other.Covers bit))

theorem Disjoint.insert_comm {field other : Field} (h : field.Disjoint other)
    (word value more : UInt32) :
    other.insert (field.insert word value) more = field.insert (other.insert word more) value := by
  apply eq_of_testBit
  intro bit hbit
  rw [testBit_insert _ _ _ hbit, testBit_insert _ _ _ hbit, testBit_insert _ _ _ hbit,
    testBit_insert _ _ _ hbit]
  by_cases hfield : field.Covers bit
  · rw [if_neg (h bit hbit hfield), if_pos hfield, if_pos hfield]
  · rw [if_neg hfield, if_neg hfield]

theorem insert_insert (field : Field) (word value more : UInt32) :
    field.insert (field.insert word value) more = field.insert word more := by
  apply eq_of_testBit
  intro bit hbit
  rw [testBit_insert _ _ _ hbit, testBit_insert _ _ _ hbit, testBit_insert _ _ _ hbit]
  by_cases hfield : field.Covers bit
  · rw [if_pos hfield, if_pos hfield]
  · rw [if_neg hfield, if_neg hfield, if_neg hfield]

/-! ## Operations that may be refused -/

/-- The mask by operations that may be refused; only the last shift is meant to go round. -/
def mask? (field : Field) : Option UInt32 :=
  if field.width = 0 ∨ 32 ≤ field.position then some 0
  else if 32 ≤ field.width then shiftLeft? 0xffffffff field.position
  else do
    let power ← shiftLeft? 1 field.width
    let ones ← minus? power 1
    return ones <<< field.position

/-- The insertion by operations that may be refused; the value's shift is meant to go round. -/
def insert? (field : Field) (word value : UInt32) : Option UInt32 := do
  let mask ← field.mask?
  return (word &&& ~~~mask) ||| ((value <<< field.position) &&& mask)

theorem mask?_eq (field : Field) : field.mask? = some field.mask := by
  unfold mask? mask
  split
  next => rfl
  next hsome =>
    split
    next =>
      have hposition : field.position < 32 := UInt32.not_le.mp fun hle => hsome (.inr hle)
      rw [shiftLeft?, if_pos hposition]
    next hnarrow =>
      have hwidth : field.width < 32 := UInt32.not_le.mp hnarrow
      rw [shiftLeft?, if_pos hwidth, Option.bind_eq_bind, Option.bind_some, minus?,
        if_pos (one_le_power hwidth)]
      rfl

theorem insert?_eq (field : Field) (word value : UInt32) :
    field.insert? word value = some (field.insert word value) := by
  rw [insert?, mask?_eq]
  rfl

/--
Every bit of a word in which a field is replaced is known, wherever the field lies: those that it
covers are the lowest of the value, in their order, and the others are the word's. No operation on
the way to it is refused. So where two fields share no bit their order does not matter, and of two
values for one field the second one stays.
-/
theorem bits_of_insert (field : Field) (word value : UInt32) :
    (∀ bit < 32, (field.insert word value).toNat.testBit bit =
      if field.position.toNat ≤ bit ∧ bit < field.position.toNat + field.width.toNat then
        value.toNat.testBit (bit - field.position.toNat)
      else word.toNat.testBit bit) ∧
    field.insert? word value = some (field.insert word value) ∧
    (∀ other : Field, field.Disjoint other → ∀ more,
      other.insert (field.insert word value) more =
        field.insert (other.insert word more) value) ∧
    ∀ more, field.insert (field.insert word value) more = field.insert word more := by
  refine ⟨?_, insert?_eq field word value, ?_, insert_insert field word value⟩
  · intro bit hbit
    exact testBit_insert field word value hbit
  · intro other hdisjoint more
    exact Disjoint.insert_comm hdisjoint word value more

/-- A field that hangs over the end of the word, and one far below it. -/
theorem bits_of_insert_overhanging :
    Disjoint ⟨28, 8⟩ ⟨4, 4⟩ ∧
      insert ⟨4, 4⟩ (insert ⟨28, 8⟩ 0x01234567 0xab) 0xcd =
        insert ⟨28, 8⟩ (insert ⟨4, 4⟩ 0x01234567 0xcd) 0xab := by
  have hdisjoint : Disjoint ⟨28, 8⟩ ⟨4, 4⟩ := by decide
  obtain ⟨-, -, hcommute, -⟩ := bits_of_insert ⟨28, 8⟩ 0x01234567 0xab
  exact ⟨hdisjoint, hcommute ⟨4, 4⟩ hdisjoint 0xcd⟩

/-- The end of a field is no number modulo `2 ^ 32`, so this one covers no bit of a word. -/
example : insert ⟨0xfffffff0, 32⟩ 0x01234567 0xffffffff = 0x01234567 := by decide

end Field

end Readout.Register
