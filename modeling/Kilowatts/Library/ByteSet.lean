import Mathlib.Data.Finset.Filter
import Mathlib.Data.Finset.Range
import Mathlib.Data.Nat.Bitwise

/-!
A byte as a set of indices below eight, and as one of 256 values.
-/

namespace ByteSet

theorem forall_byte {P : UInt8 → Prop} (hall : ∀ number : Fin 256, P (UInt8.ofNat number)) (byte : UInt8) : P byte := by
  have hbyte := hall ⟨byte.toNat, byte.toNat_lt⟩
  rw [UInt8.ofNat_toNat] at hbyte
  exact hbyte

def bit (index : UInt8) : UInt8 := UInt8.ofNat (1 <<< index.toNat)

/-- The byte with the bits below `count`. -/
def below (count : UInt8) : UInt8 := UInt8.ofNat ((1 <<< count.toNat) - 1)

def members (mask : UInt8) : Finset Nat := (Finset.range 8).filter fun index => mask.toNat.testBit index

theorem mem_members {mask : UInt8} {index : Nat} : index ∈ members mask ↔ mask.toNat.testBit index = true := by
  rw [members, Finset.mem_filter, Finset.mem_range]
  refine ⟨And.right, fun hbit => ⟨?_, hbit⟩⟩
  by_contra hlarge
  have hpow : mask.toNat < 2 ^ index :=
    lt_of_lt_of_le mask.toNat_lt (Nat.pow_le_pow_right (by omega) (by omega : 8 ≤ index))
  rw [Nat.testBit_lt_two_pow hpow] at hbit
  exact absurd hbit (by simp)

@[simp] theorem members_zero : members 0 = ∅ := by
  ext index
  simp [mem_members]

theorem toNat_bit {index : UInt8} (hindex : index.toNat < 8) : (bit index).toNat = 2 ^ index.toNat := by
  have hpow : 2 ^ index.toNat < 2 ^ 8 := Nat.pow_lt_pow_right (by omega) hindex
  rw [bit, UInt8.toNat_ofNat', Nat.one_shiftLeft, Nat.mod_eq_of_lt hpow]

theorem members_or_bit {mask index : UInt8} (hindex : index.toNat < 8) :
    members (mask ||| bit index) = insert index.toNat (members mask) := by
  ext other
  rw [mem_members, UInt8.toNat_or, toNat_bit hindex, Nat.testBit_lor, Finset.mem_insert, mem_members,
    Nat.testBit_two_pow]
  simp only [Bool.or_eq_true, decide_eq_true_eq]
  tauto

theorem and_bit_ne_zero_iff {mask index : UInt8} (hindex : index.toNat < 8) :
    mask &&& bit index ≠ 0 ↔ index.toNat ∈ members mask := by
  rw [mem_members, ne_eq, ← UInt8.toNat_inj, UInt8.toNat_and, toNat_bit hindex, UInt8.toNat_zero]
  constructor
  · intro hne
    by_contra hbit
    apply hne
    apply Nat.eq_of_testBit_eq
    intro other
    rw [Nat.testBit_land, Nat.testBit_two_pow, Nat.zero_testBit]
    by_cases hsame : index.toNat = other
    · rw [← hsame, Bool.eq_false_iff.mpr hbit, Bool.false_and]
    · simp [hsame]
  · intro hbit hzero
    have hboth := congrArg (fun mask => mask.testBit index.toNat) hzero
    simp [hbit] at hboth

theorem members_below {count : UInt8} (hcount : count.toNat ≤ 8) : members (below count) = Finset.range count.toNat := by
  have hpow : 2 ^ count.toNat ≤ 2 ^ 8 := Nat.pow_le_pow_right (by omega) hcount
  have hvalue : (below count).toNat = 2 ^ count.toNat - 1 := by
    rw [below, UInt8.toNat_ofNat', Nat.one_shiftLeft, Nat.mod_eq_of_lt (by omega)]
  ext index
  rw [mem_members, hvalue, Nat.testBit_two_pow_sub_one, Finset.mem_range, decide_eq_true_eq]

/-- Bytes with the same members are the same byte. -/
theorem members_injective : Function.Injective members := by
  intro first second hsame
  apply UInt8.toNat_inj.mp
  apply Nat.eq_of_testBit_eq
  intro index
  have hmembers := Finset.ext_iff.mp hsame index
  rw [mem_members, mem_members] at hmembers
  exact Bool.eq_iff_iff.mpr hmembers

end ByteSet
