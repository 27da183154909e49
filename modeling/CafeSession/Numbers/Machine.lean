import Mathlib.Algebra.Order.Ring.Int

namespace CafeSession.Numbers

/-- What a compiler makes of a signed operation whose result does not fit. -/
inductive Overflow where
  | undefined
  | wraps
deriving DecidableEq, Repr

/-- The result of a signed operation in words of so many bits. -/
def signed (overflow : Overflow) (bits : Nat) (value : Int) : Option Int :=
  match overflow with
  | .undefined => if value.bmod (2 ^ bits) = value then some value else none
  | .wraps => some (value.bmod (2 ^ bits))

variable {bits : Nat} {value : Int}

theorem bmod_eq_self_iff (positive : 0 < bits) (nonnegative : 0 ≤ value) :
    value.bmod (2 ^ bits) = value ↔ value < 2 ^ (bits - 1) := by
  obtain ⟨width, rfl⟩ : ∃ width, bits = width + 1 := ⟨bits - 1, by omega⟩
  have half : ((2 ^ (width + 1) : Nat) : Int) = 2 * 2 ^ width := by
    rw [Nat.pow_succ, Int.natCast_mul, Int.natCast_pow]
    exact Int.mul_comm _ _
  rw [Int.bmod_eq_iff (Nat.two_pow_pos _), half, Int.sub_self, Nat.add_sub_cancel]
  constructor
  · intro ⟨_, below, _⟩
    omega
  · intro below
    exact ⟨by omega, by omega, Int.dvd_zero _⟩

theorem signed_undefined_eq_some (positive : 0 < bits) (nonnegative : 0 ≤ value) {result : Int} :
    signed .undefined bits value = some result ↔ result = value ∧ value < 2 ^ (bits - 1) := by
  have fits := bmod_eq_self_iff positive nonnegative
  simp only [signed]
  split_ifs with same
  · rw [Option.some.injEq, and_iff_left (fits.mp same)]
    exact eq_comm
  · exact iff_of_false nofun fun found => same (fits.mpr found.2)

/-- Where it fits, a result is what it is in any case. -/
theorem signed_of_lt (overflow : Overflow) (positive : 0 < bits) (nonnegative : 0 ≤ value)
    (below : value < 2 ^ (bits - 1)) : signed overflow bits value = some value := by
  have same := (bmod_eq_self_iff positive nonnegative).mpr below
  cases overflow with
  | undefined => exact if_pos same
  | wraps => exact congrArg some same

theorem toNat_ofInt (value : Int) : ((UInt32.ofInt value).toNat : Int) = value % 2 ^ 32 := by
  have nonnegative : 0 ≤ value % 2 ^ 32 := Int.emod_nonneg value (by decide)
  have below : value % 2 ^ 32 < 2 ^ 32 := Int.emod_lt_of_pos value (by decide)
  rw [UInt32.ofInt, UInt32.toNat_ofNat', Nat.mod_eq_of_lt (by omega)]
  exact Int.toNat_of_nonneg nonnegative

/-- The low bits do not depend on whether a wider result went round. -/
theorem ofInt_bmod (wide : 32 ≤ bits) (value : Int) :
    UInt32.ofInt (value.bmod (2 ^ bits)) = UInt32.ofInt value := by
  have divides : ((2 ^ 32 : Nat) : Int) ∣ ((2 ^ bits : Nat) : Int) :=
    Int.natCast_dvd_natCast.mpr (Nat.pow_dvd_pow 2 wide)
  have same : value.bmod (2 ^ bits) % ((2 ^ 32 : Nat) : Int) = value % ((2 ^ 32 : Nat) : Int) := by
    rw [← Int.emod_emod_of_dvd _ divides, Int.bmod_emod, Int.emod_emod_of_dvd _ divides]
  exact congrArg (fun low => UInt32.ofNat low.toNat) same

theorem ofInt_exact_iff (nonnegative : 0 ≤ value) :
    ((UInt32.ofInt value).toNat : Int) = value ↔ value < 2 ^ 32 := by
  rw [toNat_ofInt]
  omega

/-- The word of a signed high half and an unsigned low half, each widened first. -/
def join (high : Int32) (low : UInt32) : Int64 :=
  (high.toInt64.toUInt64 <<< 32 ||| low.toUInt64).toInt64

def highHalf (word : Int64) : Int32 := (word.toUInt64 >>> 32).toUInt32.toInt32

def lowHalf (word : Int64) : UInt32 := word.toUInt64.toUInt32

/-- The shift drops what the sign of the high half was extended to. -/
theorem join_bits (word : BitVec 64) :
    (BitVec.setWidth 32 (word >>> 32)).signExtend 64 <<< 32 |||
        (BitVec.setWidth 32 word).setWidth 64 = word := by
  apply BitVec.eq_of_getLsbD_eq
  intro index inside
  rw [BitVec.getLsbD_or, BitVec.getLsbD_shiftLeft]
  by_cases low : index < 32
  · simp [low, inside]
  · have high : index - 32 < 32 := by omega
    have back : 32 + (index - 32) = index := by omega
    have short : index - 32 < 64 := by omega
    simp [low, inside, high, short, BitVec.getElem_signExtend, back]

theorem join_halves (word : Int64) : join (highHalf word) (lowHalf word) = word := by
  apply Int64.toBitVec_inj.mp
  exact join_bits word.toBitVec

end CafeSession.Numbers
