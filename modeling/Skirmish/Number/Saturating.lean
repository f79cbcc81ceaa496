/-!
# Saturating arithmetic

Integers of the battle are 64-bit words. Sums and products that leave the range stop at its ends.
Each operation is the exact result in `Int`, clamped; inside the range it is the exact result.
-/

namespace Skirmish.Saturating

/-- The sum, stopped at the ends of the range. -/
def add (a b : Int64) : Int64 :=
  .ofIntClamp (a.toInt + b.toInt)

/-- The difference, stopped at the ends of the range. -/
def sub (a b : Int64) : Int64 :=
  .ofIntClamp (a.toInt - b.toInt)

/-- The product, stopped at the ends of the range. -/
def mul (a b : Int64) : Int64 :=
  .ofIntClamp (a.toInt * b.toInt)

/-- The opposite; only the least word has none and gives the greatest. -/
def neg (a : Int64) : Int64 :=
  .ofIntClamp (-a.toInt)

/-- The word nearest to an integer. -/
def toInt32 (n : Int64) : Int32 :=
  .ofIntClamp n.toInt

/-- An unsigned word as a signed one, stopped at the greatest. -/
def ofUInt64 (n : UInt64) : Int64 :=
  .ofIntClamp n.toNat

/-- A signed word as an unsigned one, negative words as zero. -/
def toUInt64 (n : Int64) : UInt64 :=
  n.toInt.toNat.toUInt64

/-- The next counter value, stopped at the greatest word. -/
def next (n : UInt64) : UInt64 :=
  if n = UInt64.ofNat (UInt64.size - 1) then n else n + 1

theorem le_next (n : UInt64) : n ≤ next n := by
  rw [next]
  split
  · exact UInt64.le_refl n
  · next h =>
    have hne : n.toNat ≠ UInt64.size - 1 := fun hn => h (UInt64.toNat_inj.1 (hn.trans rfl))
    have hlt := n.toNat_lt
    rw [UInt64.le_iff_toNat_le, UInt64.toNat_add]
    simp only [UInt64.size] at hne
    simp
    omega

theorem toInt_min (a b : Int64) : (min a b).toInt = min a.toInt b.toInt := by
  simp only [Min.min, Int64.le_iff_toInt_le]
  split <;> simp_all

theorem toInt_max (a b : Int64) : (max a b).toInt = max a.toInt b.toInt := by
  simp only [Max.max, Int64.le_iff_toInt_le]
  split <;> simp_all

/-! ## Results in the range -/

theorem toInt_ofIntClamp (x : Int) :
    (Int64.ofIntClamp x).toInt = max (-9223372036854775808) (min x 9223372036854775807) := by
  have hmin : Int64.minValue.toInt = -9223372036854775808 := rfl
  have hmax : Int64.maxValue.toInt = 9223372036854775807 := rfl
  unfold Int64.ofIntClamp
  split
  · split
    · rw [Int64.toInt_ofIntLE]
      omega
    · omega
  · omega

theorem toInt_add (a b : Int64) :
    (add a b).toInt = max (-9223372036854775808) (min (a.toInt + b.toInt) 9223372036854775807) :=
  toInt_ofIntClamp _

theorem toInt_sub (a b : Int64) :
    (sub a b).toInt = max (-9223372036854775808) (min (a.toInt - b.toInt) 9223372036854775807) :=
  toInt_ofIntClamp _

/-- Where the difference is a word, plain subtraction gives it as well. -/
theorem toInt_sub_of_fits {a b : Int64} (hlow : -9223372036854775808 ≤ a.toInt - b.toInt)
    (hhigh : a.toInt - b.toInt ≤ 9223372036854775807) : (a - b).toInt = a.toInt - b.toInt := by
  rw [Int64.toInt_sub]
  exact Int.bmod_eq_of_le (by omega) (by omega)

end Skirmish.Saturating
