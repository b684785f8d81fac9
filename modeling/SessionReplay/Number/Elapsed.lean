/-!
# Time between two readings of a clock

A clock is read in milliseconds, as a number of 64 bits with a sign, and the time between two readings is
such a number too (`elapsed_toInt`). A difference that does not fit is wrapped around, so of two readings
that lie `2 ^ 63` milliseconds apart the later one seems to come long before the other. A build that checks
for overflow breaks off there instead.
-/

namespace SessionReplay

/-- The time from one reading of a clock to another, in 64 bits. -/
def elapsed (since now : Int) : Int := (now - since).bmod UInt64.size

/-- The time between two readings is the difference of numbers of 64 bits. -/
theorem elapsed_toInt (since now : Int64) : elapsed since.toInt now.toInt = (now - since).toInt :=
  (Int64.toInt_sub now since).symm

/-- The time from one reading of a clock to another fits in 64 bits. -/
def InReach (since now : Int) : Prop :=
  Int64.minValue.toInt ≤ now - since ∧ now - since ≤ Int64.maxValue.toInt

instance (since now : Int) : Decidable (InReach since now) := inferInstanceAs (Decidable (_ ∧ _))

/-- Time that fits is not wrapped around. -/
theorem elapsed_of_inReach {since now : Int} (h : InReach since now) : elapsed since now = now - since := by
  obtain ⟨hlow, hhigh⟩ := h
  have hbelow : now - since < (UInt64.size + 1) / 2 := Int.lt_of_le_of_lt hhigh (by decide)
  exact Int.bmod_eq_of_le hlow hbelow

end SessionReplay
