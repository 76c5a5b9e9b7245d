import Mathlib.Algebra.Order.Ring.Int

namespace Pogocache

/-- Bits dropped when `n` is rounded to a 53-bit significand: the least `s` with
`n < 2 ^ (53 + s)`. The search is structural, so concrete values reduce. -/
def droppedBits (n : Nat) : Nat := go 0 n
where
  go (s : Nat) : Nat → Nat
    | 0 => s
    | fuel + 1 => if n < 2 ^ (53 + s) then s else go (s + 1) fuel

/-- The binary64 value nearest `n`, ties to even: every `double` of the planner is an integer
product scaled by a power of two, far from overflow and subnormals. -/
def roundDouble (n : Nat) : Nat :=
  let s := droppedBits n
  (if 2 ^ s < 2 * (n % 2 ^ s) ∨ (2 * (n % 2 ^ s) = 2 ^ s ∧ n / 2 ^ s % 2 = 1) then
    n / 2 ^ s + 1 else n / 2 ^ s) * 2 ^ s

theorem droppedBits_go (n : Nat) : ∀ fuel s, (s = 0 ∨ 2 ^ (52 + s) ≤ n) →
    n < 2 ^ (53 + s + fuel) →
    n < 2 ^ (53 + droppedBits.go n s fuel) ∧
      (droppedBits.go n s fuel = 0 ∨ 2 ^ (52 + droppedBits.go n s fuel) ≤ n)
  | 0, s, hlow, hhigh => ⟨hhigh, hlow⟩
  | fuel + 1, s, hlow, hhigh => by
    unfold droppedBits.go
    split
    · exact ⟨‹_›, hlow⟩
    · rename_i hn
      refine droppedBits_go n fuel (s + 1) (.inr ?_) ?_
      · rw [show 52 + (s + 1) = 53 + s by omega]; omega
      · rwa [show 53 + (s + 1) + fuel = 53 + s + (fuel + 1) by omega]

/-- `n` has at most `53 + droppedBits n` bits, and exactly that many unless none are dropped. -/
theorem droppedBits_spec (n : Nat) :
    n < 2 ^ (53 + droppedBits n) ∧ (droppedBits n = 0 ∨ 2 ^ (52 + droppedBits n) ≤ n) :=
  droppedBits_go n n 0 (.inl rfl)
    (Nat.lt_of_lt_of_le (Nat.lt_two_pow n) (Nat.pow_le_pow_right (by decide) (by omega)))

theorem droppedBits_le {n j : Nat} (h : n < 2 ^ (53 + j)) : droppedBits n ≤ j := by
  obtain ⟨-, hlow⟩ := droppedBits_spec n
  refine Nat.le_of_not_lt fun hj => ?_
  have : 2 ^ (53 + j) ≤ 2 ^ (52 + droppedBits n) := Nat.pow_le_pow_right (by decide) (by omega)
  omega

theorem droppedBits_mono {n m : Nat} (h : n ≤ m) : droppedBits n ≤ droppedBits m :=
  droppedBits_le (Nat.lt_of_le_of_lt h (droppedBits_spec m).1)

theorem roundDouble_le_top (n : Nat) : roundDouble n ≤ 2 ^ (53 + droppedBits n) := by
  have hq : n / 2 ^ droppedBits n < 2 ^ 53 := by
    rw [Nat.div_lt_iff_lt_mul (Nat.two_pow_pos _), ← Nat.pow_add]
    exact (droppedBits_spec n).1
  rw [Nat.pow_add]
  unfold roundDouble
  exact Nat.mul_le_mul_right _ (by split <;> omega)

theorem bottom_le_roundDouble {n : Nat} (hs : droppedBits n ≠ 0) :
    2 ^ (52 + droppedBits n) ≤ roundDouble n := by
  have hn := (droppedBits_spec n).2.resolve_left hs
  have hq : 2 ^ 52 ≤ n / 2 ^ droppedBits n := by
    rw [Nat.le_div_iff_mul_le (Nat.two_pow_pos _), ← Nat.pow_add]
    exact hn
  rw [Nat.pow_add]
  unfold roundDouble
  exact Nat.mul_le_mul_right _ (by split <;> omega)

theorem roundDouble_mono_same {n m : Nat} (h : n ≤ m) (hs : droppedBits n = droppedBits m) :
    roundDouble n ≤ roundDouble m := by
  unfold roundDouble
  rw [← hs]
  generalize droppedBits n = s
  apply Nat.mul_le_mul_right
  have hq : n / 2 ^ s ≤ m / 2 ^ s := Nat.div_le_div_right h
  have hn := Nat.div_add_mod n (2 ^ s)
  have hm := Nat.div_add_mod m (2 ^ s)
  have hr := Nat.mod_lt m (Nat.two_pow_pos s)
  have hsame : n / 2 ^ s = m / 2 ^ s → n % 2 ^ s ≤ m % 2 ^ s := by
    intro he
    rw [he] at hn
    omega
  split <;> split <;> omega

/-- Rounding to the nearest `double` is monotone. -/
theorem roundDouble_mono {n m : Nat} (h : n ≤ m) : roundDouble n ≤ roundDouble m := by
  rcases Nat.eq_or_lt_of_le (droppedBits_mono h) with he | hlt
  · exact roundDouble_mono_same h he
  · calc roundDouble n ≤ 2 ^ (53 + droppedBits n) := roundDouble_le_top n
      _ ≤ 2 ^ (52 + droppedBits m) := Nat.pow_le_pow_right (by decide) (by omega)
      _ ≤ roundDouble m := bottom_le_roundDouble (by omega)

theorem roundDouble_of_dvd {n : Nat} (h : 2 ^ droppedBits n ∣ n) : roundDouble n = n := by
  have hr := Nat.mod_eq_zero_of_dvd h
  have hp := Nat.two_pow_pos (droppedBits n)
  dsimp only [roundDouble]
  rw [if_neg (by omega)]
  exact Nat.div_mul_cancel h

/-- A multiple of a power of two with a 53-bit cofactor is a `double`. -/
theorem roundDouble_mul_pow {k : Nat} (j : Nat) (hk : k < 2 ^ 53) :
    roundDouble (k * 2 ^ j) = k * 2 ^ j := by
  have hs : droppedBits (k * 2 ^ j) ≤ j := by
    apply droppedBits_le
    rw [Nat.pow_add]
    exact Nat.mul_lt_mul_of_pos_right hk (Nat.two_pow_pos j)
  exact roundDouble_of_dvd (Nat.dvd_trans (Nat.pow_dvd_pow 2 hs) (Nat.dvd_mul_left _ _))

@[simp] theorem roundDouble_of_lt {n : Nat} (h : n < 2 ^ 53) : roundDouble n = n := by
  simpa using roundDouble_mul_pow 0 h

theorem le_roundDouble {a n : Nat} (h : a ≤ n) (ha : a < 2 ^ 53) : a ≤ roundDouble n :=
  roundDouble_of_lt ha ▸ roundDouble_mono h

/-- Below `2 ^ 53 - 1` comparing with the rounded `n` is comparing with `n`. -/
theorem lt_roundDouble_iff {a n : Nat} (ha : a + 1 < 2 ^ 53) : a < roundDouble n ↔ a < n :=
  ⟨fun h => Nat.lt_of_not_le fun hn =>
      Nat.not_le_of_lt h (roundDouble_of_lt (by omega : a < 2 ^ 53) ▸ roundDouble_mono hn),
    fun h => le_roundDouble h ha⟩

/-- Rounding to nearest moves `n` by at most half a unit in the last place. -/
theorem roundDouble_half_ulp (n : Nat) :
    2 * roundDouble n ≤ 2 * n + 2 ^ droppedBits n ∧
      2 * n ≤ 2 * roundDouble n + 2 ^ droppedBits n := by
  dsimp only [roundDouble]
  have hd := Nat.div_add_mod n (2 ^ droppedBits n)
  have hr := Nat.mod_lt n (Nat.two_pow_pos (droppedBits n))
  generalize 2 ^ droppedBits n = P at hd hr ⊢
  generalize n / P = q at hd ⊢
  generalize n % P = r at hd hr ⊢
  split
  · rw [Nat.add_mul, Nat.one_mul, Nat.mul_comm q P]
    omega
  · rw [Nat.mul_comm q P]
    omega

/-- Rounding moves `n` by at most `n / 2 ^ 53`: a unit in the last place is at most
`n / 2 ^ 52`. -/
theorem roundDouble_near (n : Nat) :
    roundDouble n ≤ n + n / 2 ^ 53 ∧ n ≤ roundDouble n + n / 2 ^ 53 := by
  have hh := roundDouble_half_ulp n
  rcases Nat.eq_zero_or_pos (droppedBits n) with hs | hs
  · rw [hs, pow_zero] at hh
    omega
  · obtain ⟨t, ht⟩ : ∃ t, droppedBits n = t + 1 := ⟨droppedBits n - 1, by omega⟩
    have hlow := (droppedBits_spec n).2.resolve_left (by omega)
    rw [ht, show 52 + (t + 1) = t + 53 by omega, Nat.pow_add] at hlow
    have hq : 2 ^ t ≤ n / 2 ^ 53 := (Nat.le_div_iff_mul_le (Nat.two_pow_pos 53)).2 hlow
    rw [ht, Nat.pow_succ] at hh
    omega

/-- A `double` `k * 2 ^ e` less than half a unit in the last place above `n`, or at most
`n`, is at most where `n` rounds to. -/
theorem le_roundDouble_of_near {n k e : Nat} (hk : k < 2 ^ 53) (hn : n < 2 ^ (53 + e))
    (hnear : 2 * (k * 2 ^ e - n) * 2 ^ 53 ≤ n) : k * 2 ^ e ≤ roundDouble n := by
  by_cases hle : k * 2 ^ e ≤ n
  · exact roundDouble_mul_pow e hk ▸ roundDouble_mono hle
  have hlt : n < k * 2 ^ e := Nat.lt_of_not_le hle
  have hs := droppedBits_le hn
  have htop := (droppedBits_spec n).1
  obtain ⟨t, ht⟩ : ∃ t, k * 2 ^ e = t * 2 ^ droppedBits n :=
    ⟨k * 2 ^ (e - droppedBits n), by rw [Nat.mul_assoc, ← Nat.pow_add, Nat.sub_add_cancel hs]⟩
  rw [ht] at hlt hnear ⊢
  rw [Nat.pow_add] at htop
  dsimp only [roundDouble]
  have hd := Nat.div_add_mod n (2 ^ droppedBits n)
  have hr := Nat.mod_lt n (Nat.two_pow_pos (droppedBits n))
  generalize 2 ^ droppedBits n = P at hd hr hlt hnear htop ⊢
  generalize n / P = q at hd ⊢
  generalize n % P = r at hd hr ⊢
  -- `t * P` is the multiple of `P` just above `n = P * q + r`, closer than `P / 2`
  have h1 : q * P < t * P := by
    rw [Nat.mul_comm q]
    omega
  have h2 : t * P < (q + 2) * P := by
    rw [Nat.add_mul, Nat.mul_comm q]
    omega
  obtain rfl : t = q + 1 := by
    have := Nat.lt_of_mul_lt_mul_right h1
    have := Nat.lt_of_mul_lt_mul_right h2
    omega
  rw [if_pos (.inl (by rw [Nat.add_mul, Nat.one_mul, Nat.mul_comm q] at hnear hlt; omega))]

end Pogocache
