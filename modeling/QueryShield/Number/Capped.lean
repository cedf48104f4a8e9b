namespace QueryShield

def countLimit : Nat := UInt64.size - 1

def capped (n : Nat) : UInt64 := UInt64.ofNat (min n countLimit)

def addCapped (a b : UInt64) : UInt64 := capped (a.toNat + b.toNat)

def mulCapped (a b : UInt64) : UInt64 := capped (a.toNat * b.toNat)

theorem toNat_capped (n : Nat) : (capped n).toNat = min n countLimit := by
  have bound : min n countLimit < UInt64.size := by
    simp only [countLimit, UInt64.size]
    omega
  simp only [capped, UInt64.toNat_ofNat']
  exact Nat.mod_eq_of_lt bound

theorem toNat_addCapped (a b : UInt64) :
    (addCapped a b).toNat = min (a.toNat + b.toNat) countLimit := toNat_capped _

theorem toNat_mulCapped (a b : UInt64) :
    (mulCapped a b).toNat = min (a.toNat * b.toNat) countLimit := toNat_capped _

theorem toNat_le_countLimit (a : UInt64) : a.toNat ≤ countLimit := Nat.le_pred_of_lt a.toNat_lt

theorem zero_addCapped (a : UInt64) : addCapped 0 a = a := by
  have bound := toNat_le_countLimit a
  apply UInt64.toNat_inj.1
  rw [toNat_addCapped, UInt64.toNat_zero, Nat.zero_add, Nat.min_eq_left bound]

theorem toNat_max (a b : UInt64) : (max a b).toNat = max a.toNat b.toNat := by
  by_cases below : a ≤ b
  · rw [show max a b = b from if_pos below, Nat.max_eq_right (UInt64.le_iff_toNat_le.1 below)]
  · rw [show max a b = a from if_neg below]
    rw [UInt64.le_iff_toNat_le] at below
    exact (Nat.max_eq_left (by omega)).symm

theorem zero_max (a : UInt64) : max 0 a = a := by
  apply UInt64.toNat_inj.1
  rw [toNat_max, UInt64.toNat_zero, Nat.zero_max]

end QueryShield
