import Softnet.Lib.PrefixMaps

/-!
# Address blocks

The addresses of a prefix are the numbers between its network and its broadcast address,
a block of a power of two at a multiple of its size.  Two such blocks are nested or
disjoint (`contains_of_common`), so that blocks of which neither contains the other share
no address (`disjoint_of_not_containsNet`).
-/

namespace Cidr

section Blocks

variable {w : Nat}

/-- The leading bits of an address, as a number. -/
theorem toNat_and_netmask
    (a : BitVec w)
    (len : Nat) :
    (a &&& netmask w len).toNat = a.toNat / 2 ^ (w - len) * 2 ^ (w - len) := by
  have hshift : a &&& netmask w len = (a >>> (w - len)) <<< (w - len) := by
    apply BitVec.eq_of_getLsbD_eq
    intro i hi
    by_cases hlow : i < w - len
    · simp [netmask, hlow]
    · have hsum : w - len + (i - (w - len)) = i := by omega
      simp [netmask, hlow, hsum, hi]
  rw [hshift, BitVec.toNat_shiftLeft, BitVec.toNat_ushiftRight, Nat.shiftRight_eq_div_pow,
    Nat.shiftLeft_eq, Nat.mod_eq_of_lt]
  exact (Nat.div_mul_le_self _ _).trans_lt a.isLt

theorem toNat_not_netmask
    (w len : Nat) :
    (~~~ netmask w len).toNat = 2 ^ (w - len) - 1 := by
  have hbits : ~~~ netmask w len = BitVec.ofNat w (2 ^ (w - len) - 1) := by
    apply BitVec.eq_of_getLsbD_eq
    intro i hi
    rw [BitVec.getLsbD_ofNat, Nat.testBit_two_pow_sub_one]
    by_cases hlow : i < w - len
    · simp [netmask, hi, hlow]
    · simp [netmask, hi, hlow]
  have hle : 2 ^ (w - len) ≤ 2 ^ w := Nat.pow_le_pow_right (by decide) (Nat.sub_le _ _)
  have hpos : 0 < 2 ^ (w - len) := Nat.two_pow_pos _
  rw [hbits, BitVec.toNat_ofNat, Nat.mod_eq_of_lt (by omega)]

theorem or_not_eq_add
    (a m : BitVec w) :
    a ||| ~~~ m = (a &&& m) + ~~~ m := by
  have hdisjoint : (a &&& m) &&& ~~~ m = 0#w := by
    rw [BitVec.and_assoc]
    simp
  rw [BitVec.add_eq_or_of_and_eq_zero _ _ hdisjoint]
  apply BitVec.eq_of_getLsbD_eq
  intro i hi
  cases h : m[i] <;> simp [h, hi]

namespace Net

/-- The first address of a prefix. -/
def network (n : Net w) : BitVec w :=
  n.addr &&& netmask w n.prefixLen

/-- The last address of a prefix. -/
def broadcast (n : Net w) : BitVec w :=
  n.addr ||| ~~~ netmask w n.prefixLen

/-- The number of addresses of a prefix. -/
def size (n : Net w) : Nat :=
  2 ^ (w - n.prefixLen)

/-- Whether the other prefix lies between the first and the last address. -/
def containsNet (n m : Net w) : Bool :=
  decide (n.network ≤ m.network ∧ m.broadcast ≤ n.broadcast)

variable {n m : Net w}
variable {a b : BitVec w}

theorem size_pos (n : Net w) : 0 < n.size :=
  Nat.two_pow_pos _

theorem toNat_network (n : Net w) : n.network.toNat = n.addr.toNat / n.size * n.size :=
  toNat_and_netmask _ _

theorem toNat_broadcast
    (n : Net w) :
    n.broadcast.toNat = n.addr.toNat / n.size * n.size + (n.size - 1) := by
  have hsize := n.size_pos
  have hwhole : (n.addr.toNat / n.size + 1) * n.size ≤ 2 ^ w := by
    have hdvd : n.size ∣ 2 ^ w := Nat.pow_dvd_pow 2 (Nat.sub_le _ _)
    have hlt : n.addr.toNat / n.size < 2 ^ w / n.size :=
      Nat.div_lt_div_of_lt_of_dvd hdvd n.addr.isLt
    calc (n.addr.toNat / n.size + 1) * n.size
      _ ≤ 2 ^ w / n.size * n.size := Nat.mul_le_mul_right _ hlt
      _ = 2 ^ w := Nat.div_mul_cancel hdvd
  rw [Nat.add_mul, Nat.one_mul] at hwhole
  rw [broadcast, or_not_eq_add, BitVec.toNat_add, toNat_and_netmask, toNat_not_netmask]
  exact Nat.mod_eq_of_lt (by simp only [size] at *; omega)

/-- The addresses of a prefix agree in their leading bits. -/
theorem contains_iff_div :
    n.contains a = true ↔ a.toNat / n.size = n.addr.toNat / n.size := by
  rw [contains, beq_iff_eq, ← BitVec.toNat_inj, toNat_and_netmask, toNat_and_netmask]
  exact Nat.mul_left_inj n.size_pos.ne'

theorem contains_iff_between :
    n.contains a = true ↔ n.network ≤ a ∧ a ≤ n.broadcast := by
  have hsize := n.size_pos
  rw [contains_iff_div, BitVec.le_def, BitVec.le_def, toNat_network, toNat_broadcast,
    Nat.div_eq_iff hsize, Nat.add_sub_assoc hsize]

theorem network_le_broadcast (n : Net w) : n.network ≤ n.broadcast := by
  rw [BitVec.le_def, toNat_network, toNat_broadcast]
  exact Nat.le_add_right _ _

theorem contains_network (n : Net w) : n.contains n.network = true :=
  contains_iff_between.mpr ⟨BitVec.le_refl _, n.network_le_broadcast⟩

theorem contains_broadcast (n : Net w) : n.contains n.broadcast = true :=
  contains_iff_between.mpr ⟨n.network_le_broadcast, BitVec.le_refl _⟩

/-- Containment of the bounds is containment of all addresses. -/
theorem containsNet_iff :
    n.containsNet m = true ↔ ∀ a, m.contains a = true → n.contains a = true := by
  rw [containsNet, decide_eq_true_iff]
  constructor
  · rintro ⟨hnetwork, hbroadcast⟩ a ha
    obtain ⟨hlow, hhigh⟩ := contains_iff_between.mp ha
    exact contains_iff_between.mpr
      ⟨BitVec.le_trans hnetwork hlow, BitVec.le_trans hhigh hbroadcast⟩
  · intro h
    exact ⟨(contains_iff_between.mp (h _ m.contains_network)).1,
      (contains_iff_between.mp (h _ m.contains_broadcast)).2⟩

/-- Of two prefixes with a common address the longer one lies in the shorter one. -/
theorem contains_of_common
    (hlen : n.prefixLen ≤ m.prefixLen)
    (hn : n.contains a = true)
    (hm : m.contains a = true)
    (hb : m.contains b = true) :
    n.contains b = true := by
  have hsize : n.size = m.size * 2 ^ (m.prefixLen - n.prefixLen) := by
    have hle := m.prefixLen_le
    rw [size, size, ← Nat.pow_add]
    congr 1
    omega
  rw [contains_iff_div] at hn hm hb ⊢
  rw [← hn, hsize, ← Nat.div_div_eq_div_mul, ← Nat.div_div_eq_div_mul, hb, hm]

/-- Prefixes of which neither contains the other share no address. -/
theorem disjoint_of_not_containsNet
    (hn : n.containsNet m = false)
    (hm : m.containsNet n = false) :
    ¬ (n.contains a = true ∧ m.contains a = true) := by
  rintro ⟨ha, ha'⟩
  rcases Nat.le_total n.prefixLen m.prefixLen with hlen | hlen
  · have hcontains : n.containsNet m = true :=
      containsNet_iff.mpr fun b hb => contains_of_common hlen ha ha' hb
    simp [hcontains] at hn
  · have hcontains : m.containsNet n = true :=
      containsNet_iff.mpr fun b hb => contains_of_common hlen ha' ha hb
    simp [hcontains] at hm

theorem contains_trunc (n : Net w) (a : BitVec w) : n.trunc.contains a = n.contains a := by
  simp [contains, trunc, BitVec.and_assoc]

theorem contains_addr (n : Net w) : n.contains n.addr = true := by
  simp [contains]

theorem contains_ofAddress : (ofAddress b).contains a = true ↔ a = b := by
  rw [contains_iff_div]
  simp [size, ofAddress, BitVec.toNat_inj]

end Net

end Blocks

end Cidr
