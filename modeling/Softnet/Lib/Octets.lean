import Mathlib.Algebra.Order.Ring.Nat
import Mathlib.Tactic.Common

/-!
# Octets and the Internet checksum

Numbers in network byte order, readers that cut fields off an octet string, and the
ones' complement checksum over 16-bit words.

* `ofOctets_octets`: a number that fits is read back.
* `cut_append`: a field of known length is cut off.
* `fold_add_complement`: a checksum field that complements the other words makes the whole
  string verify, also when a checksum of zero is written as all ones.
-/

namespace Octets

/-! ## Numbers -/

/-- The last `n` octets of a number, most significant first. -/
def octets : Nat → Nat → List UInt8
  | 0, _ => []
  | n + 1, value => UInt8.ofNat (value / 256 ^ n) :: octets n value

def ofOctets : List UInt8 → Nat
  | [] => 0
  | octet :: rest => octet.toNat * 256 ^ rest.length + ofOctets rest

@[simp] theorem length_octets (n value : Nat) : (octets n value).length = n := by
  induction n with
  | zero => rfl
  | succ n ih => simp [octets, ih]

theorem ofOctets_octets_mod (n value : Nat) : ofOctets (octets n value) = value % 256 ^ n := by
  induction n with
  | zero =>
      simp [octets, ofOctets, Nat.mod_one]
  | succ n ih =>
      have hsplit : value % 256 ^ (n + 1) = value % 256 ^ n + 256 ^ n * (value / 256 ^ n % 256) :=
        Nat.mod_pow_succ
      have hoctet : (UInt8.ofNat (value / 256 ^ n)).toNat = value / 256 ^ n % 256 :=
        UInt8.toNat_ofNat'
      rw [octets, ofOctets, ih, length_octets, hoctet, hsplit, Nat.mul_comm, Nat.add_comm]

theorem ofOctets_octets
    {n value : Nat}
    (h : value < 256 ^ n) :
    ofOctets (octets n value) = value := by
  rw [ofOctets_octets_mod, Nat.mod_eq_of_lt h]

/-! ## Fields -/

/-- Cuts off the first `n` octets. -/
def cut (n : Nat) (bytes : List UInt8) : Option (List UInt8 × List UInt8) :=
  if n ≤ bytes.length then some (bytes.take n, bytes.drop n) else none

theorem cut_append
    {n : Nat} {field : List UInt8}
    (h : field.length = n)
    (rest : List UInt8) :
    cut n (field ++ rest) = some (field, rest) := by
  subst h
  simp [cut]

/-! ## Words -/

/-- The sum of the 16-bit words; a last single octet is followed by a zero. -/
def sumWords : List UInt8 → Nat
  | [] => 0
  | [octet] => octet.toNat * 256
  | high :: low :: rest => high.toNat * 256 + low.toNat + sumWords rest

theorem sumWords_append
    (words rest : List UInt8)
    (h : words.length % 2 = 0) :
    sumWords (words ++ rest) = sumWords words + sumWords rest := by
  fun_induction sumWords words with
  | case1 => simp
  | case2 octet => simp at h
  | case3 high low words ih =>
      simp only [List.length_cons] at h
      simp only [List.cons_append, sumWords, ih (by omega)]
      omega

theorem sumWords_le (bytes : List UInt8) : sumWords bytes ≤ 65535 * ((bytes.length + 1) / 2) := by
  fun_induction sumWords bytes with
  | case1 => simp
  | case2 octet =>
      have := octet.toNat_lt
      simp
      omega
  | case3 high low words ih =>
      have := high.toNat_lt
      have := low.toNat_lt
      simp only [List.length_cons]
      omega

/-- One word. -/
theorem sumWords_octets
    {value : Nat}
    (h : value < 65536) :
    sumWords (octets 2 value) = value := by
  have hvalue : ofOctets (octets 2 value) = value := ofOctets_octets h
  simpa [octets, sumWords, ofOctets] using hvalue

/-- A word between others counts with its value. -/
theorem sumWords_field
    {value : Nat}
    (before after : List UInt8)
    (heven : before.length % 2 = 0)
    (h : value ≤ 65535) :
    sumWords (before ++ (octets 2 value ++ after)) = sumWords before + sumWords after + value := by
  rw [sumWords_append _ _ heven, sumWords_append (octets 2 value) _ (by simp),
    sumWords_octets (by omega)]
  omega

/-! ## Checksums -/

/-- Adds the carries back in, twice, until 16 bits are left. -/
def fold (sum : Nat) : Nat :=
  let carried := sum / 65536 + sum % 65536
  carried / 65536 + carried % 65536

/-- The ones' complement of a sum. -/
def complement (sum : Nat) : Nat :=
  65535 - fold sum

/-- A checksum of zero would mean that there is none. -/
def nonzero (checksum : Nat) : Nat :=
  if checksum = 0 then 65535 else checksum

section Checksums

variable {sum : Nat}

/-- Folding keeps the value modulo 65535, and zero apart from it. -/
theorem fold_spec
    (sum : Nat)
    (h : sum < 2 ^ 32) :
    fold sum ≤ 65535 ∧ fold sum % 65535 = sum % 65535 ∧ (fold sum = 0 ↔ sum = 0) := by
  unfold fold
  dsimp only
  omega

theorem complement_le (sum : Nat) : complement sum ≤ 65535 :=
  Nat.sub_le _ _

theorem nonzero_le
    {checksum : Nat}
    (h : checksum ≤ 65535) :
    nonzero checksum ≤ 65535 := by
  unfold nonzero
  split
  · exact le_rfl
  · exact h

theorem nonzero_ne_zero (checksum : Nat) : nonzero checksum ≠ 0 := by
  unfold nonzero
  split
  · decide
  · assumption

/-- Words and their complement verify. -/
theorem fold_add_complement
    (h : sum < 2 ^ 31) :
    fold (sum + complement sum) = 65535 := by
  obtain ⟨hle, hmod, _⟩ := fold_spec sum (by omega)
  have hsum : fold sum ≤ sum := by
    unfold fold
    dsimp only
    omega
  obtain ⟨hle', hmod', hzero'⟩ := fold_spec (sum + complement sum) (by
    unfold complement
    omega)
  unfold complement at *
  omega

/-- So they do if zero is replaced by all ones. -/
theorem fold_add_nonzero
    (h : sum < 2 ^ 31) :
    fold (sum + nonzero (complement sum)) = 65535 := by
  by_cases hzero : complement sum = 0
  · have hverifies := fold_add_complement h
    rw [hzero, Nat.add_zero] at hverifies
    obtain ⟨hle, hmod, hnonzero⟩ := fold_spec (sum + 65535) (by omega)
    obtain ⟨_, hmod', _⟩ := fold_spec sum (by omega)
    rw [nonzero, if_pos hzero]
    omega
  · rw [nonzero, if_neg hzero]
    exact fold_add_complement h

end Checksums

end Octets
