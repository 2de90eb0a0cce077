import Softnet.Lib.FiniteMaps
import Mathlib.Data.List.FinRange
import Mathlib.Tactic.Common

/-!
# Address prefixes and maps keyed by them

A prefix is an address of `w` bits with a prefix length.  The bits behind the
prefix may be set: `trunc` clears them, and two prefixes denote the same network
when they agree after truncation.

A prefix map is keyed by networks.  `cover` walks the stored networks that
contain a given one, from the shortest to the longest, as a descent in a binary
trie does; `mem_cover_ofAddress` says that it meets exactly the networks that
contain the address.
-/

namespace Cidr

section Net

/-- An address with a prefix length; host bits may be set. -/
structure Net (w : Nat) where
  addr : BitVec w
  prefixLen : Nat
  prefixLen_le : prefixLen ≤ w
deriving DecidableEq

variable {w : Nat}

/-- The leading `len` bits. -/
def netmask (w len : Nat) : BitVec w :=
  BitVec.allOnes w <<< (w - len)

namespace Net

/-- The network of a prefix: its host bits cleared. -/
def trunc (n : Net w) : Net w :=
  { n with addr := n.addr &&& netmask w n.prefixLen }

/-- Whether the address lies in the network. -/
def contains (n : Net w) (a : BitVec w) : Bool :=
  a &&& netmask w n.prefixLen == n.addr &&& netmask w n.prefixLen

/-- The prefix that holds one address only. -/
def ofAddress (a : BitVec w) : Net w :=
  ⟨a, w, le_refl w⟩

/-- The network of the given length around the address of a prefix. -/
def shorten (n : Net w) (len : Fin (n.prefixLen + 1)) : Net w :=
  trunc ⟨n.addr, len, (Nat.lt_succ_iff.mp len.isLt).trans n.prefixLen_le⟩

@[simp] theorem trunc_trunc (n : Net w) :
    n.trunc.trunc = n.trunc := by
  simp [trunc, BitVec.and_assoc]

@[simp] theorem trunc_ofAddress (a : BitVec w) :
    (ofAddress a).trunc = ofAddress a := by
  simp [trunc, ofAddress, netmask]

/-- The networks met on the way down to an address are those that contain it. -/
theorem eq_shorten_ofAddress_iff
    (k : Net w)
    (a : BitVec w) :
    (∃ len, (ofAddress a).shorten len = k)
      ↔
    k.trunc = k ∧ k.contains a = true := by
  constructor
  · rintro ⟨len, rfl⟩
    exact ⟨trunc_trunc _,
      by simp [shorten, ofAddress, contains, trunc, BitVec.and_assoc]⟩
  · rintro ⟨hcanonical, hcontains⟩
    refine ⟨⟨k.prefixLen, Nat.lt_succ_of_le k.prefixLen_le⟩, ?_⟩
    rw [contains, beq_iff_eq] at hcontains
    rw [← hcanonical]
    simp [shorten, ofAddress, trunc, hcontains]

end Net

end Net

section PrefixMap

variable {w : Nat}
variable {T : Type}

/-- A map keyed by networks. -/
def PrefixMap (w : Nat) (T : Type) : Type :=
  AList (fun _ : Net w => T)

namespace PrefixMap

def empty : PrefixMap w T :=
  (∅ : AList (fun _ : Net w => T))

/-- The value stored for a network. -/
def get (m : PrefixMap w T) (n : Net w) : Option T :=
  AList.lookup n m

/-- Update the entry of a network in place, starting from `default` if it is vacant. -/
def update
    (m : PrefixMap w T)
    (n : Net w)
    (default : T)
    (f : T → T) :
    PrefixMap w T :=
  AList.insert n.trunc (f ((m.get n.trunc).getD default)) m

/-- Rewrite every value. -/
def mapValues
    {U : Type}
    (f : Net w → T → U)
    (m : PrefixMap w T) :
    PrefixMap w U :=
  AList.mapValues f m

/-- The stored values. -/
def values (m : PrefixMap w T) : List T :=
  (AList.entries m).map Sigma.snd

/-- The stored networks that contain the given one, shortest first. -/
def cover (m : PrefixMap w T) (n : Net w) : List (Net w × T) :=
  (List.finRange (n.prefixLen + 1)).filterMap
    (fun len => (m.get (n.shorten len)).map (fun v => (n.shorten len, v)))

/-- Only the network of a prefix matters as a key. -/
theorem update_trunc
    (m : PrefixMap w T)
    (n : Net w)
    (default : T)
    (f : T → T) :
    m.update n.trunc default f = m.update n default f := by
  rw [update, update, Net.trunc_trunc]

theorem get_update
    (m : PrefixMap w T)
    (n k : Net w)
    (default : T)
    (f : T → T) :
    (m.update n default f).get k =
      if k = n.trunc then some (f ((m.get k).getD default)) else m.get k := by
  by_cases h : k = n.trunc
  · subst h
    rw [if_pos rfl]
    exact AList.lookup_insert _
  · rw [if_neg h]
    exact AList.lookup_insert_ne h

@[simp] theorem get_mapValues
    {U : Type}
    (f : Net w → T → U)
    (m : PrefixMap w T)
    (n : Net w) :
    (m.mapValues f).get n = (m.get n).map (f n) :=
  AList.lookup_mapValues f m n

/-- Covering an address meets exactly the stored networks that contain it. -/
theorem mem_cover_ofAddress
    (m : PrefixMap w T)
    (a : BitVec w)
    (k : Net w)
    (v : T) :
    (k, v) ∈ m.cover (Net.ofAddress a)
      ↔
    m.get k = some v ∧ k.trunc = k ∧ k.contains a = true := by
  rw [← Net.eq_shorten_ofAddress_iff k a]
  simp only [cover, List.mem_filterMap, List.mem_finRange, true_and,
    Option.map_eq_some_iff, Prod.mk.injEq]
  constructor
  · rintro ⟨len, v', hget, rfl, rfl⟩
    exact ⟨hget, len, rfl⟩
  · rintro ⟨hget, len, rfl⟩
    exact ⟨len, v, hget, rfl, rfl⟩

end PrefixMap

end PrefixMap

end Cidr
