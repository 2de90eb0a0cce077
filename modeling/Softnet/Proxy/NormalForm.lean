import Softnet.Lib.KeySort
import Softnet.Proxy.RuleText

/-!
# The normal form of a rule list

`normalizeRules` is `KeySort.canonical` on the truncated rules, with their printed text
as the key.  The rules that can be read print differently, so for them it is a normal
form of the set of truncated rules.
-/

namespace Softnet

section NormalForm

variable {crates : Crates}
variable {reader : RuleReader}
variable {rules rules' : List Rule}

@[simp] theorem Target.normalized_normalized
    (target : Target) :
    target.normalized.normalized = target.normalized := by
  cases target <;> simp [Target.normalized]

@[simp] theorem Rule.normalized_normalized
    (rule : Rule) :
    rule.normalized.normalized = rule.normalized := by
  cases rule <;> simp [Rule.normalized]

theorem normalizeRules_eq_canonical
    (crates : Crates)
    (rules : List Rule) :
    normalizeRules crates rules =
      KeySort.canonical (Rule.text crates) (rules.map Rule.normalized) := by
  unfold normalizeRules KeySort.canonical
  congr

/-- The rules of the normal form are the truncated ones. -/
@[simp] theorem mem_normalizeRules
    {rule : Rule} :
    rule ∈ normalizeRules crates rules ↔ ∃ rule' ∈ rules, rule'.normalized = rule := by
  rw [normalizeRules_eq_canonical, KeySort.mem_canonical, List.mem_map]

/-- Truncated rules that can be read print differently. -/
theorem NetsRoundTrip.injOn_text
    (nets : NetsRoundTrip crates reader)
    (h : ∀ rule ∈ rules, rule.Supported) :
    Set.InjOn (Rule.text crates) {rule | rule ∈ rules.map Rule.normalized} := by
  have hsupported : ∀ rule ∈ rules.map Rule.normalized, rule.Supported := by
    intro rule hrule
    obtain ⟨rule, hmem, rfl⟩ := List.mem_map.mp hrule
    exact (h rule hmem).normalized
  intro a ha b hb
  exact nets.text_injective (hsupported a ha) (hsupported b hb)

theorem NetsRoundTrip.pairwise_normalizeRules
    (nets : NetsRoundTrip crates reader)
    (h : ∀ rule ∈ rules, rule.Supported) :
    (normalizeRules crates rules).Pairwise fun a b => a.text crates < b.text crates := by
  rw [normalizeRules_eq_canonical]
  exact KeySort.pairwise_canonical (nets.injOn_text h)

theorem NetsRoundTrip.normalizeRules_eq_iff
    (nets : NetsRoundTrip crates reader)
    (h : ∀ rule ∈ rules, rule.Supported) :
    normalizeRules crates rules = normalizeRules crates rules' ↔
      ∀ rule, rule ∈ rules.map Rule.normalized ↔ rule ∈ rules'.map Rule.normalized := by
  rw [normalizeRules_eq_canonical, normalizeRules_eq_canonical]
  exact KeySort.canonical_eq_iff (nets.injOn_text h)

theorem NetsRoundTrip.normalizeRules_normalizeRules
    (nets : NetsRoundTrip crates reader)
    (h : ∀ rule ∈ rules, rule.Supported) :
    normalizeRules crates (normalizeRules crates rules) = normalizeRules crates rules := by
  symm
  rw [nets.normalizeRules_eq_iff h]
  intro rule
  simp only [List.mem_map, mem_normalizeRules]
  constructor
  · rintro ⟨rule, hmem, rfl⟩
    exact ⟨_, ⟨rule, hmem, rfl⟩, rule.normalized_normalized⟩
  · rintro ⟨_, ⟨rule, hmem, rfl⟩, rfl⟩
    exact ⟨rule, hmem, rule.normalized_normalized.symm⟩

end NormalForm

/--
For rules that can be read, the normal form depends on the set of truncated rules only and
determines it, has no duplicates, is sorted strictly by printed text, and is its own normal
form.  In particular it does not depend on the order or the repetitions of the rules.
-/
theorem normalizeRules_is_normal_form
    (crates : Crates)
    (reader : RuleReader)
    (nets : NetsRoundTrip crates reader)
    (rules : List Rule)
    (hread : ∀ rule ∈ rules, rule.Readable reader) :
    (∀ rules', (∀ rule ∈ rules', rule.Readable reader) →
      (normalizeRules crates rules = normalizeRules crates rules' ↔
        ∀ rule, rule ∈ rules.map Rule.normalized ↔ rule ∈ rules'.map Rule.normalized)) ∧
    (normalizeRules crates rules).Nodup ∧
    (normalizeRules crates rules).Pairwise (fun a b => a.text crates < b.text crates) ∧
    normalizeRules crates (normalizeRules crates rules) = normalizeRules crates rules ∧
    (∀ rules', (∀ rule, rule ∈ rules' ↔ rule ∈ rules) →
      normalizeRules crates rules' = normalizeRules crates rules) := by
  have h : ∀ rule ∈ rules, rule.Supported := fun rule hmem => (hread rule hmem).supported
  have hsorted := nets.pairwise_normalizeRules h
  refine ⟨fun rules' _ => nets.normalizeRules_eq_iff h, KeySort.nodup_of_pairwise_lt hsorted,
    hsorted, nets.normalizeRules_normalizeRules h, ?_⟩
  intro rules' hmem
  rw [eq_comm, nets.normalizeRules_eq_iff h]
  intro rule
  simp only [List.mem_map, hmem]

/-- Two prefixes of one network, listed in two orders. -/
theorem normalizeRules_is_normal_form_swapped :
    normalizeRules decimalCrates
        [.stateless .host, .stateless (.netPrefix ⟨0x0a000005, 8, by decide⟩), .stateless .host] =
      normalizeRules decimalCrates
        [.stateless (.netPrefix ⟨0x0a000000, 8, by decide⟩), .stateless .host] := by
  refine ((normalizeRules_is_normal_form decimalCrates decimalReader decimalNets _ ?_).1
    _ ?_).mpr ?_
  · simp [decimalNets.readable_iff, Rule.Supported]
  · simp [decimalNets.readable_iff, Rule.Supported]
  · have hnet : (Rule.stateless (.netPrefix ⟨0x0a000005, 8, by decide⟩)).normalized =
        (Rule.stateless (.netPrefix ⟨0x0a000000, 8, by decide⟩)).normalized := by decide
    intro rule
    simp only [List.map_cons, List.map_nil, List.mem_cons, List.not_mem_nil, or_false, hnet]
    tauto

end Softnet
