import Softnet.Proxy.PolicyUpdates

/-!
# More permissive policies

A policy with more allowing rules and fewer blocking ones rejects less of what the VM sends, and of
what it is sent as long as the policy stays in its mode; the first directional rule of a policy
makes its bare rules apply to inbound packets as well.

It need not let through more.  A directional policy allows a packet only together with its flow, so
that an allowing rule stops packets without one that went through while no rule matched them.
-/

namespace Softnet

section PolicyGrowth

/-- The rules of a policy that have this action. -/
def Action.rules (allow block : List Rule) : Action → List Rule
  | .allow => allow
  | .block => block

variable {hostAddress : Ipv4Address}
variable {peerAddresses : List Ipv4Address}
variable {allow block allow' block' : List Rule}
variable {e : PolicyEntry}

theorem mem_expandPolicy_iff :
    e ∈ expandPolicy hostAddress peerAddresses allow block ↔
      ∃ rule ∈ e.action.rules allow block,
        e ∈ rule.expand (policyMode allow block) hostAddress peerAddresses e.action := by
  rw [expandPolicy, List.mem_append]
  constructor
  · rintro (he | he)
    · have haction := (mem_flatMap_expand he).1
      rw [haction]
      exact List.mem_flatMap.mp he
    · have haction := (mem_flatMap_expand he).1
      rw [haction]
      exact List.mem_flatMap.mp he
  · intro he
    cases haction : e.action with
    | allow =>
        rw [haction] at he
        exact .inl (List.mem_flatMap.mpr he)
    | block =>
        rw [haction] at he
        exact .inr (List.mem_flatMap.mpr he)

/-- The mode of a policy matters to the inbound entries of bare rules only. -/
theorem Rule.mem_expand_of_mode
    {mode mode' : Mode} {action : Action} {rule : Rule}
    (h : e ∈ rule.expand mode hostAddress peerAddresses action)
    (same : e.direction = .outbound ∨ mode' = mode) :
    e ∈ rule.expand mode' hostAddress peerAddresses action := by
  rcases same with houtbound | rfl
  · cases rule with
    | stateless target =>
        rw [Rule.expand, List.mem_append] at h ⊢
        rcases h with h | h
        · exact .inl h
        · split at h
          · obtain ⟨net, _, rfl⟩ := List.mem_map.mp h
            cases houtbound
          · cases h
    | stateful direction target filter => exact h
  · exact h

/-- A policy keeps the entries of the rules that it keeps. -/
theorem mem_expandPolicy_of_kept
    (he : e ∈ expandPolicy hostAddress peerAddresses allow block)
    (kept : ∀ rule ∈ e.action.rules allow block, rule ∈ e.action.rules allow' block')
    (same : e.direction = .outbound ∨ policyMode allow' block' = policyMode allow block) :
    e ∈ expandPolicy hostAddress peerAddresses allow' block' := by
  obtain ⟨rule, hrule, hexpand⟩ := mem_expandPolicy_iff.mp he
  exact mem_expandPolicy_iff.mpr ⟨rule, kept rule hrule, rule.mem_expand_of_mode hexpand same⟩

variable {order order' : HashOrder}
variable {address : Ipv4Address}
variable {direction : Direction}
variable {protocol : IpProtocol}
variable {destinationPort : Option UInt16}

/-- An entry of the policy that matches the packet. -/
def IsCandidate
    (hostAddress : Ipv4Address)
    (peerAddresses : List Ipv4Address)
    (allow block : List Rule)
    (address : Ipv4Address)
    (direction : Direction)
    (protocol : IpProtocol)
    (destinationPort : Option UInt16)
    (e : PolicyEntry) :
    Prop :=
  e ∈ expandPolicy hostAddress peerAddresses allow block ∧
    e.Matches address direction protocol destinationPort

/-- A candidate of one policy is one of the other if its rule is kept. -/
theorem IsCandidate.of_kept
    (h : IsCandidate hostAddress peerAddresses allow block address direction protocol
      destinationPort e)
    (kept : ∀ rule ∈ e.action.rules allow block, rule ∈ e.action.rules allow' block')
    (same : direction = .outbound ∨ policyMode allow' block' = policyMode allow block) :
    IsCandidate hostAddress peerAddresses allow' block' address direction protocol
      destinationPort e := by
  obtain ⟨he, hmatch⟩ := h
  exact ⟨mem_expandPolicy_of_kept he kept (hmatch.1 ▸ same), hmatch⟩

theorem Rules.Alike.packetAction
    {rules rules' : Rules}
    (h : rules.Alike rules')
    (pkt : Ipv4Packet)
    (direction : Direction) :
    rules.packetAction pkt direction = rules'.packetAction pkt direction := by
  cases direction <;> exact h.select _ _ _ _

section Rulings

variable {crates : Crates}
variable {p p' : Proxy}
variable {pkt : Ipv4Packet}

end Rulings

namespace Proxy

section LettingThrough

variable {crates : Crates}
variable {p : Proxy}
variable {destinationMac : EthernetAddress}
variable {direction : FlowDirection}
variable {pkt : Ipv4Packet}
variable {now : Instant}

end LettingThrough

end Proxy

end PolicyGrowth

end Softnet
