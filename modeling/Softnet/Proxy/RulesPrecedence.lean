import Softnet.Proxy.Rules

/-!
# Precedence of compiled rules

The help text of `--allow` documents how overlapping rules are resolved:
matching prefers a port, then the longest prefix, then a protocol, then the
narrowest port range, and blocking wins ties.  This module states that
precedence over the rules as they were given and proves that the compiled tables
compute it.

Each rule is expanded to entries that name one direction and one network.  An
entry matches a packet by address, protocol and port; among the matching entries
only those of maximal specificity decide.

The proof has three stages.

* Merging: an entry of the pending table is a block if some block was inserted
  for its network and filter, else an allow if some allow was.
* Searching: the staged search (first hit in each sorted prefix, then the
  maximum over the prefixes) returns a stored entry of maximal priority.
* Comparing: priorities refine specificity by the action alone.
-/

namespace Softnet

section RulesPrecedence

/-- One rule for one direction and one network. -/
structure PolicyEntry where
  direction : Direction
  net : Ipv4Net
  filter : Filter
  action : Action
deriving DecidableEq

/-- The networks a target stands for. -/
def Target.nets
    (hostAddress : Ipv4Address)
    (peerAddresses : List Ipv4Address) :
    Target → List Ipv4Net
  | .netPrefix net => [net.trunc]
  | .host => [Cidr.Net.ofAddress hostAddress]
  | .peers => peerAddresses.map Cidr.Net.ofAddress

/--
The entries of one rule.  A bare target gives an outbound entry and, in a
stateful policy, an inbound one.
-/
def Rule.expand
    (mode : Mode)
    (hostAddress : Ipv4Address)
    (peerAddresses : List Ipv4Address)
    (action : Action) :
    Rule → List PolicyEntry
  | .stateless target =>
      (target.nets hostAddress peerAddresses).map
          (fun net => ⟨.outbound, net, .unrestricted, action⟩) ++
        if mode = .stateful then
          (target.nets hostAddress peerAddresses).map
            (fun net => ⟨.inbound, net, .unrestricted, action⟩)
        else
          []
  | .stateful direction target filter =>
      (target.nets hostAddress peerAddresses).map
        (fun net => ⟨direction, net, filter, action⟩)

/-- The entries of a whole policy. -/
def expandPolicy
    (hostAddress : Ipv4Address)
    (peerAddresses : List Ipv4Address)
    (allow block : List Rule) :
    List PolicyEntry :=
  let mode := policyMode allow block
  allow.flatMap (Rule.expand mode hostAddress peerAddresses .allow) ++
    block.flatMap (Rule.expand mode hostAddress peerAddresses .block)

/-- The protocol number a rule's protocol names. -/
def Protocol.ipProtocol : Protocol → IpProtocol
  | .tcp => .tcp
  | .udp => .udp
  | .icmp => .icmp

namespace PolicyEntry

/--
An entry matches a packet of its direction whose address lies in its network
and whose protocol and port pass its filter.  A port filter matches an unknown
port only for a block on TCP or UDP.
-/
def Matches
    (e : PolicyEntry)
    (address : Ipv4Address)
    (direction : Direction)
    (protocol : IpProtocol)
    (destinationPort : Option UInt16) :
    Prop :=
  e.direction = direction ∧
  e.net.contains address = true ∧
  (∀ p, e.filter.protocol = some p → protocol = p.ipProtocol) ∧
  ∀ range, e.filter.destinationPortRange = some range →
    match destinationPort with
    | some port => range.first ≤ port ∧ port ≤ range.last
    | none => e.action = .block ∧ (protocol = .tcp ∨ protocol = .udp)

/-- Lexicographic: has a port range, longer prefix, has a protocol, narrower range. -/
def specificity (net : Ipv4Net) (filter : Filter) :
    Bool ×ₗ Nat ×ₗ Bool ×ₗ Natᵒᵈ :=
  toLex (filter.destinationPortRange.isSome,
    toLex (net.prefixLen,
      toLex (filter.protocol.isSome,
        OrderDual.toDual
          (match filter.destinationPortRange with
            | some range => range.last.toNat - range.first.toNat
            | none => 0))))

end PolicyEntry

/-- Priorities compare by specificity; only among equals does a block win. -/
theorem rulePriority_le_iff
    (net net' : Ipv4Net)
    (filter filter' : Filter)
    (action action' : Action) :
    rulePriority net.prefixLen filter action ≤
        rulePriority net'.prefixLen filter' action'
      ↔
    PolicyEntry.specificity net filter < PolicyEntry.specificity net' filter' ∨
      PolicyEntry.specificity net filter = PolicyEntry.specificity net' filter' ∧
        (action = .block → action' = .block) := by
  have hbit :
      ((action == .block) ≤ (action' == .block))
        ↔ (action = .block → action' = .block) := by
    cases action <;> cases action' <;> decide
  have hwidth : ∀ range : PortRange,
      range.width.toNat = range.last.toNat - range.first.toNat := by
    intro range
    exact UInt16.toNat_sub_of_le _ _ range.first_le_last
  rcases filter with ⟨protocol, ports⟩
  rcases filter' with ⟨protocol', ports'⟩
  cases ports with
  | none =>
      cases ports' with
      | none =>
          refine Precedence.lex_le_iff (Precedence.lex_le_iff (Precedence.lex_le_iff ?_))
          simp only [Prod.Lex.toLex_le_toLex, lt_self_iff_false, true_and, false_or, hbit]
      | some range' =>
          simp [rulePriority, PolicyEntry.specificity, Prod.Lex.toLex_le_toLex,
            Prod.Lex.toLex_lt_toLex]
  | some range =>
      cases ports' with
      | none =>
          simp [rulePriority, PolicyEntry.specificity, Prod.Lex.toLex_le_toLex,
            Prod.Lex.toLex_lt_toLex]
      | some range' =>
          refine Precedence.lex_le_iff (Precedence.lex_le_iff (Precedence.lex_le_iff ?_))
          simp only [Prod.Lex.toLex_le_toLex, hwidth, hbit]

/-! ## Merging -/

/-- The action stored for a network and a filter. -/
def PendingRules.action
    (entries : PendingRules)
    (net : Ipv4Net)
    (filter : Filter) :
    Option Action :=
  (entries.get net).bind (fun filters => filters.lookup filter)

/-- Store one entry. -/
def PendingRules.insertEntry
    (entries : PendingRules)
    (e : PolicyEntry) :
    PendingRules :=
  PendingRules.insertAt entries e.net e.filter e.action

theorem PendingRules.action_insertAt
    (entries : PendingRules)
    (net net' : Ipv4Net)
    (filter filter' : Filter)
    (a : Action) :
    PendingRules.action (PendingRules.insertAt entries net filter a) net' filter' =
      if net' = net.trunc ∧ filter' = filter then some a
      else PendingRules.action entries net' filter' := by
  simp only [PendingRules.action, PendingRules.insertAt, Cidr.PrefixMap.get_update]
  by_cases hnet : net' = net.trunc
  · rw [if_pos hnet, Option.bind_some]
    by_cases hfilter : filter' = filter
    · subst hfilter
      rw [AList.lookup_insert, if_pos ⟨hnet, rfl⟩]
    · rw [AList.lookup_insert_ne hfilter, if_neg (fun h => hfilter h.2)]
      cases entries.get net' <;> rfl
  · rw [if_neg hnet, if_neg (fun h => hnet h.1)]

/-- Inserting entries of one action overwrites exactly their networks and filters. -/
theorem PendingRules.action_foldl_insertEntry
    {a : Action}
    {l : List PolicyEntry}
    (haction : ∀ e ∈ l, e.action = a)
    (hcanonical : ∀ e ∈ l, e.net.trunc = e.net)
    (entries : PendingRules)
    (net : Ipv4Net)
    (filter : Filter) :
    PendingRules.action (l.foldl PendingRules.insertEntry entries) net filter =
      if ∃ e ∈ l, e.net = net ∧ e.filter = filter then some a
      else PendingRules.action entries net filter := by
  induction l generalizing entries with
  | nil =>
      simp
  | cons e l ih =>
      simp only [List.forall_mem_cons] at haction hcanonical
      rw [List.foldl_cons, ih haction.2 hcanonical.2]
      rw [PendingRules.insertEntry, PendingRules.action_insertAt,
        hcanonical.1, haction.1]
      by_cases hlater : ∃ e' ∈ l, e'.net = net ∧ e'.filter = filter
      · obtain ⟨e', he', hkey⟩ := hlater
        rw [if_pos ⟨e', he', hkey⟩, if_pos ⟨e', List.mem_cons_of_mem _ he', hkey⟩]
      · rw [if_neg hlater]
        by_cases hkey : e.net = net ∧ e.filter = filter
        · rw [if_pos ⟨hkey.1.symm, hkey.2.symm⟩,
            if_pos ⟨e, List.mem_cons_self, hkey⟩]
        · rw [if_neg (fun h => hkey ⟨h.1.symm, h.2.symm⟩), if_neg]
          rintro ⟨e', he', hkey'⟩
          rcases List.mem_cons.mp he' with rfl | he'
          · exact hkey hkey'
          · exact hlater ⟨e', he', hkey'⟩

/-- The networks of a target have their host bits cleared. -/
theorem Target.nets_canonical
    (hostAddress : Ipv4Address)
    (peerAddresses : List Ipv4Address)
    (target : Target)
    {net : Ipv4Net}
    (h : net ∈ target.nets hostAddress peerAddresses) :
    net.trunc = net := by
  cases target with
  | netPrefix n =>
      simp only [Target.nets, List.mem_singleton] at h
      rw [h, Cidr.Net.trunc_trunc]
  | host =>
      simp only [Target.nets, List.mem_singleton] at h
      rw [h, Cidr.Net.trunc_ofAddress]
  | peers =>
      simp only [Target.nets, List.mem_map] at h
      obtain ⟨a, _, rfl⟩ := h
      exact Cidr.Net.trunc_ofAddress a

theorem Rule.mem_expand
    {mode : Mode}
    {hostAddress : Ipv4Address}
    {peerAddresses : List Ipv4Address}
    {action : Action}
    {rule : Rule}
    {e : PolicyEntry}
    (h : e ∈ rule.expand mode hostAddress peerAddresses action) :
    e.action = action ∧ e.net.trunc = e.net := by
  have hnets : ∀ (target : Target) (direction : Direction) (filter : Filter),
      e ∈ (target.nets hostAddress peerAddresses).map
          (fun net => (⟨direction, net, filter, action⟩ : PolicyEntry)) →
        e.action = action ∧ e.net.trunc = e.net := by
    intro target direction filter he
    obtain ⟨net, hnet, rfl⟩ := List.mem_map.mp he
    exact ⟨rfl, target.nets_canonical hostAddress peerAddresses hnet⟩
  cases rule with
  | stateless target =>
      rw [Rule.expand, List.mem_append] at h
      rcases h with h | h
      · exact hnets _ _ _ h
      · split at h
        · exact hnets _ _ _ h
        · simp at h
  | stateful direction target filter =>
      exact hnets _ _ _ h

theorem insertFilter_eq_foldl
    (entries : PendingRules)
    (target : Target)
    (filter : Filter)
    (action : Action)
    (hostAddress : Ipv4Address)
    (peerAddresses : List Ipv4Address)
    (direction : Direction) :
    insertFilter entries target filter action hostAddress peerAddresses =
      ((target.nets hostAddress peerAddresses).map
        (fun net => (⟨direction, net, filter, action⟩ : PolicyEntry))).foldl
          PendingRules.insertEntry entries := by
  cases target with
  | netPrefix n =>
      exact (Cidr.PrefixMap.update_trunc entries n ∅ _).symm
  | host =>
      simp [insertFilter, Target.nets, PendingRules.insertEntry]
  | peers =>
      simp [insertFilter, Target.nets, PendingRules.insertEntry, List.foldl_map]

/-- The pending table of a direction. -/
def PendingTables.table (tables : PendingTables) : Direction → PendingRules
  | .inbound => tables.inbound
  | .outbound => tables.outbound

/-- Inserting a rule inserts its entries of each direction into that direction's table. -/
theorem insertRule_table
    (mode : Mode)
    (hostAddress : Ipv4Address)
    (peerAddresses : List Ipv4Address)
    (action : Action)
    (tables : PendingTables)
    (rule : Rule)
    (direction : Direction) :
    (insertRule mode hostAddress peerAddresses action tables rule).table direction =
      ((rule.expand mode hostAddress peerAddresses action).filter
        (fun e => e.direction = direction)).foldl
          PendingRules.insertEntry (tables.table direction) := by
  cases rule with
  | stateless target =>
      cases direction <;> by_cases hmode : mode = .stateful <;>
        simp [insertRule, Rule.expand, PendingTables.table, hmode, List.filter_map,
          Function.comp_def, List.filter_append,
          ← insertFilter_eq_foldl _ _ _ _ _ _ Direction.inbound,
          ← insertFilter_eq_foldl _ _ _ _ _ _ Direction.outbound]
  | stateful ruleDirection target filter =>
      cases direction <;> cases ruleDirection <;>
        simp [insertRule, Rule.expand, PendingTables.table, List.filter_map,
          Function.comp_def,
          ← insertFilter_eq_foldl _ _ _ _ _ _ Direction.inbound,
          ← insertFilter_eq_foldl _ _ _ _ _ _ Direction.outbound]

theorem foldl_insertRule_table
    (mode : Mode)
    (hostAddress : Ipv4Address)
    (peerAddresses : List Ipv4Address)
    (action : Action)
    (rules : List Rule)
    (tables : PendingTables)
    (direction : Direction) :
    (rules.foldl
        (insertRule mode hostAddress peerAddresses action) tables).table direction =
      ((rules.flatMap (Rule.expand mode hostAddress peerAddresses action)).filter
        (fun e => e.direction = direction)).foldl
          PendingRules.insertEntry (tables.table direction) := by
  induction rules generalizing tables with
  | nil =>
      simp
  | cons rule rules ih =>
      rw [List.foldl_cons, ih, insertRule_table]
      simp [List.filter_append]

section Expanded

variable {mode : Mode}
variable {hostAddress : Ipv4Address}
variable {peerAddresses : List Ipv4Address}
variable {action : Action}
variable {rules : List Rule}

/-- Every entry of an expanded list has the list's action and a canonical network. -/
theorem mem_flatMap_expand
    {e : PolicyEntry}
    (he : e ∈ rules.flatMap (Rule.expand mode hostAddress peerAddresses action)) :
    e.action = action ∧ e.net.trunc = e.net := by
  obtain ⟨rule, _, he⟩ := List.mem_flatMap.mp he
  exact Rule.mem_expand he

theorem mem_filter_expand
    {direction : Direction} {e : PolicyEntry}
    (he : e ∈ (rules.flatMap (Rule.expand mode hostAddress peerAddresses action)).filter
      (fun e => e.direction = direction)) :
    e.action = action ∧ e.net.trunc = e.net :=
  mem_flatMap_expand (List.mem_filter.mp he).1

/-- An entry of an expanded list is known by its direction, network and filter. -/
theorem exists_filter_expand_iff
    (direction : Direction)
    (net : Ipv4Net)
    (filter : Filter) :
    (∃ e ∈ (rules.flatMap (Rule.expand mode hostAddress peerAddresses action)).filter
          (fun e => e.direction = direction),
        e.net = net ∧ e.filter = filter) ↔
      (⟨direction, net, filter, action⟩ : PolicyEntry) ∈
        rules.flatMap (Rule.expand mode hostAddress peerAddresses action) := by
  constructor
  · rintro ⟨e, he, rfl, rfl⟩
    obtain ⟨hmem, hdirection⟩ := List.mem_filter.mp he
    have haction := (mem_flatMap_expand hmem).1
    simp only [decide_eq_true_eq] at hdirection
    subst hdirection haction
    exact hmem
  · intro he
    exact ⟨_, List.mem_filter.mpr ⟨he, by simp⟩, rfl, rfl⟩

/-- An entry of the other action never comes from an expanded list. -/
theorem notMem_flatMap_expand
    {direction : Direction} {net : Ipv4Net} {filter : Filter} {other : Action}
    (hne : action ≠ other) :
    (⟨direction, net, filter, other⟩ : PolicyEntry) ∉
      rules.flatMap (Rule.expand mode hostAddress peerAddresses action) :=
  fun he => hne (mem_flatMap_expand he).1.symm

end Expanded

/--
The merged table: a block if a block was given for the network and filter, else
an allow if an allow was.
-/
theorem pendingTables_action
    (hostAddress : Ipv4Address)
    (peerAddresses : List Ipv4Address)
    (allow block : List Rule)
    (direction : Direction)
    (net : Ipv4Net)
    (filter : Filter) :
    PendingRules.action
        ((Rules.pendingTables hostAddress peerAddresses allow block).table direction)
        net filter =
      if ⟨direction, net, filter, .block⟩ ∈
          expandPolicy hostAddress peerAddresses allow block then
        some .block
      else if ⟨direction, net, filter, .allow⟩ ∈
          expandPolicy hostAddress peerAddresses allow block then
        some .allow
      else
        none := by
  rw [Rules.pendingTables, foldl_insertRule_table, foldl_insertRule_table,
    PendingRules.action_foldl_insertEntry
      (fun e he => (mem_filter_expand he).1)
      (fun e he => (mem_filter_expand he).2),
    PendingRules.action_foldl_insertEntry
      (fun e he => (mem_filter_expand he).1)
      (fun e he => (mem_filter_expand he).2)]
  have hempty :
      PendingRules.action
        ((⟨.empty, .empty⟩ : PendingTables).table direction) net filter = none := by
    cases direction <;> rfl
  simp only [exists_filter_expand_iff, hempty, expandPolicy, List.mem_append,
    notMem_flatMap_expand (show Action.allow ≠ .block by decide),
    notMem_flatMap_expand (show Action.block ≠ .allow by decide), false_or, or_false]

/-! ## Searching -/

theorem mem_sortFilters
    (net : Ipv4Net)
    (filters : FilterRules)
    (x : Filter × Action) :
    x ∈ sortFilters net filters ↔ x ∈ filters :=
  (List.perm_insertionSort _ _).mem_iff

theorem sortFilters_sorted
    (net : Ipv4Net)
    (filters : FilterRules) :
    (sortFilters net filters).Pairwise
      (fun x y =>
        rulePriority net.prefixLen y.1 y.2 ≤ rulePriority net.prefixLen x.1 x.2) := by
  have htotal : Std.Total (fun x y : Filter × Action =>
      rulePriority net.prefixLen y.1 y.2 ≤ rulePriority net.prefixLen x.1 x.2) :=
    ⟨fun x y => le_total _ _⟩
  have htrans : IsTrans (Filter × Action) (fun x y =>
      rulePriority net.prefixLen y.1 y.2 ≤ rulePriority net.prefixLen x.1 x.2) :=
    ⟨fun x y z hxy hyz => hyz.trans hxy⟩
  exact List.pairwise_insertionSort _ _

/-- An entry of a compiled table that matches a packet. -/
structure Rules.Hit
    (rules : Rules)
    (address : Ipv4Address)
    (direction : Direction)
    (protocol : IpProtocol)
    (destinationPort : Option UInt16)
    (net : Ipv4Net)
    (filter : Filter)
    (action : Action) :
    Prop where
  stored : ∃ filters,
    (rules.entries direction).get net = some filters ∧ (filter, action) ∈ filters
  canonical : net.trunc = net
  contains : net.contains address = true
  passes : filterMatches protocol destinationPort (filter, action) = true

/-- Every prefix of the direction lists its filters by falling priority. -/
def Rules.Sorted (rules : Rules) (direction : Direction) : Prop :=
  ∀ net filters,
    (rules.entries direction).get net = some filters →
    filters.Pairwise
      (fun x y =>
        rulePriority net.prefixLen y.1 y.2 ≤ rulePriority net.prefixLen x.1 x.2)

section Search

variable {rules : Rules}
variable {address : Ipv4Address}
variable {direction : Direction}
variable {protocol : IpProtocol}
variable {destinationPort : Option UInt16}

/-- A search fails exactly when nothing stored matches. -/
theorem Rules.select_eq_none_iff :
    rules.select address direction protocol destinationPort = none
      ↔
    ∀ net filter action,
      ¬ rules.Hit address direction protocol destinationPort net filter action := by
  rw [Rules.select, Option.map_eq_none_iff, Precedence.maxByKey_eq_none_iff,
    List.filterMap_eq_nil_iff]
  constructor
  · intro hnone net filter action hit
    obtain ⟨filters, hget, hmem⟩ := hit.stored
    have hmiss := hnone (net, filters)
      ((Cidr.PrefixMap.mem_cover_ofAddress _ _ _ _).mpr
        ⟨hget, hit.canonical, hit.contains⟩)
    rw [Option.map_eq_none_iff, filterAction, List.find?_eq_none] at hmiss
    exact hmiss _ hmem hit.passes
  · rintro hmiss ⟨net, filters⟩ hcover
    obtain ⟨hget, hcanonical, hcontains⟩ :=
      (Cidr.PrefixMap.mem_cover_ofAddress _ _ _ _).mp hcover
    rw [Option.map_eq_none_iff, filterAction, List.find?_eq_none]
    rintro ⟨filter, action⟩ hmem hpasses
    exact hmiss net filter action ⟨⟨filters, hget, hmem⟩, hcanonical, hcontains, hpasses⟩

/-- A successful search returns the action of a match of maximal priority. -/
theorem Rules.select_eq_some
    (hsorted : rules.Sorted direction)
    {action : Action}
    (hselect : rules.select address direction protocol destinationPort = some action) :
    ∃ net filter,
      rules.Hit address direction protocol destinationPort net filter action ∧
      ∀ net' filter' action',
        rules.Hit address direction protocol destinationPort net' filter' action' →
        rulePriority net'.prefixLen filter' action' ≤
          rulePriority net.prefixLen filter action := by
  rw [Rules.select, Option.map_eq_some_iff] at hselect
  obtain ⟨best, hbest, rfl⟩ := hselect
  obtain ⟨hmem, hmax⟩ := Precedence.maxByKey_spec hbest
  obtain ⟨⟨net, filters⟩, hcover, hhit⟩ := List.mem_filterMap.mp hmem
  obtain ⟨⟨filter, action⟩, hfind, rfl⟩ := Option.map_eq_some_iff.mp hhit
  obtain ⟨hget, hcanonical, hcontains⟩ :=
    (Cidr.PrefixMap.mem_cover_ofAddress _ _ _ _).mp hcover
  refine ⟨net, filter,
    ⟨⟨filters, hget, List.mem_of_find?_eq_some hfind⟩, hcanonical, hcontains,
      List.find?_some hfind⟩, ?_⟩
  intro net' filter' action' hit
  obtain ⟨filters', hget', hmem'⟩ := hit.stored
  -- the first hit of the other prefix bounds its matches, and the maximum bounds that hit
  cases hfind' : filterAction filters' protocol destinationPort with
  | none =>
      rw [filterAction, List.find?_eq_none] at hfind'
      exact absurd hit.passes (hfind' _ hmem')
  | some first =>
      have hfirst :=
        Precedence.find_max_of_sorted (hsorted net' filters' hget') hfind'
          (filter', action') hmem' hit.passes
      refine hfirst.trans (hmax (rulePriority net'.prefixLen first.1 first.2, first.2) ?_)
      refine List.mem_filterMap.mpr ⟨(net', filters'), ?_, by simp [hfind']⟩
      exact (Cidr.PrefixMap.mem_cover_ofAddress _ _ _ _).mpr
        ⟨hget', hit.canonical, hit.contains⟩

end Search

/-- Compilation keeps exactly the pending entries, in whatever order they come. -/
theorem mem_compileRules_iff
    (order : HashOrder)
    (direction : Direction)
    (pending : PendingRules)
    (net : Ipv4Net)
    (filter : Filter)
    (action : Action) :
    (∃ filters,
        (compileRules order direction pending).get net = some filters ∧
        (filter, action) ∈ filters)
      ↔
    PendingRules.action pending net filter = some action := by
  simp only [compileRules, Cidr.PrefixMap.get_mapValues, PendingRules.action,
    Option.map_eq_some_iff, Option.bind_eq_some_iff]
  constructor
  · rintro ⟨_, ⟨entries, hget, rfl⟩, hmem⟩
    rw [mem_sortFilters, (order.perm direction net _).mem_iff, List.mem_map] at hmem
    obtain ⟨⟨f, a⟩, hmem, hpair⟩ := hmem
    obtain ⟨rfl, rfl⟩ := Prod.mk.inj hpair
    exact ⟨entries, hget, AList.mem_lookup_iff.mpr hmem⟩
  · rintro ⟨entries, hget, hlookup⟩
    refine ⟨_, ⟨entries, hget, rfl⟩, ?_⟩
    rw [mem_sortFilters, (order.perm direction net _).mem_iff, List.mem_map]
    exact ⟨⟨filter, action⟩, AList.mem_lookup_iff.mp hlookup, rfl⟩

/-! ## Comparing -/

/-- The filter test is the protocol and port part of matching. -/
theorem filterMatches_iff
    (e : PolicyEntry)
    (protocol : IpProtocol)
    (destinationPort : Option UInt16) :
    filterMatches protocol destinationPort (e.filter, e.action) = true
      ↔
    (∀ p, e.filter.protocol = some p → protocol = p.ipProtocol) ∧
      ∀ range, e.filter.destinationPortRange = some range →
        match destinationPort with
        | some port => range.first ≤ port ∧ port ≤ range.last
        | none => e.action = .block ∧ (protocol = .tcp ∨ protocol = .udp) := by
  have hprotocol : ∀ p : Protocol,
      some p = filterProtocol protocol ↔ protocol = p.ipProtocol := by
    intro p
    cases p <;> cases protocol <;> simp [filterProtocol, Protocol.ipProtocol]
  have htransport :
      (filterProtocol protocol == some .tcp || filterProtocol protocol == some .udp)
          = true
        ↔ protocol = .tcp ∨ protocol = .udp := by
    cases protocol <;> simp [filterProtocol]
  rcases e with ⟨direction, net, ⟨fprotocol, ports⟩, action⟩
  have hfirst :
      (fprotocol.isSome = true ∧ fprotocol ≠ filterProtocol protocol)
        ↔ ¬ ∀ p, fprotocol = some p → protocol = p.ipProtocol := by
    cases fprotocol with
    | none =>
        simp
    | some p =>
        simp [hprotocol]
  simp only [filterMatches]
  by_cases hp : ∀ p, fprotocol = some p → protocol = p.ipProtocol
  · rw [if_neg (fun h => hfirst.mp h hp)]
    cases ports with
    | none =>
        simpa using hp
    | some range =>
        cases destinationPort with
        | none =>
            simpa [htransport] using fun _ _ => hp
        | some port =>
            simpa [PortRange.contains] using fun _ _ => hp
  · rw [if_pos (hfirst.mpr hp)]
    simp [hp]

section Decision

variable (order : HashOrder)
variable (hostAddress : Ipv4Address)
variable (peerAddresses : List Ipv4Address)
variable (allow block : List Rule)
variable (address : Ipv4Address)
variable (direction : Direction)
variable (protocol : IpProtocol)
variable (destinationPort : Option UInt16)

theorem expandPolicy_canonical
    {e : PolicyEntry}
    (he : e ∈ expandPolicy hostAddress peerAddresses allow block) :
    e.net.trunc = e.net := by
  rcases List.mem_append.mp he with he | he
  · obtain ⟨rule, _, he⟩ := List.mem_flatMap.mp he
    exact (Rule.mem_expand he).2
  · obtain ⟨rule, _, he⟩ := List.mem_flatMap.mp he
    exact (Rule.mem_expand he).2

/-- A match in the compiled tables is a matching entry that was not overwritten. -/
theorem Rules.hit_new_iff
    (net : Ipv4Net)
    (filter : Filter)
    (action : Action) :
    (Rules.new order hostAddress peerAddresses allow block).Hit
        address direction protocol destinationPort net filter action
      ↔
    net.trunc = net ∧
      (⟨direction, net, filter, action⟩ : PolicyEntry).Matches
        address direction protocol destinationPort ∧
      PendingRules.action
        ((Rules.pendingTables hostAddress peerAddresses allow block).table direction)
        net filter = some action := by
  have hentries :
      (Rules.new order hostAddress peerAddresses allow block).entries direction =
        compileRules order direction
          ((Rules.pendingTables hostAddress peerAddresses allow block).table
            direction) := by
    cases direction <;> rfl
  have hpasses :=
    filterMatches_iff ⟨direction, net, filter, action⟩ protocol destinationPort
  constructor
  · intro hit
    have hstored := hit.stored
    rw [hentries, mem_compileRules_iff] at hstored
    exact ⟨hit.canonical, ⟨rfl, hit.contains, hpasses.mp hit.passes⟩, hstored⟩
  · rintro ⟨hcanonical, ⟨_, hcontains, hfilter⟩, hstored⟩
    refine ⟨?_, hcanonical, hcontains, hpasses.mpr hfilter⟩
    rw [hentries, mem_compileRules_iff]
    exact hstored

/-- Every match in the compiled tables is a matching entry of the policy. -/
theorem Rules.mem_expandPolicy_of_hit
    {net : Ipv4Net}
    {filter : Filter}
    {action : Action}
    (hit : (Rules.new order hostAddress peerAddresses allow block).Hit
      address direction protocol destinationPort net filter action) :
    ⟨direction, net, filter, action⟩ ∈
        expandPolicy hostAddress peerAddresses allow block ∧
      (⟨direction, net, filter, action⟩ : PolicyEntry).Matches
        address direction protocol destinationPort := by
  obtain ⟨_, hmatch, hstored⟩ := (Rules.hit_new_iff ..).mp hit
  refine ⟨?_, hmatch⟩
  rw [pendingTables_action] at hstored
  split at hstored
  · next hblock =>
      cases hstored
      exact hblock
  · split at hstored
    · next hallow =>
        cases hstored
        exact hallow
    · cases hstored

/--
Every matching entry of the policy is a match in the compiled tables, unless a
block for the same network and filter replaced it; that block matches as well.
-/
theorem Rules.exists_hit_of_mem
    {e : PolicyEntry}
    (he : e ∈ expandPolicy hostAddress peerAddresses allow block)
    (hmatch : e.Matches address direction protocol destinationPort) :
    ∃ action,
      (Rules.new order hostAddress peerAddresses allow block).Hit
        address direction protocol destinationPort e.net e.filter action ∧
      (e.action = .block → action = .block) := by
  have hcanonical := expandPolicy_canonical _ _ _ _ he
  obtain ⟨d, net, filter, action⟩ := e
  obtain rfl : d = direction := hmatch.1
  have hmerged := pendingTables_action hostAddress peerAddresses allow block d net filter
  by_cases hblock : (⟨d, net, filter, .block⟩ : PolicyEntry) ∈
      expandPolicy hostAddress peerAddresses allow block
  · rw [if_pos hblock] at hmerged
    refine ⟨.block, ?_, fun _ => rfl⟩
    refine (Rules.hit_new_iff ..).mpr ⟨hcanonical, ?_, hmerged⟩
    obtain ⟨_, hcontains, hprotocol, hport⟩ := hmatch
    refine ⟨rfl, hcontains, hprotocol, ?_⟩
    intro range hrange
    have := hport range hrange
    cases destinationPort with
    | none => exact ⟨rfl, this.2⟩
    | some port => exact this
  · rw [if_neg hblock] at hmerged
    cases action with
    | block => exact absurd he hblock
    | allow =>
        rw [if_pos he] at hmerged
        exact ⟨.allow, (Rules.hit_new_iff ..).mpr ⟨hcanonical, hmatch, hmerged⟩,
          fun h => h⟩

theorem Rules.new_sorted :
    (Rules.new order hostAddress peerAddresses allow block).Sorted direction := by
  have hcompiled : ∀ pending net filters,
      (compileRules order direction pending).get net = some filters →
      filters.Pairwise
        (fun x y =>
          rulePriority net.prefixLen y.1 y.2 ≤
            rulePriority net.prefixLen x.1 x.2) := by
    intro pending net filters hget
    rw [compileRules, Cidr.PrefixMap.get_mapValues, Option.map_eq_some_iff] at hget
    obtain ⟨entries, _, rfl⟩ := hget
    exact sortFilters_sorted net _
  cases direction <;> exact hcompiled _

/-- Nothing is selected exactly when no entry of the policy matches. -/
theorem Rules.select_new_eq_none_iff :
    (Rules.new order hostAddress peerAddresses allow block).select
        address direction protocol destinationPort = none
      ↔
    ∀ e ∈ expandPolicy hostAddress peerAddresses allow block,
      ¬ e.Matches address direction protocol destinationPort := by
  rw [Rules.select_eq_none_iff]
  constructor
  · intro hnone e he hmatch
    obtain ⟨action, hit, _⟩ :=
      Rules.exists_hit_of_mem order _ _ _ _ _ _ _ _ he hmatch
    exact hnone _ _ _ hit
  · intro hnone net filter action hit
    obtain ⟨he, hmatch⟩ := Rules.mem_expandPolicy_of_hit _ _ _ _ _ _ _ _ _ hit
    exact hnone _ he hmatch

/-- A block is selected exactly when a most specific matching entry blocks. -/
theorem Rules.select_new_eq_block_iff :
    (Rules.new order hostAddress peerAddresses allow block).select
        address direction protocol destinationPort = some .block
      ↔
    ∃ e ∈ expandPolicy hostAddress peerAddresses allow block,
      e.Matches address direction protocol destinationPort ∧
      e.action = .block ∧
      ∀ e' ∈ expandPolicy hostAddress peerAddresses allow block,
        e'.Matches address direction protocol destinationPort →
        PolicyEntry.specificity e'.net e'.filter ≤
          PolicyEntry.specificity e.net e.filter := by
  have hsorted :=
    Rules.new_sorted order hostAddress peerAddresses allow block direction
  constructor
  · intro hselect
    obtain ⟨net, filter, hit, hmax⟩ := Rules.select_eq_some hsorted hselect
    obtain ⟨he, hmatch⟩ := Rules.mem_expandPolicy_of_hit _ _ _ _ _ _ _ _ _ hit
    refine ⟨_, he, hmatch, rfl, ?_⟩
    intro e' he' hmatch'
    obtain ⟨action', hit', _⟩ :=
      Rules.exists_hit_of_mem order _ _ _ _ _ _ _ _ he' hmatch'
    rcases (rulePriority_le_iff ..).mp (hmax _ _ _ hit') with hlt | ⟨heq, _⟩
    · exact hlt.le
    · exact heq.le
  · rintro ⟨e, he, hmatch, hblock, hmax⟩
    obtain ⟨action, hit, hstays⟩ :=
      Rules.exists_hit_of_mem order _ _ _ _ _ _ _ _ he hmatch
    obtain rfl := hstays hblock
    cases hselect : (Rules.new order hostAddress peerAddresses allow block).select
        address direction protocol destinationPort with
    | none =>
        exact absurd hit (Rules.select_eq_none_iff.mp hselect _ _ _)
    | some chosen =>
        obtain ⟨net, filter, best, hbest⟩ := Rules.select_eq_some hsorted hselect
        obtain ⟨hmem, hmatch'⟩ := Rules.mem_expandPolicy_of_hit _ _ _ _ _ _ _ _ _ best
        -- the chosen entry is no more specific than the block, so the block bit decides
        rcases (rulePriority_le_iff ..).mp (hbest _ _ _ hit) with hlt | ⟨_, hbit⟩
        · exact absurd (hmax _ hmem hmatch') (not_le.mpr hlt)
        · rw [hbit rfl]

/-- Which entries a policy has depends only on which rules it has. -/
theorem mem_expandPolicy_congr
    {allow' block' : List Rule}
    (hallow : ∀ rule, rule ∈ allow' ↔ rule ∈ allow)
    (hblock : ∀ rule, rule ∈ block' ↔ rule ∈ block)
    (e : PolicyEntry) :
    e ∈ expandPolicy hostAddress peerAddresses allow' block'
      ↔
    e ∈ expandPolicy hostAddress peerAddresses allow block := by
  have hany :
      (allow' ++ block').any Rule.isStateful = (allow ++ block).any Rule.isStateful := by
    rw [Bool.eq_iff_iff]
    simp only [List.any_eq_true, List.mem_append, hallow, hblock]
  have hmode : policyMode allow' block' = policyMode allow block := by
    simp only [policyMode, hany]
  simp only [expandPolicy, hmode, List.mem_append, List.mem_flatMap, hallow, hblock]

/-- What is selected depends only on which entries the policy has. -/
theorem Rules.select_new_congr
    {order' : HashOrder} {allow' block' : List Rule}
    (hmem : ∀ e,
      e ∈ expandPolicy hostAddress peerAddresses allow' block'
        ↔
      e ∈ expandPolicy hostAddress peerAddresses allow block) :
    (Rules.new order' hostAddress peerAddresses allow' block').select
        address direction protocol destinationPort =
      (Rules.new order hostAddress peerAddresses allow block).select
        address direction protocol destinationPort := by
  have hnone :
      (Rules.new order' hostAddress peerAddresses allow' block').select
          address direction protocol destinationPort = none
        ↔
      (Rules.new order hostAddress peerAddresses allow block).select
          address direction protocol destinationPort = none := by
    simp only [Rules.select_new_eq_none_iff, hmem]
  have hblocked :
      (Rules.new order' hostAddress peerAddresses allow' block').select
          address direction protocol destinationPort = some .block
        ↔
      (Rules.new order hostAddress peerAddresses allow block).select
          address direction protocol destinationPort = some .block := by
    simp only [Rules.select_new_eq_block_iff, hmem]
  -- an optional action is determined by whether it is absent and whether it blocks
  generalize (Rules.new order' hostAddress peerAddresses allow' block').select
    address direction protocol destinationPort = chosen' at hnone hblocked ⊢
  generalize (Rules.new order hostAddress peerAddresses allow block).select
    address direction protocol destinationPort = chosen at hnone hblocked ⊢
  rcases chosen with _ | ⟨_ | _⟩ <;> rcases chosen' with _ | ⟨_ | _⟩ <;> simp_all

/--
The compiled policy decides by the documented precedence over the rules as they
were given.  Order and multiplicity of the rules do not matter, nor do the
iteration order of the hash maps and the order of ties in the sort.
-/
theorem Rules.select_documented_precedence :
    ((Rules.new order hostAddress peerAddresses allow block).select
        address direction protocol destinationPort = none
      ↔
    ∀ e ∈ expandPolicy hostAddress peerAddresses allow block,
      ¬ e.Matches address direction protocol destinationPort) ∧
    ((Rules.new order hostAddress peerAddresses allow block).select
        address direction protocol destinationPort = some .block
      ↔
    ∃ e ∈ expandPolicy hostAddress peerAddresses allow block,
      e.Matches address direction protocol destinationPort ∧
      e.action = .block ∧
      ∀ e' ∈ expandPolicy hostAddress peerAddresses allow block,
        e'.Matches address direction protocol destinationPort →
        PolicyEntry.specificity e'.net e'.filter ≤
          PolicyEntry.specificity e.net e.filter) ∧
    ∀ (order' : HashOrder) (allow' block' : List Rule),
      (∀ rule, rule ∈ allow' ↔ rule ∈ allow) →
      (∀ rule, rule ∈ block' ↔ rule ∈ block) →
      (Rules.new order' hostAddress peerAddresses allow' block').select
          address direction protocol destinationPort =
        (Rules.new order hostAddress peerAddresses allow block).select
          address direction protocol destinationPort := by
  refine ⟨Rules.select_new_eq_none_iff .., Rules.select_new_eq_block_iff .., ?_⟩
  intro order' allow' block' hallow hblock
  exact Rules.select_new_congr order hostAddress peerAddresses allow block address direction
    protocol destinationPort
    (mem_expandPolicy_congr hostAddress peerAddresses allow block hallow hblock)

end Decision

end RulesPrecedence

end Softnet
