import Softnet.Proxy.RuleLanguage

/-!
# Printing rules

The printed text of a rule denotes this rule, and so is read back as it was.  Prefixes
are printed and read by `ipnet`, of which only `NetsRoundTrip` is assumed;
`decimalNets` are the usual notation, which meets the assumption.

Not every rule can be read: a port needs a transport protocol.  `NetsRoundTrip.readable_iff`
says that this is the only exception.
-/

namespace Softnet

section RoundTrip

/-- Prefixes are printed with digits, dots and one slash, and read back as they were. -/
structure NetsRoundTrip (crates : Crates) (reader : RuleReader) : Prop where
  netFromStr_netText : ∀ net, reader.netFromStr (crates.netText net) = .ok net
  netText_shape :
    ∀ net, ∃ address len : List Char,
      (crates.netText net).toList = address ++ '/' :: len ∧
        ∀ c ∈ address ++ len, (c.isDigit || c == '.') = true

/-- Rules that the parser returns for some text. -/
def Rule.Readable (reader : RuleReader) (rule : Rule) : Prop :=
  ∃ input, Rule.fromStr reader input = .done rule

/-- A port is filtered with a transport protocol only. -/
def Filter.Supported (filter : Filter) : Prop :=
  filter.destinationPortRange = none ∨ filter.protocol = some .tcp ∨ filter.protocol = some .udp

def Rule.Supported : Rule → Prop
  | .stateless _ => True
  | .stateful _ _ filter => filter.Supported

variable {crates : Crates}
variable {reader : RuleReader}

theorem Rule.Readable.supported
    {rule : Rule}
    (h : rule.Readable reader) :
    rule.Supported := by
  obtain ⟨input, h⟩ := h
  rw [Rule.fromStr_eq_done_iff] at h
  generalize input.toList = text at h
  cases h with
  | bare => exact trivial
  | directional protocolPart targetPart portPart transport => exact transport

theorem Rule.Supported.normalized
    {rule : Rule}
    (h : rule.Supported) :
    rule.normalized.Supported := by
  cases rule with
  | stateless target => exact trivial
  | stateful direction target filter => exact h

theorem isDigits_toString
    (n : Nat) :
    IsDigits (toString n).toList := by
  rw [Nat.toString_eq_ofList_toDigits, String.toList_ofList]
  exact ⟨Nat.toDigits_ne_nil, fun c hc => Nat.isDigit_of_mem_toDigits (by decide) (by decide) hc⟩

theorem isPort_toString
    (port : UInt16) :
    IsPort (toString port.toNat).toList port := by
  refine ⟨isDigits_toString port.toNat, ?_⟩
  rw [Nat.toString_eq_ofList_toDigits, String.toList_ofList, Nat.ofDigitChars_ten_toDigits]

theorem isPortRange_text
    (range : PortRange) :
    IsPortRange range.text.toList range := by
  unfold PortRange.text
  split
  · next heq => exact .single (isPort_toString range.first) heq.symm
  · simp only [String.toList_append, List.append_assoc]
    exact .span (isPort_toString range.first) (isPort_toString range.last)

theorem NetsRoundTrip.isTarget_text
    (nets : NetsRoundTrip crates reader)
    (target : Target) :
    IsTarget reader (target.text crates).toList target := by
  cases target with
  | host => exact .host
  | peers => exact .peers
  | netPrefix net =>
      obtain ⟨address, len, htext, hchars⟩ := nets.netText_shape net
      have haccepted : reader.netFromStr (String.ofList (crates.netText net).toList) = .ok net := by
        rw [String.ofList_toList, nets.netFromStr_netText]
      refine .net ?_ ?_ haccepted
      · simp [Target.text, htext]
      · intro c hc
        rw [Target.text, htext, List.mem_append, List.mem_cons] at hc
        rcases hc with hc | rfl | hc
        · have := hchars c (List.mem_append_left _ hc)
          grind [isTargetChar]
        · rfl
        · have := hchars c (List.mem_append_right _ hc)
          grind [isTargetChar]

/-- A protocol as it is printed behind the direction. -/
def protocolPartText : Option Protocol → List Char
  | none => []
  | some protocol => blanks 0 ++ ("proto".toList ++ (blanks 0 ++ protocol.text.toList))

/-- A port as it is printed behind the target. -/
def portPartText : Option PortRange → List Char
  | none => []
  | some range => blanks 0 ++ ("port".toList ++ (blanks 0 ++ range.text.toList))

theorem part_protocolPartText
    (protocol : Option Protocol) :
    Part (Keyword "proto" IsProtocol) (protocolPartText protocol) protocol := by
  cases protocol with
  | none => exact .absent
  | some protocol => exact .present (.mk rfl)

theorem part_portPartText
    (range : Option PortRange) :
    Part (Keyword "port" IsPortRange) (portPartText range) range := by
  cases range with
  | none => exact .absent
  | some range => exact .present (.mk (isPortRange_text range))

theorem toList_text_stateful
    (direction : Direction)
    (target : Target)
    (protocol : Option Protocol)
    (range : Option PortRange) :
    (Rule.text crates (.stateful direction target ⟨protocol, range⟩)).toList =
      direction.text.toList ++
        (protocolPartText protocol ++
          ((blanks 0 ++ (target.text crates).toList) ++ portPartText range)) := by
  cases protocol <;> cases range <;>
    simp [Rule.text, protocolPartText, portPartText, blanks]

/-- The printed text of a rule denotes it. -/
theorem NetsRoundTrip.denotes_text
    (nets : NetsRoundTrip crates reader)
    {rule : Rule}
    (h : rule.Supported) :
    Denotes reader (rule.text crates).toList rule := by
  cases rule with
  | stateless target => exact .bare (nets.isTarget_text target)
  | stateful direction target filter =>
      rw [toList_text_stateful]
      exact .directional (part_protocolPartText _) (.present (nets.isTarget_text target))
        (part_portPartText _) h

theorem NetsRoundTrip.fromStr_text
    (nets : NetsRoundTrip crates reader)
    {rule : Rule}
    (h : rule.Supported) :
    Rule.fromStr reader (rule.text crates) = .done rule :=
  Rule.fromStr_eq_done_iff.mpr (nets.denotes_text h)

theorem NetsRoundTrip.readable_iff
    (nets : NetsRoundTrip crates reader)
    {rule : Rule} :
    rule.Readable reader ↔ rule.Supported :=
  ⟨Rule.Readable.supported, fun h => ⟨_, nets.fromStr_text h⟩⟩

/-- Rules that print alike are the same. -/
theorem NetsRoundTrip.text_injective
    (nets : NetsRoundTrip crates reader)
    {rule rule' : Rule}
    (h : rule.Supported)
    (h' : rule'.Supported)
    (htext : rule.text crates = rule'.text crates) :
    rule = rule' := by
  have hdone := nets.fromStr_text h
  rw [htext, nets.fromStr_text h'] at hdone
  cases hdone
  rfl

end RoundTrip

/-! ## The decimal notation -/

section Decimal

/-- A run of digits as a number up to this bound. -/
def readDecimal (bound : Nat) (text : List Char) : Option (Fin (bound + 1)) :=
  if h : (text ≠ [] ∧ text.all Char.isDigit) ∧ Nat.ofDigitChars 10 text 0 < bound + 1 then
    some ⟨Nat.ofDigitChars 10 text 0, h.2⟩
  else
    none

/-- Four octets set apart by dots, a slash and the prefix length. -/
def readNet (text : List Char) : Option Ipv4Net := do
  let (address, len) ← splitOnce '/' text
  let (a, address) ← splitOnce '.' address
  let (b, address) ← splitOnce '.' address
  let (c, d) ← splitOnce '.' address
  let a ← readDecimal 255 a
  let b ← readDecimal 255 b
  let c ← readDecimal 255 c
  let d ← readDecimal 255 d
  let len ← readDecimal 32 len
  return ⟨BitVec.ofNat 32 (((a * 256 + b) * 256 + c) * 256 + d), len, Nat.le_of_lt_succ len.isLt⟩

def decimalCrates : Crates where
  netText net := ipv4Text net.addr ++ "/" ++ toString net.prefixLen
  isGlobal _ := true

def decimalReader : RuleReader where
  netFromStr input := (readNet input.toList).elim (.error "invalid IP address syntax") .ok
  syntaxError _ := ""
  debugText input := "\"" ++ input ++ "\""

theorem readDecimal_toString
    {bound n : Nat}
    (h : n < bound + 1) :
    readDecimal bound (toString n).toList = some ⟨n, h⟩ := by
  have hdigits := isDigits_toString n
  have hvalue : Nat.ofDigitChars 10 (toString n).toList 0 = n := by
    rw [Nat.toString_eq_ofList_toDigits, String.toList_ofList, Nat.ofDigitChars_ten_toDigits]
  have haccepted :
      ((toString n).toList ≠ [] ∧ (toString n).toList.all Char.isDigit) ∧
        Nat.ofDigitChars 10 (toString n).toList 0 < bound + 1 :=
    ⟨⟨hdigits.1, List.all_eq_true.mpr hdigits.2⟩, hvalue.symm ▸ h⟩
  rw [readDecimal, dif_pos haccepted]
  exact congrArg some (Fin.ext hvalue)

/-- The four octets of an address, and the address again. -/
theorem octets_eq
    (address : Ipv4Address) :
    BitVec.ofNat 32
        ((((address >>> 24).toNat % 256 * 256 + (address >>> 16).toNat % 256) * 256 +
            (address >>> 8).toNat % 256) * 256 + (address >>> 0).toNat % 256) =
      address := by
  apply BitVec.eq_of_toNat_eq
  simp only [BitVec.toNat_ofNat, BitVec.toNat_ushiftRight, Nat.shiftRight_eq_div_pow]
  have := address.isLt
  omega

theorem toList_ipv4Text
    (address : Ipv4Address) :
    (ipv4Text address).toList =
      (toString ((address >>> 24).toNat % 256)).toList ++ '.' ::
        ((toString ((address >>> 16).toNat % 256)).toList ++ '.' ::
          ((toString ((address >>> 8).toNat % 256)).toList ++ '.' ::
            (toString ((address >>> 0).toNat % 256)).toList)) := by
  simp [ipv4Text]

theorem mem_ipv4Text
    {address : Ipv4Address} {c : Char}
    (h : c ∈ (ipv4Text address).toList) :
    (c.isDigit || c == '.') = true := by
  rw [toList_ipv4Text] at h
  simp only [List.mem_append, List.mem_cons] at h
  rcases h with h | rfl | h | rfl | h | rfl | h
  all_goals first
    | rfl
    | rw [(isDigits_toString _).2 c h]
      rfl

theorem readNet_netText
    (net : Ipv4Net) :
    readNet (decimalCrates.netText net).toList = some net := by
  have hslash : '/' ∉ (ipv4Text net.addr).toList := fun h =>
    absurd (mem_ipv4Text h) (by decide)
  have hdot : ∀ n : Nat, '.' ∉ (toString n).toList := fun n =>
    (isDigits_toString n).notMem rfl
  have htext : (decimalCrates.netText net).toList =
      (ipv4Text net.addr).toList ++ '/' :: (toString net.prefixLen).toList := by
    simp [decimalCrates]
  have hbyte : ∀ n, n % 256 < 255 + 1 := fun n => Nat.mod_lt n (by decide)
  simp only [readNet, htext, splitOnce_append hslash, Option.bind_eq_bind, Option.bind_some]
  simp only [toList_ipv4Text, splitOnce_append (hdot _), Option.bind_some,
    readDecimal_toString (hbyte _), readDecimal_toString (Nat.lt_succ_of_le net.prefixLen_le),
    octets_eq]
  rfl

/-- The decimal notation is read back. -/
theorem decimalNets : NetsRoundTrip decimalCrates decimalReader where
  netFromStr_netText net := by
    simp [decimalReader, readNet_netText]
  netText_shape net := by
    refine ⟨(ipv4Text net.addr).toList, (toString net.prefixLen).toList, ?_, ?_⟩
    · simp [decimalCrates]
    · intro c hc
      rcases List.mem_append.mp hc with hc | hc
      · exact mem_ipv4Text hc
      · rw [(isDigits_toString _).2 c hc]
        rfl

end Decimal

/-! ## Printing and reading -/

/--
Printing a rule that was read and reading it again returns the rule.  The printed text is
canonical: texts that are read as the same rule are printed alike, and only those.
Normalizing commutes with printing and reading.
-/
theorem read_text_of_read
    (crates : Crates)
    (reader : RuleReader)
    (nets : NetsRoundTrip crates reader)
    (input : String)
    (rule : Rule)
    (hread : Rule.fromStr reader input = .done rule) :
    Rule.fromStr reader (rule.text crates) = .done rule ∧
    (∀ input' rule', Rule.fromStr reader input' = .done rule' →
      (rule.text crates = rule'.text crates ↔ rule = rule')) ∧
    Rule.fromStr reader (rule.normalized.text crates) =
      Rule.normalized <$> Rule.fromStr reader (rule.text crates) := by
  have hsupported : rule.Supported := Rule.Readable.supported ⟨input, hread⟩
  have htext := nets.fromStr_text hsupported
  refine ⟨htext, ?_, ?_⟩
  · intro input' rule' hread'
    constructor
    · exact nets.text_injective hsupported (Rule.Readable.supported ⟨input', hread'⟩)
    · exact congrArg (Rule.text crates)
  · rw [htext, nets.fromStr_text hsupported.normalized]
    rfl

/-- A rule with more spaces and zeros than it is printed with, and host bits set. -/
theorem read_text_of_read_spaced :
    Rule.fromStr decimalReader
        (Rule.text decimalCrates
          (.stateful .outbound (.netPrefix ⟨0x0a000005, 8, by decide⟩)
            ⟨some .tcp, some ⟨80, 90, by decide, by decide⟩⟩)) =
      .done
        (.stateful .outbound (.netPrefix ⟨0x0a000005, 8, by decide⟩)
          ⟨some .tcp, some ⟨80, 90, by decide, by decide⟩⟩) :=
  (read_text_of_read decimalCrates decimalReader decimalNets
    "out  proto tcp 10.0.0.5/8   port 080:90" _ rfl).1

end Softnet
