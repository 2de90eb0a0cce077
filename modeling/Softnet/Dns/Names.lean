import Softnet.Dhcp.Server
import Softnet.Lib.Fallible
import Softnet.Network

/-!
# The names of the VMs

`DnsServer::new` in `lib/dns_server/mod.rs`: the names of a batch are checked in order and
entered into the zone of the server.  What `hickory` says about a name is a parameter.
-/

namespace Softnet

/-- What `hickory` answers about names and about its zone. -/
structure Hickory where
  /-- `Display for Name`. -/
  nameText : Name → String
  isFqdn : Name → Bool
  numLabels : Name → Nat
  isWildcard : Name → Bool
  /-- Names are compared in lower case. -/
  lowercase : Name → String
  /-- The zone accepts its `SOA` record. -/
  upsertSoa : Bool
  /-- The zone accepts the address of a name. -/
  upsertAddress : Name → Ipv4Address → Bool
  /-- The server of the finished zone. -/
  serve : List (Name × Ipv4Address) → DnsServer

/-- A name that `DnsServer::new` accepts. -/
def Hickory.isLabel (hickory : Hickory) (name : Name) : Bool :=
  !(hickory.isFqdn name || hickory.numLabels name != 1 || hickory.isWildcard name)

/-- The loop over the records; `names` are those already in use. -/
def registerNames (hickory : Hickory) (names : List String) :
    List (Name × Ipv4Address) → Except ErrorChain Unit
  | [] => .ok ()
  | (name, address) :: records =>
      if !hickory.isLabel name then
        .error ["invalid VM name " ++ hickory.nameText name ++ ": expected a single DNS label"]
      else if hickory.lowercase name ∈ names then
        .error ["VM name " ++ hickory.nameText name ++ " is already in use"]
      else if !hickory.upsertAddress name address then
        .error ["failed to register a VM DNS name"]
      else
        registerNames hickory (hickory.lowercase name :: names) records

def DnsServer.new (hickory : Hickory) (records : List (Name × Ipv4Address)) :
    Except ErrorChain DnsServer :=
  if !hickory.upsertSoa then
    .error ["failed to initialize the VM DNS zone"]
  else
    (registerNames hickory [] records).map fun _ => hickory.serve records

section Faults

variable {hickory : Hickory}
variable {records : List (Name × Ipv4Address)}
variable {error : ErrorChain}

/-- What is wrong with the names of a batch. -/
inductive NameFault (hickory : Hickory) (records : List (Name × Ipv4Address)) :
    ErrorChain → Prop
  | invalid
      {index : Nat} {name : Name} {address : Ipv4Address}
      (present : records[index]? = some (name, address))
      (label : hickory.isLabel name = false) :
      NameFault hickory records
        ["invalid VM name " ++ hickory.nameText name ++ ": expected a single DNS label"]
  | duplicate
      {index earlier : Nat} {name other : Name} {address address' : Ipv4Address}
      (present : records[index]? = some (name, address))
      (before : earlier < index)
      (taken : records[earlier]? = some (other, address'))
      (same : hickory.lowercase name = hickory.lowercase other) :
      NameFault hickory records
        ["VM name " ++ hickory.nameText name ++ " is already in use"]
  | soa
      (refused : hickory.upsertSoa = false) :
      NameFault hickory records ["failed to initialize the VM DNS zone"]
  | address
      {index : Nat} {name : Name} {address : Ipv4Address}
      (present : records[index]? = some (name, address))
      (refused : hickory.upsertAddress name address = false) :
      NameFault hickory records ["failed to register a VM DNS name"]

/-- Names are refused for what they are, or for a name before them. -/
theorem registerNames_fault
    (before : List (Name × Ipv4Address))
    (h :
      registerNames hickory (before.map fun record => hickory.lowercase record.1).reverse records =
        .error error) :
    NameFault hickory (before ++ records) error := by
  induction records generalizing before with
  | nil => cases h
  | cons record records ih =>
      obtain ⟨name, address⟩ := record
      have hhere :
          (before ++ (name, address) :: records)[before.length]? = some (name, address) := by
        simp
      unfold registerNames at h
      split at h
      · next hlabel =>
          cases h
          exact .invalid hhere (by simpa using hlabel)
      · split at h
        · next hused =>
            cases h
            obtain ⟨⟨other, address'⟩, hmem, hsame⟩ : ∃ record ∈ before,
                hickory.lowercase record.1 = hickory.lowercase name := by
              simpa using hused
            obtain ⟨earlier, hearlier⟩ := List.mem_iff_getElem?.mp hmem
            have hlt := (List.getElem?_eq_some_iff.mp hearlier).1
            exact .duplicate hhere hlt (by rw [List.getElem?_append_left hlt, hearlier]) hsame.symm
        · split at h
          · next hrefused =>
              cases h
              exact .address hhere (by simpa using hrefused)
          · have hnext := ih (before ++ [(name, address)]) (by simpa using h)
            simpa using hnext

theorem DnsServer.fault_of_new
    (h : DnsServer.new hickory records = .error error) :
    NameFault hickory records error := by
  unfold DnsServer.new at h
  split at h
  · next hrefused =>
      cases h
      exact .soa (by simpa using hrefused)
  · exact registerNames_fault [] (Except.map_eq_error_iff.mp h)

end Faults

end Softnet
