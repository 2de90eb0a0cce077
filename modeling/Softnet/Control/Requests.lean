import Softnet.Control.PolicyRequests
import Softnet.Control.Transport
import Softnet.Lib.Json
import Softnet.Manager.Service

/-!
# Requests on the control socket

`Control::parse` in `lib/control.rs` and `FromStr for ExposedPort` in
`lib/proxy/exposed_port.rs`: a frame is a JSON-RPC request for the manager, or it is answered
with an error at once.  How `serde_json` reads a text is a parameter; how records are read from
a document follows the attributes of their declarations.
-/

namespace Softnet

/-! ## Exposed ports -/

/-- `FromStr for ExposedPort`. -/
def ExposedPort.fromStr (reader : RuleReader) (input : String) :
    Except ErrorChain ExposedPort := do
  let parsePort := fun (side : String) (port : List Char) =>
    context ("invalid " ++ side ++ " port " ++ reader.debugText (String.ofList port))
      ((parseU16 port).mapError fun error => [error])
  match input.toList.splitOn ':' with
  | [external, internal] =>
      return ⟨← parsePort "external" external, ← parsePort "internal" internal⟩
  | _ =>
      .error
        ["invalid exposed port specification " ++ reader.debugText input ++
          ", the format should be EXTERNAL:INTERNAL"]

/-- A run of digits with the value of this number, after a plus sign or none. -/
def IsU16 (text : List Char) (value : UInt16) : Prop :=
  ∃ digits, (text = digits ∨ text = '+' :: digits) ∧ IsPort digits value

/-- Two ports with a colon. -/
def IsExposedPort (text : List Char) (port : ExposedPort) : Prop :=
  ∃ external internal, text = external ++ ':' :: internal ∧
    IsU16 external port.externalPort ∧ IsU16 internal port.internalPort

/-! ## Requests -/

inductive RpcId where
  | null
  | number (value : UInt64)
  | str (value : String)
deriving DecidableEq

/-- A request of `jsonrpsee`, which borrows its parameters from the line that it was read from. -/
structure RpcRequest where
  id : RpcId
  method : String
  params : Option Json.Value
  line : String

/-- What the crates outside the repository make of texts. -/
structure ControlCrates where
  /-- `serde_json::from_str`. -/
  fromStr : String → Option Json.Value
  /-- The message of `jsonrpsee` about parameters of another shape. -/
  invalidParamsText : String
  /-- What `serde_json` says about parameters of another shape. -/
  shapeError : RpcRequest → String
  /-- `FromStr for MacAddress` of `mac_address`. -/
  macFromStr : String → Option EthernetAddress
  /-- `Name::from_ascii` of `hickory`. -/
  nameFromAscii : String → Option Name
  /-- `FromStr for Uuid` of `uuid`. -/
  uuidFromStr : String → Option Uuid
  reader : RuleReader

/-- What is answered to a frame. -/
structure Response where
  id : RpcId
  result : Except RpcError Json.Value

def parseErrorCode : Int := -32700

def invalidRequestCode : Int := -32600

def methodNotFoundCode : Int := -32601

structure VmParams where
  vmMacAddress : String
  name : Option String
  allow : List String
  block : List String
  expose : List String

structure InitializeParams where
  vmNetType : Option String
  vms : List VmParams

structure GetParams where
  vmId : Option String

structure SetParams where
  vmId : Option String
  allow : List String
  block : List String

/-- A request for the manager, and the descriptors of its VMs in order. -/
structure Parsed where
  request : Request
  vmFds : List OwnedFd

section Reading

open Json

def RpcId.ofJson : Value → Option RpcId
  | .null => some .null
  | .number (.natural value) => some (.number value)
  | .string value => some (.str value)
  | _ => none

def RpcId.toJson : RpcId → Value
  | .null => .null
  | .number value => .number (.natural value)
  | .str value => .string value

def envelopeFields : List String :=
  ["jsonrpc", "id", "method", "params"]

/-- `Deserialize for Request`; members that it does not know are ignored. -/
def RpcRequest.ofJson (line : String) (doc : Value) : Option RpcRequest :=
  match doc.slots false envelopeFields with
  | some [jsonrpc, id, method, params] => do
      let version ← jsonrpc.required readString
      if version ≠ "2.0" then
        none
      else
        return ⟨← id.required RpcId.ofJson, ← method.required readString,
          ← params.optional some, line⟩
  | _ => none

def VmParams.ofJson (doc : Value) : Option VmParams :=
  match doc.slots true ["vmMacAddress", "name", "allow", "block", "expose"] with
  | some [vmMacAddress, name, allow, block, expose] => do
      return {
        vmMacAddress := ← vmMacAddress.required readString
        name := ← name.optional readString
        allow := ← allow.defaulted [] (readList readString)
        block := ← block.defaulted [] (readList readString)
        expose := ← expose.defaulted [] (readList readString) }
  | _ => none

def InitializeParams.ofJson (doc : Value) : Option InitializeParams :=
  match doc.slots true ["vmNetType", "vms"] with
  | some [vmNetType, vms] => do
      return {
        vmNetType := ← vmNetType.defaulted none (nullable readString)
        vms := ← vms.required (readList VmParams.ofJson) }
  | _ => none

def GetParams.ofJson (doc : Value) : Option GetParams :=
  match doc.slots true ["vmId"] with
  | some [vmId] => return ⟨← vmId.defaulted none (nullable readString)⟩
  | _ => none

def SetParams.ofJson (doc : Value) : Option SetParams :=
  match doc.slots true ["vmId", "allow", "block"] with
  | some [vmId, allow, block] => do
      return {
        vmId := ← vmId.defaulted none (nullable readString)
        allow := ← allow.required (readList readString)
        block := ← block.required (readList readString) }
  | _ => none

end Reading

/-! ## Parsing -/

/-- A result that is there or fails with this error. -/
def Attempt.ofOption {ε α : Type} (error : ε) : Option α → Attempt ε α
  | some value => .done value
  | none => .failed error

/-- An optional value is parsed if it is there. -/
def Attempt.transpose {ε α β : Type} (parse : α → Attempt ε β) :
    Option α → Attempt ε (Option β)
  | some value => do return some (← parse value)
  | none => .done none

def invalidParams (message : String) : RpcError :=
  rpcError invalidParamsCode message

/-- `Params::parse` of `jsonrpsee`, where `serde_json` says what is wrong with the shape. -/
def RpcRequest.parseParams
    {α : Type}
    (crates : ControlCrates)
    (request : RpcRequest)
    (read : Json.Value → Option α) :
    Attempt RpcError α :=
  -- Parameters that are left out are read as null
  .ofOption ⟨invalidParamsCode, crates.invalidParamsText, some (crates.shapeError request)⟩
    (read (request.params.getD .null))

namespace Control

def parseVmId (crates : ControlCrates) (vmId : Option String) :
    Attempt RpcError (Option Uuid) :=
  Attempt.transpose
    (fun vmId => .ofOption (invalidParams "unknown vmId") (crates.uuidFromStr vmId)) vmId

/-- The configuration of one VM, without its descriptor. -/
def parseVm (crates : ControlCrates) (params : VmParams) : Attempt RpcError VmConfig := do
  let vmMacAddress ←
    .ofOption (invalidParams "invalid vmMacAddress") (crates.macFromStr params.vmMacAddress)
  -- Parse optional VM names for DNS lookup
  let name ←
    .transpose (fun name => .ofOption (invalidParams "invalid name") (crates.nameFromAscii name))
      params.name
  let (allow, block) ← parsePolicy crates.reader params.allow params.block
  let exposedPorts ← params.expose.mapM fun port =>
    (Attempt.ofExcept (ExposedPort.fromStr crates.reader port)).mapError fun _ =>
      invalidParams "invalid exposed port specification"
  return ⟨vmMacAddress, name, allow, block, exposedPorts⟩

def parseNetType (vmNetType : Option String) : Attempt RpcError NetType :=
  let vmNetType := vmNetType.getD "nat"
  if vmNetType = "nat" then
    .done .nat
  else if vmNetType = "host" then
    .done .host
  else
    .failed (invalidParams "vmNetType must be nat or host")

def parseInitialize
    (crates : ControlCrates)
    (fds : List OwnedFd)
    (params : InitializeParams) :
    Attempt RpcError Parsed := do
  if ¬ (1 ≤ params.vms.length ∧ params.vms.length ≤ maxVms) then
    .failed (invalidParams ("vms must contain between 1 and " ++ toString maxVms ++ " entries"))
  else if fds.length ≠ params.vms.length then
    .failed (invalidParams "softnet.initialize requires exactly one SCM_RIGHTS descriptor per VM")
  else
    let vmNetType ← parseNetType params.vmNetType
    -- Consume descriptors in the same order as their VM configurations
    let vms ← (params.vms.zip fds).mapM fun vm => do
      let config ← parseVm crates vm.1
      return (config, vm.2)
    return ⟨.initializeVms vmNetType (vms.map Prod.fst), vms.map Prod.snd⟩

def parseGetParams (crates : ControlCrates) (request : RpcRequest) :
    Attempt RpcError GetParams := do
  match ← request.parseParams crates some with
  | .null => .done ⟨none⟩
  | .object _ => request.parseParams crates GetParams.ofJson
  | _ => .failed (invalidParams "invalid policy target")

def parseMethod
    (crates : ControlCrates)
    (request : RpcRequest)
    (fds : List OwnedFd) :
    Attempt RpcError Parsed := do
  if request.method = "softnet.initialize" then
    let params ← request.parseParams crates InitializeParams.ofJson
    parseInitialize crates fds params
  else if request.method = "softnet.policy.get" then
    let params ← parseGetParams crates request
    return ⟨.policy (← parseVmId crates params.vmId) .policyGet, []⟩
  else if request.method = "softnet.policy.set" then
    let params ← request.parseParams crates SetParams.ofJson
    let vmId ← parseVmId crates params.vmId
    let (allow, block) ← parsePolicy crates.reader params.allow params.block
    return ⟨.policy vmId (.policySet allow block), []⟩
  else
    .failed (rpcError methodNotFoundCode "method not found")

/-- Every member of the object is one of a request. -/
def strictEnvelope : Json.Value → Bool
  | .object members => members.all fun member => member.1 ∈ envelopeFields
  | _ => false

/-- A string or a natural number. -/
def validId (doc : Json.Value) : Bool :=
  match doc.get "id" with
  | some (.string _) | some (.number (.natural _)) => true
  | _ => false

/-- The id that an error response can name. -/
def recoveredId (doc : Json.Value) : RpcId :=
  match doc.get "id" with
  | some (.string value) => .str value
  | some (.number (.natural value)) => .number value
  | _ => .null

/-- `error_response`. -/
def errorResponse (id : RpcId) (code : Int) (message : String) : Response :=
  ⟨id, .error (rpcError code message)⟩

def parseRequest (crates : ControlCrates) (line : String) : Except Response RpcRequest :=
  match crates.fromStr line with
  | none => .error (errorResponse .null parseErrorCode "invalid JSON-RPC frame")
  | some doc =>
      match RpcRequest.ofJson line doc with
      | some request =>
          if strictEnvelope doc ∧ validId doc then
            .ok request
          else
            .error (errorResponse (recoveredId doc) invalidRequestCode "invalid JSON-RPC request")
      | none =>
          .error (errorResponse (recoveredId doc) invalidRequestCode "invalid JSON-RPC request")

/-- Validates a frame and returns its request or a complete error response. -/
def parse (crates : ControlCrates) (frame : Frame) : Attempt Response (RpcId × Parsed) :=
  match frame.line with
  -- The request has not been parsed, so its id is not known
  | .error error => .failed (errorResponse .null parseErrorCode error.text)
  | .ok line => do
      let request ← .ofExcept (parseRequest crates line)
      let parsed ←
        (parseMethod crates request frame.fds).mapError fun error =>
          ⟨request.id, .error error⟩
      return (request.id, parsed)

end Control

end Softnet
