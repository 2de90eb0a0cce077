import Softnet.Lib.Peg
import Softnet.Network

/-!
# Reading rules

The grammar of `lib/proxy/rule.pest` and the parser of `lib/proxy/rule.rs` on top of
it.  The grammar settles the shape of a rule; the prefixes, the names and the ports
in it are read by their own `FromStr` implementations, and a last check ties ports
to protocols.

An `Attempt` may panic: the branches that the source marks as impossible do, so that
their absence can be proved.  What crates outside the repository make of a text are
the fields of `RuleReader`.
-/

namespace Softnet

/-! ## Attempts -/

/-- The result of code that may fail with an error or panic. -/
inductive Attempt (ε α : Type) where
  | done (value : α)
  | failed (error : ε)
  | panicked

namespace Attempt

variable {ε α β : Type}

def bind (attempt : Attempt ε α) (next : α → Attempt ε β) : Attempt ε β :=
  match attempt with
  | .done value => next value
  | .failed error => .failed error
  | .panicked => .panicked

instance : Monad (Attempt ε) where
  pure := .done
  bind := bind

instance : LawfulMonad (Attempt ε) :=
  LawfulMonad.mk' _ (by rintro _ (_ | _ | _) <;> rfl) (fun _ _ => rfl)
    (by rintro _ _ _ (_ | _ | _) _ _ <;> rfl)

def ofExcept : Except ε α → Attempt ε α
  | .ok value => .done value
  | .error error => .failed error

/-- `Result::map_err`. -/
def mapError {ε' : Type} (f : ε → ε') : Attempt ε α → Attempt ε' α
  | .done value => .done value
  | .failed error => .failed (f error)
  | .panicked => .panicked

@[simp] theorem bind_eq_done_iff
    {attempt : Attempt ε α} {next : α → Attempt ε β} {value : β} :
    attempt >>= next = .done value ↔ ∃ a, attempt = .done a ∧ next a = .done value := by
  cases attempt <;> simp [Bind.bind, Attempt.bind]

@[simp] theorem bind_eq_panicked_iff
    {attempt : Attempt ε α} {next : α → Attempt ε β} :
    attempt >>= next = .panicked ↔
      attempt = .panicked ∨ ∃ a, attempt = .done a ∧ next a = .panicked := by
  cases attempt <;> simp [Bind.bind, Attempt.bind]

@[simp] theorem pure_eq_done (value : α) : (pure value : Attempt ε α) = .done value :=
  rfl

@[simp] theorem ofExcept_eq_done_iff
    {result : Except ε α} {value : α} :
    ofExcept result = .done value ↔ result = .ok value := by
  cases result <;> simp [ofExcept]

@[simp] theorem ofExcept_ne_panicked
    (result : Except ε α) :
    ofExcept result ≠ .panicked := by
  cases result <;> simp [ofExcept]

end Attempt

/-! ## The grammar -/

/-- The rules of the grammar, with the end of the input. -/
inductive SyntaxRule where
  | EOI
  | rule
  | stateful
  | direction
  | protocol
  | protocolName
  | port
  | destinationPort
  | target
deriving DecidableEq

namespace Grammar

open Peg

/-- `" "+`. -/
def spaces : Expr SyntaxRule :=
  .many (.literal " ")

def asciiDigit : Expr SyntaxRule :=
  .charClass Char.isDigit

def direction : Expr SyntaxRule :=
  .node .direction (.choice (.literal "in") (.literal "out"))

def protocolName : Expr SyntaxRule :=
  .node .protocolName (.choice (.literal "tcp") (.choice (.literal "udp") (.literal "icmp")))

def protocol : Expr SyntaxRule :=
  .seq (.literal "proto") (.seq spaces protocolName)

def destinationPort : Expr SyntaxRule :=
  .atom .destinationPort
    (.seq (.many asciiDigit) (.optional (.seq (.literal ":") (.many asciiDigit))))

def port : Expr SyntaxRule :=
  .seq (.literal "port") (.seq spaces destinationPort)

def target : Expr SyntaxRule :=
  .atom .target
    (.choice (.literal "@host")
      (.choice (.literal "@peers")
        (.many (.choice asciiDigit (.choice (.literal ".") (.literal "/"))))))

def stateful : Expr SyntaxRule :=
  .node .stateful
    (.seq direction
      (.seq (.optional (.seq spaces protocol))
        (.seq (.optional (.seq spaces target))
          (.optional (.seq spaces port)))))

def rule : Expr SyntaxRule :=
  .seq (.choice stateful target) (.endOfInput .EOI)

end Grammar

/-! ## The parser -/

/-- What the crates outside the repository make of a text. -/
structure RuleReader where
  /-- `FromStr for Ipv4Net` of `ipnet`, with the text of its error. -/
  netFromStr : String → Except String Ipv4Net
  /-- The text of the error with which `pest` rejects an input. -/
  syntaxError : String → String
  /-- `Debug for str`. -/
  debugText : String → String

/-- `EnumString for Direction`. -/
def Direction.fromStr (input : String) : Except ErrorChain Direction :=
  if input = "in" then
    .ok .inbound
  else if input = "out" then
    .ok .outbound
  else
    .error ["Matching variant not found"]

/-- `EnumString for Protocol`. -/
def Protocol.fromStr (input : String) : Except ErrorChain Protocol :=
  if input = "tcp" then
    .ok .tcp
  else if input = "udp" then
    .ok .udp
  else if input = "icmp" then
    .ok .icmp
  else
    .error ["Matching variant not found"]

/-- `FromStr for Target`. -/
def Target.fromStr (reader : RuleReader) (input : String) : Except String Target :=
  if input = "@host" then
    .ok .host
  else if input = "@peers" then
    .ok .peers
  else
    (reader.netFromStr input).map .netPrefix

/-- The digits of a `u16` after those that make up `value`. -/
def parseDigits (value : Nat) : List Char → Except String UInt16
  | [] => .ok (UInt16.ofNat value)
  | c :: digits =>
      if c.isDigit then
        let value := 10 * value + (c.toNat - '0'.toNat)
        if value < UInt16.size then
          parseDigits value digits
        else
          .error "number too large to fit in target type"
      else
        .error "invalid digit found in string"

/-- `str::parse::<u16>`. -/
def parseU16 : List Char → Except String UInt16
  | [] => .error "cannot parse integer from empty string"
  | ['+'] => .error "invalid digit found in string"
  | '+' :: digits => parseDigits 0 digits
  | digits => parseDigits 0 digits

/-- `str::split_once`. -/
def splitOnce (separator : Char) : List Char → Option (List Char × List Char)
  | [] => none
  | c :: rest =>
      if c = separator then
        some ([], rest)
      else
        (splitOnce separator rest).map fun parts => (c :: parts.1, parts.2)

/-- `FromStr for PortRange`. -/
def PortRange.fromStr (reader : RuleReader) (input : String) : Except ErrorChain PortRange :=
  let text := input.toList
  if text.all fun c => c.isDigit || c == ':' then do
    let bounds := (splitOnce ':' text).getD (text, text)
    let parseBound := fun bound =>
      context
        ("invalid port bound " ++ reader.debugText (String.ofList bound) ++
          ": expected 1..65535")
        ((parseU16 bound).mapError fun error => [error])
    let first ← parseBound bounds.1
    let last ← parseBound bounds.2
    (PortRange.new first last).mapError fun error => [error]
  else
    .error
      ["invalid destination port " ++ reader.debugText input ++
        ": expected PORT or START:END"]

/-- `Pair::as_str`. -/
def asStr (pair : Peg.Pair SyntaxRule) : String :=
  String.ofList pair.text

namespace Rule

def parseTarget (reader : RuleReader) (pair : Peg.Pair SyntaxRule) : Attempt ErrorChain Target :=
  .ofExcept
    (context ("invalid target " ++ reader.debugText (asStr pair))
      ((Target.fromStr reader (asStr pair)).mapError fun error => [error]))

/-- The loop of `parse_stateful` over the fields behind the direction. -/
def parseFields
    (reader : RuleReader) :
    List (Peg.Pair SyntaxRule) → Target → Filter → Attempt ErrorChain (Target × Filter)
  | [], target, filter => .done (target, filter)
  | field :: fields, target, filter =>
      match field.rule with
      | .protocolName => do
          let protocol ← .ofExcept (Protocol.fromStr (asStr field))
          parseFields reader fields target { filter with protocol := some protocol }
      | .target => do
          let target ← parseTarget reader field
          parseFields reader fields target filter
      | .destinationPort => do
          let range ← .ofExcept (PortRange.fromStr reader (asStr field))
          parseFields reader fields target { filter with destinationPortRange := some range }
      | _ => .panicked

/-- `Ipv4Net::default()`. -/
def defaultTarget : Target :=
  .netPrefix ⟨0, 0, Nat.zero_le _⟩

def parseStateful (reader : RuleReader) (pair : Peg.Pair SyntaxRule) : Attempt ErrorChain Rule :=
  match pair.inner with
  | [] => .panicked
  | directionField :: fields => do
      let direction ← .ofExcept (Direction.fromStr (asStr directionField))
      let (target, filter) ← parseFields reader fields defaultTarget .unrestricted
      -- Port filters require an explicit transport protocol
      if filter.destinationPortRange = none ∨
          filter.protocol = some .tcp ∨ filter.protocol = some .udp then
        return .stateful direction target filter
      else
        .failed ["port requires proto tcp or proto udp"]

def parse (reader : RuleReader) (input : String) : Attempt ErrorChain Rule :=
  match Peg.parse Grammar.rule input.toList with
  | none => .failed ["invalid rule syntax", reader.syntaxError input]
  | some ([], _) => .panicked
  | some (body :: _, _) =>
      match body.rule with
      | .target => do
          let target ← parseTarget reader body
          return .stateless target
      | .stateful => parseStateful reader body
      | _ => .panicked

/-- `FromStr for Rule`. -/
def fromStr (reader : RuleReader) (input : String) : Attempt ErrorChain Rule :=
  parse reader input

end Rule

end Softnet
