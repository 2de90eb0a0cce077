import Softnet.Network
import Mathlib.Data.List.Basic
import Mathlib.Tactic.Common

/-!
# The control transport

`ControlTransport::next` of `lib/control_transport.rs`: requests are lines on a
stream socket, and file descriptors travel with the first byte of a request.

The socket is the list of receive results still to come, followed by the end of
the stream.  Each result is a chunk of one buffer at most with the descriptors
that came with it.  The line codec is the one of `tokio_util` without a length
limit; it remembers how far it has searched.
-/

namespace Softnet

/-- `READ_BUFFER_BYTES`. -/
def readBufferBytes : Nat := 4096

/-- `MAX_REQUEST_BYTES`. -/
def maxRequestBytes : Nat := 1024 * 1024

/-- `MAX_FRAME_FDS`. -/
def maxFrameFds : Nat := maxVms

/-- An open file descriptor, by its number. -/
abbrev OwnedFd : Type := Nat

/-- The byte that ends a line. -/
def newline : UInt8 := 10

def carriageReturn : UInt8 := 13

/-- What one `recv_fds_into` returns before the end of the stream. -/
structure Chunk where
  bytes : List UInt8
  fds : List OwnedFd
  bytes_ne_nil : bytes ≠ []
  bytes_le : bytes.length ≤ readBufferBytes
  fds_le : fds.length ≤ maxFrameFds + 1

inductive FrameError where
  | tooLarge
  | misplacedDescriptors
  | tooManyDescriptors
  | invalidUtf8
deriving DecidableEq

def FrameError.text : FrameError → String
  | .tooLarge => "request exceeds the maximum frame size"
  | .misplacedDescriptors => "descriptors must accompany the first byte of a frame"
  | .tooManyDescriptors => "too many descriptors attached to a frame"
  | .invalidUtf8 => "invalid UTF-8 in control frame"

structure Frame where
  line : Except FrameError String
  fds : List OwnedFd

structure ControlTransport where
  socket : List Chunk
  buffered : List UInt8

/-- `without_carriage_return` of the codec. -/
def withoutCarriageReturn (line : List UInt8) : List UInt8 :=
  if line.getLast? = some carriageReturn then line.dropLast else line

/-- `str::from_utf8`. -/
def utf8 (bytes : List UInt8) : Option String :=
  String.fromUTF8? bytes.toByteArray

/-- The codec, by the position up to which it has found no newline. -/
structure LinesCodec where
  nextIndex : Nat

def LinesCodec.new : LinesCodec := ⟨0⟩

/-- `decode`: the codec and the input after it, and the line if there is one. -/
def LinesCodec.decode
    (codec : LinesCodec)
    (input : List UInt8) :
    LinesCodec × List UInt8 × Option (Option String) :=
  match (input.drop codec.nextIndex).findIdx? (· == newline) with
  | some offset =>
      let newlineIndex := offset + codec.nextIndex
      (⟨0⟩, input.drop (newlineIndex + 1),
        some (utf8 (withoutCarriageReturn (input.take newlineIndex))))
  | none => (⟨input.length⟩, input, none)

namespace ControlTransport

/-- The local variables of `next`. -/
structure Reading where
  input : List UInt8
  fds : List OwnedFd
  frameError : Option FrameError
  codec : LinesCodec

/-- `frame_error.get_or_insert`. -/
def Reading.recordError (st : Reading) (error : FrameError) : Reading :=
  { st with frameError := some (st.frameError.getD error) }

/-- The length of the line found, or of what has been read of it. -/
def frameLength (bufferedLength : Nat) (input : List UInt8) (found : Bool) : Nat :=
  if found then bufferedLength - input.length - 1 else input.length

/--
The loop body before the receive: a complete frame with the input behind it, or the
state in which more is received.
-/
def Reading.decode (st : Reading) : (Frame × List UInt8) ⊕ Reading :=
  let bufferedLength := st.input.length
  let (codec, input, line) := st.codec.decode st.input
  let st := { st with codec := codec, input := input }
  let st :=
    if maxRequestBytes < frameLength bufferedLength input line.isSome then
      st.recordError .tooLarge
    else
      st
  match line with
  | some line =>
      match st.frameError, line with
      | some error, _ => .inl (⟨.error error, []⟩, input)
      | none, none => .inl (⟨.error .invalidUtf8, []⟩, input)
      | none, some line => .inl (⟨.ok line, st.fds⟩, input)
  | none =>
      -- Discard invalid frame data while reading up to the newline
      if st.frameError.isSome then
        .inr { st with input := [], fds := [], codec := .new }
      else
        .inr st

/-- The loop body after the receive. -/
def Reading.receive (st : Reading) (chunk : Chunk) : Reading :=
  let st :=
    if chunk.fds ≠ [] then
      if st.input ≠ [] ∨ st.frameError.isSome then
        st.recordError .misplacedDescriptors
      else if maxFrameFds < chunk.fds.length then
        st.recordError .tooManyDescriptors
      else
        st
    else
      st
  { st with
    fds := st.fds ++ chunk.fds
    input := st.input ++ chunk.bytes }

/-- The loop of `next`. -/
def Reading.run (st : Reading) (socket : List Chunk) : Option Frame × ControlTransport :=
  match st.decode with
  | .inl (frame, input) => (some frame, ⟨socket, input⟩)
  | .inr st =>
      match socket with
      -- A request must end with a newline, so what remains is discarded
      | [] => (none, ⟨[], []⟩)
      | chunk :: socket => (st.receive chunk).run socket

def next (transport : ControlTransport) : Option Frame × ControlTransport :=
  Reading.run ⟨transport.buffered, [], none, .new⟩ transport.socket

/-- The transport after a number of calls of `next`. -/
def afterCalls : Nat → ControlTransport → ControlTransport
  | 0, transport => transport
  | k + 1, transport => afterCalls k transport.next.2

/-- What call number `k` of `next` returns, counting from zero. -/
def call (k : Nat) (transport : ControlTransport) : Option Frame :=
  (afterCalls k transport).next.1

end ControlTransport

end Softnet
