import Softnet.Lib.Lines
import Softnet.Control.Transport

/-!
# Framing is newline splitting

The abstract stream is a list of cells: a byte with the descriptors that came with
it, which are those of the chunk whose first byte it is.  How the stream was cut
into chunks is visible in it only through descriptors.

Every call of `next` takes one line off the cells, and the frame it returns is
determined by the cells of that line.  The loop invariant says what has been read
of the current line, and that a recorded error dooms the line whatever follows.
-/

namespace Softnet

open Lines

/-- A byte of the stream with the descriptors attached to it. -/
structure Cell where
  byte : UInt8
  fds : List OwnedFd

def Cell.isNewline (c : Cell) : Bool :=
  c.byte == newline

/-- Bytes without descriptors. -/
def plainCells (bytes : List UInt8) : List Cell :=
  bytes.map (fun byte => ⟨byte, []⟩)

/-- The descriptors of a chunk belong to its first byte. -/
def Chunk.cells (chunk : Chunk) : List Cell :=
  match chunk.bytes with
  | [] => []
  | byte :: bytes => ⟨byte, chunk.fds⟩ :: plainCells bytes

def ControlTransport.cells (transport : ControlTransport) : List Cell :=
  plainCells transport.buffered ++ transport.socket.flatMap Chunk.cells

/-- The descriptors attached to the first cell. -/
def headFds : List Cell → List OwnedFd
  | [] => []
  | c :: _ => c.fds

/-- A line of the stream, without and with its newline, that makes a proper request. -/
structure Acceptable (content : List Cell) (stop : Cell) : Prop where
  size : content.length ≤ maxRequestBytes
  text : (content.map Cell.byte).toByteArray.IsValidUTF8
  attached : ∀ c ∈ (content ++ [stop]).tail, c.fds = []
  few : (headFds (content ++ [stop])).length ≤ maxFrameFds

/-- The frame that belongs to a line. -/
structure FrameOf (content : List Cell) (stop : Cell) (frame : Frame) : Prop where
  accepted : Acceptable content stop →
    (∃ text, frame.line = .ok text ∧
      text.toByteArray = (withoutCarriageReturn (content.map Cell.byte)).toByteArray) ∧
    frame.fds = headFds (content ++ [stop])
  rejected : ¬ Acceptable content stop →
    (∃ error, frame.line = .error error) ∧ frame.fds = []

section Utf8

/-- A carriage return is never the end of a longer encoding. -/
theorem utf8EncodeChar_eq_of_getLast?
    {c : Char}
    (h : (String.utf8EncodeChar c).getLast? = some carriageReturn) :
    String.utf8EncodeChar c = [carriageReturn] := by
  have hbyte : ∀ n, UInt8.ofNat (n % 64 + 128) ≠ carriageReturn := by
    intro n heq
    have hnat : (n % 64 + 128) % 256 = 13 := by
      simpa [carriageReturn] using congrArg UInt8.toNat heq
    omega
  unfold String.utf8EncodeChar at h ⊢
  dsimp only at h ⊢
  split at h
  · next hascii =>
      rw [if_pos hascii]
      simpa using h
  · exfalso
    split at h
    · exact hbyte c.val.toNat (by simpa using h)
    · split at h
      · exact hbyte c.val.toNat (by simpa using h)
      · exact hbyte c.val.toNat (by simpa using h)

/-- A trailing carriage return does not matter for validity. -/
theorem isValidUTF8_withoutCarriageReturn
    (bytes : List UInt8) :
    (withoutCarriageReturn bytes).toByteArray.IsValidUTF8 ↔
      bytes.toByteArray.IsValidUTF8 := by
  unfold withoutCarriageReturn
  split
  · next hlast =>
      obtain ⟨before, rfl⟩ : ∃ before, bytes = before ++ [carriageReturn] := by
        obtain ⟨before, hbytes⟩ := List.getLast?_eq_some_iff.mp hlast
        exact ⟨before, hbytes⟩
      rw [List.dropLast_concat]
      constructor
      · rintro ⟨m, hm⟩
        refine ⟨m ++ [Char.ofNat 13], ?_⟩
        rw [List.utf8Encode_append, ← hm, List.toByteArray_append]
        rfl
      · rintro ⟨m, hm⟩
        rw [List.utf8Encode, List.toByteArray_inj] at hm
        rcases List.eq_nil_or_concat m with rfl | ⟨m, c, rfl⟩
        · simp at hm
        · rw [List.concat_eq_append, List.flatMap_append, List.flatMap_singleton] at hm
          have hlast : (String.utf8EncodeChar c).getLast? = some carriageReturn := by
            have hends := congrArg List.getLast? hm
            rw [List.getLast?_append_of_ne_nil _ (by simp),
              List.getLast?_append_of_ne_nil _ String.utf8EncodeChar_ne_nil] at hends
            simpa using hends.symm
          rw [utf8EncodeChar_eq_of_getLast? hlast] at hm
          refine ⟨m, ?_⟩
          rw [List.utf8Encode, List.append_cancel_right hm]
  · rfl

/-- Decoding succeeds exactly on valid lines, and returns their bytes. -/
theorem utf8_withoutCarriageReturn
    (bytes : List UInt8) :
    (bytes.toByteArray.IsValidUTF8 →
      ∃ text, utf8 (withoutCarriageReturn bytes) = some text ∧
        text.toByteArray = (withoutCarriageReturn bytes).toByteArray) ∧
    (¬ bytes.toByteArray.IsValidUTF8 → utf8 (withoutCarriageReturn bytes) = none) := by
  rw [← isValidUTF8_withoutCarriageReturn]
  constructor
  · intro hvalid
    exact ⟨String.fromUTF8 _ hvalid, by simp only [utf8, String.fromUTF8?, dif_pos hvalid], rfl⟩
  · intro hinvalid
    simp only [utf8, String.fromUTF8?, dif_neg hinvalid]

end Utf8

section Codec

variable {codec : LinesCodec}
variable {input before rest : List UInt8}

/-- The codec finds the first newline if it has not searched past it. -/
theorem LinesCodec.decode_found
    (hsearched : newline ∉ input.take codec.nextIndex)
    (hinput : input = before ++ newline :: rest)
    (hbefore : newline ∉ before) :
    codec.decode input =
      (⟨0⟩, rest, some (utf8 (withoutCarriageReturn before))) := by
  subst hinput
  have hindex : codec.nextIndex ≤ before.length := by
    by_contra hpast
    apply hsearched
    rw [List.take_append, List.mem_append]
    refine Or.inr ?_
    obtain ⟨n, hn⟩ : ∃ n, codec.nextIndex - before.length = n + 1 :=
      ⟨codec.nextIndex - before.length - 1, by omega⟩
    simp [hn]
  have hfind :
      ((before ++ newline :: rest).drop codec.nextIndex).findIdx? (· == newline) =
        some (before.length - codec.nextIndex) := by
    rw [List.drop_append_of_le_length hindex, List.findIdx?_append]
    have hnone : (before.drop codec.nextIndex).findIdx? (· == newline) = none := by
      rw [List.findIdx?_eq_none_iff]
      intro byte hbyte
      simpa using fun heq : byte = newline => hbefore (heq ▸ List.mem_of_mem_drop hbyte)
    simp [hnone, List.findIdx?_cons]
  simp only [LinesCodec.decode, hfind, Nat.sub_add_cancel hindex]
  simp

theorem LinesCodec.decode_missing
    (hinput : newline ∉ input) :
    codec.decode input = (⟨input.length⟩, input, none) := by
  have hfind : (input.drop codec.nextIndex).findIdx? (· == newline) = none := by
    rw [List.findIdx?_eq_none_iff]
    intro byte hbyte
    simpa using fun heq : byte = newline => hinput (heq ▸ List.mem_of_mem_drop hbyte)
  simp only [LinesCodec.decode, hfind]

end Codec

/-! ## The halves of the loop body -/

namespace ControlTransport

section Decode

variable {st : Reading}

/-- The error of a frame of some length: the first one recorded, or that it is too long. -/
def Reading.fault (st : Reading) (length : Nat) : Option FrameError :=
  if maxRequestBytes < length then some (st.frameError.getD .tooLarge) else st.frameError

theorem Reading.fault_eq_none_iff
    {length : Nat} :
    st.fault length = none ↔ st.frameError = none ∧ length ≤ maxRequestBytes := by
  unfold Reading.fault
  split
  · next hsize => simp [Nat.not_le.mpr hsize]
  · next hsize => simp [Nat.not_lt.mp hsize]

/-- The frame that is made of a complete line. -/
def Reading.finish (st : Reading) (length : Nat) (line : Option String) : Frame :=
  match st.fault length, line with
  | some error, _ => ⟨.error error, []⟩
  | none, none => ⟨.error .invalidUtf8, []⟩
  | none, some text => ⟨.ok text, st.fds⟩

theorem Reading.decode_of_line
    {codec : LinesCodec} {rest : List UInt8} {line : Option String}
    (h : st.codec.decode st.input = (codec, rest, some line)) :
    st.decode = .inl (st.finish (st.input.length - rest.length - 1) line, rest) := by
  simp only [Reading.decode, h, Option.isSome_some, frameLength, if_true, Reading.finish,
    Reading.fault, Reading.recordError]
  by_cases hsize : maxRequestBytes < st.input.length - rest.length - 1
  · simp [hsize]
  · cases st.frameError <;> cases line <;> simp [hsize]

theorem Reading.decode_of_unfinished
    {codec : LinesCodec}
    (h : st.codec.decode st.input = (codec, st.input, none)) :
    st.decode =
      .inr ((st.fault st.input.length).elim { st with codec := codec }
        fun error => ⟨[], [], some error, .new⟩) := by
  simp only [Reading.decode, h, Option.isSome_none, frameLength, Bool.false_eq_true, if_false,
    Reading.fault, Reading.recordError]
  by_cases hsize : maxRequestBytes < st.input.length
  · simp [hsize]
  · cases st.frameError <;> simp [hsize]

/-- A receive appends to the input and to the descriptors, and may record an error. -/
theorem Reading.receive_eq
    (st : Reading)
    (chunk : Chunk) :
    ∃ error, st.receive chunk =
      ⟨st.input ++ chunk.bytes, st.fds ++ chunk.fds, error, st.codec⟩ := by
  simp only [Reading.receive, Reading.recordError]
  repeat' split
  all_goals exact ⟨_, rfl⟩

end Decode
end ControlTransport

/-! ## One call -/

section Invariant

variable {acc prev tail content rest : List Cell}
variable {stop : Cell}
variable {st : ControlTransport.Reading}

/-- No line that starts with these cells is acceptable. -/
def Doomed (acc : List Cell) : Prop :=
  ∀ future content stop rest,
    Cut Cell.isNewline (acc ++ future) content stop rest → ¬ Acceptable content stop

/-- The cells read so far make a good start of a line. -/
structure Sound (acc : List Cell) (fds : List OwnedFd) : Prop where
  fds : fds = headFds acc
  attached : ∀ c ∈ acc.tail, c.fds = []
  few : (headFds acc).length ≤ maxFrameFds

/--
The state before decoding: `prev` has been discarded, `tail` is in the buffer, and
together they are what has been received since the start of the line.
-/
structure Pending (st : ControlTransport.Reading) (prev tail : List Cell) : Prop where
  input : st.input = tail.map Cell.byte
  discarded : ∀ c ∈ prev, c.isNewline = false
  searched : ∀ c ∈ tail.take st.codec.nextIndex, c.isNewline = false
  plain : ∀ c ∈ tail.drop (st.codec.nextIndex + 1), c.fds = []
  sound : st.frameError = none → prev = [] ∧ Sound tail st.fds
  doomed : st.frameError ≠ none → Doomed (prev ++ tail)

/-- The state before a receive: no newline yet in what has been received of the line. -/
structure Waiting (st : ControlTransport.Reading) (acc : List Cell) : Prop where
  unfinished : ∀ c ∈ acc, c.isNewline = false
  sound : st.frameError = none →
    st.input = acc.map Cell.byte ∧ st.codec.nextIndex = acc.length ∧ Sound acc st.fds
  doomed : st.frameError ≠ none →
    st.input = [] ∧ st.codec.nextIndex = 0 ∧ Doomed acc

theorem Doomed.append
    (h : Doomed acc)
    (more : List Cell) :
    Doomed (acc ++ more) := by
  intro future content stop rest hcut
  rw [List.append_assoc] at hcut
  exact h _ _ _ _ hcut

/-- A line that is already too long. -/
theorem doomed_of_size
    (hacc : ∀ c ∈ acc, c.isNewline = false)
    (hsize : maxRequestBytes < acc.length) :
    Doomed acc := by
  intro future content stop rest hcut hacceptable
  obtain ⟨more, rfl, _⟩ := hcut.of_append hacc
  have := hacceptable.size
  simp only [List.length_append] at this
  omega

/-- Descriptors behind the first byte. -/
theorem doomed_of_misplaced
    (hacc : ∀ c ∈ acc, c.isNewline = false)
    (hne : acc ≠ [])
    {c : Cell}
    (hfds : c.fds ≠ []) :
    Doomed (acc ++ c :: tail) := by
  intro future content stop rest hcut hacceptable
  rw [List.append_assoc] at hcut
  obtain ⟨more, rfl, hmore⟩ := hcut.of_append hacc
  refine hfds (hacceptable.attached c ?_)
  obtain ⟨first, acc, rfl⟩ := List.exists_cons_of_ne_nil hne
  have hmem : c ∈ more ++ [stop] := by
    cases more with
    | nil =>
        obtain ⟨rfl, _⟩ := List.cons.inj hmore.eq
        simp
    | cons c' more =>
        obtain ⟨rfl, _⟩ := List.cons.inj hmore.eq
        simp
  simp only [List.cons_append, List.append_assoc, List.tail_cons]
  exact List.mem_append_right _ hmem

/-- Too many descriptors with the first byte. -/
theorem doomed_of_many
    {c : Cell}
    (hmany : maxFrameFds < c.fds.length) :
    Doomed (c :: tail) := by
  intro future content stop rest hcut hacceptable
  have hhead : headFds (content ++ [stop]) = c.fds := by
    have heq := hcut.eq
    cases content with
    | nil =>
        obtain ⟨rfl, _⟩ := List.cons.inj heq
        rfl
    | cons c' content =>
        obtain ⟨rfl, _⟩ := List.cons.inj heq
        rfl
  have := hacceptable.few
  rw [hhead] at this
  omega

theorem Chunk.exists_cells
    (chunk : Chunk) :
    ∃ byte bytes, chunk.bytes = byte :: bytes ∧
      chunk.cells = ⟨byte, chunk.fds⟩ :: plainCells bytes := by
  obtain ⟨byte, bytes, hbytes⟩ := List.exists_cons_of_ne_nil chunk.bytes_ne_nil
  exact ⟨byte, bytes, hbytes, by simp [Chunk.cells, hbytes]⟩

@[simp] theorem map_byte_plainCells
    (bytes : List UInt8) :
    (plainCells bytes).map Cell.byte = bytes := by
  simp [plainCells, Function.comp_def]

@[simp] theorem Chunk.map_byte_cells
    (chunk : Chunk) :
    chunk.cells.map Cell.byte = chunk.bytes := by
  obtain ⟨byte, bytes, hbytes, hcells⟩ := chunk.exists_cells
  simp [hcells, hbytes]

theorem fds_of_mem_plainCells
    {bytes : List UInt8} {c : Cell}
    (h : c ∈ plainCells bytes) :
    c.fds = [] := by
  obtain ⟨byte, _, rfl⟩ := List.mem_map.mp h
  rfl

/-- Cells without descriptors are determined by their bytes. -/
theorem plainCells_map_byte
    {cells : List Cell}
    (h : ∀ c ∈ cells, c.fds = []) :
    plainCells (cells.map Cell.byte) = cells := by
  rw [plainCells, List.map_map]
  conv_rhs => rw [← List.map_id cells]
  refine List.map_congr_left ?_
  rintro ⟨byte, fds⟩ hc
  obtain rfl : fds = [] := h _ hc
  rfl

theorem newline_notMem_map_byte
    {cells : List Cell}
    (h : ∀ c ∈ cells, c.isNewline = false) :
    newline ∉ cells.map Cell.byte := by
  intro hmem
  obtain ⟨c, hc, hbyte⟩ := List.mem_map.mp hmem
  have hplain := h c hc
  simp [Cell.isNewline, hbyte] at hplain

theorem isNewline_of_countP_eq_zero
    {cells : List Cell}
    (h : cells.countP Cell.isNewline = 0) :
    ∀ c ∈ cells, c.isNewline = false := by
  simpa using List.countP_eq_zero.mp h

/-- The first cell of a line is its newline if the line is empty. -/
theorem headFds_cut
    (content rest : List Cell)
    (stop : Cell) :
    headFds (content ++ stop :: rest) = headFds (content ++ [stop]) := by
  cases content <;> rfl

/-- What remains in the buffer behind a line has no descriptors. -/
theorem Pending.rest_plain
    (h : Pending st prev tail)
    (hcut : Cut Cell.isNewline tail content stop rest) :
    ∀ c ∈ rest, c.fds = [] := by
  have hindex : st.codec.nextIndex ≤ content.length := by
    by_contra hpast
    have hstop : stop ∈ tail.take st.codec.nextIndex := by
      rw [hcut.eq, List.take_append, List.mem_append]
      obtain ⟨n, hn⟩ : ∃ n, st.codec.nextIndex - content.length = n + 1 :=
        ⟨st.codec.nextIndex - content.length - 1, by omega⟩
      exact Or.inr (by simp [hn])
    have hsearched := h.searched stop hstop
    rw [hcut.ends] at hsearched
    cases hsearched
  intro c hc
  refine h.plain c ?_
  have hsplit : tail = content ++ [stop] ++ rest := by
    simp [hcut.eq]
  have hpast : st.codec.nextIndex + 1 - (content ++ [stop]).length = 0 := by
    simp only [List.length_append, List.length_singleton]
    omega
  rw [hsplit, List.drop_append, List.mem_append, hpast]
  exact Or.inr (by simpa using hc)

/-- A frame with an error and no descriptors fits a line that is not acceptable. -/
theorem FrameOf.of_not_acceptable
    (error : FrameError)
    (hbad : ¬ Acceptable content stop) :
    FrameOf content stop ⟨.error error, []⟩ :=
  ⟨fun hgood => absurd hgood hbad, fun _ => ⟨⟨error, rfl⟩, rfl⟩⟩

/-- A sound line of proper size and text is acceptable. -/
theorem Sound.acceptable
    {fds : List OwnedFd}
    (h : Sound tail fds)
    (hcut : Cut Cell.isNewline tail content stop rest)
    (hsize : content.length ≤ maxRequestBytes)
    (htext : (content.map Cell.byte).toByteArray.IsValidUTF8) :
    Acceptable content stop := by
  refine ⟨hsize, htext, ?_, ?_⟩
  · intro c hc
    refine h.attached c ?_
    rw [hcut.eq, List.append_cons, List.tail_append_of_ne_nil (by simp)]
    exact List.mem_append_left _ hc
  · rw [← headFds_cut content rest, ← hcut.eq]
    exact h.few

/-- A line whose reading recorded an error is not acceptable. -/
theorem Pending.not_acceptable
    (h : Pending st prev tail)
    (hcut : Cut Cell.isNewline tail content stop rest)
    (herror : st.frameError ≠ none) :
    ¬ Acceptable (prev ++ content) stop := by
  refine h.doomed herror [] _ _ rest ⟨by simp [hcut.eq], ?_, hcut.ends⟩
  intro c hc
  rcases List.mem_append.mp hc with hc | hc
  · exact h.discarded c hc
  · exact hcut.inside c hc

/-- A frame is returned exactly for the line in the buffer. -/
theorem Pending.decode_found
    (h : Pending st prev tail)
    (hcut : Cut Cell.isNewline tail content stop rest) :
    ∃ frame, st.decode = .inl (frame, rest.map Cell.byte) ∧
      FrameOf (prev ++ content) stop frame := by
  have hstop : stop.byte = newline := by
    simpa [Cell.isNewline] using hcut.ends
  have hinput : st.input = content.map Cell.byte ++ newline :: rest.map Cell.byte := by
    simp [h.input, hcut.eq, hstop]
  have hsearched : newline ∉ st.input.take st.codec.nextIndex := by
    rw [h.input, ← List.map_take]
    exact newline_notMem_map_byte h.searched
  have hdecode :=
    LinesCodec.decode_found hsearched hinput (newline_notMem_map_byte hcut.inside)
  have hlength : st.input.length - (rest.map Cell.byte).length - 1 = content.length := by
    simp [hinput]
    omega
  refine ⟨_, ControlTransport.Reading.decode_of_line hdecode, ?_⟩
  rw [hlength]
  unfold ControlTransport.Reading.finish
  cases hfault : st.fault content.length with
  | some error =>
      refine .of_not_acceptable error fun hgood => ?_
      have herror : st.frameError = none := by
        by_contra herror
        exact h.not_acceptable hcut herror hgood
      have hsize := hgood.size
      rw [List.length_append] at hsize
      rw [ControlTransport.Reading.fault_eq_none_iff.mpr ⟨herror, by omega⟩] at hfault
      cases hfault
  | none =>
      obtain ⟨herror, hsize⟩ := ControlTransport.Reading.fault_eq_none_iff.mp hfault
      obtain ⟨rfl, hsound⟩ := h.sound herror
      by_cases hvalid : (content.map Cell.byte).toByteArray.IsValidUTF8
      · obtain ⟨text, htext, hbytes⟩ := (utf8_withoutCarriageReturn _).1 hvalid
        rw [htext]
        refine ⟨fun _ => ⟨⟨text, rfl, hbytes⟩, ?_⟩, fun hbad => ?_⟩
        · rw [hsound.fds, hcut.eq, headFds_cut, List.nil_append]
        · exact absurd (hsound.acceptable hcut hsize hvalid) hbad
      · rw [(utf8_withoutCarriageReturn _).2 hvalid]
        exact .of_not_acceptable .invalidUtf8 fun hgood => hvalid hgood.text

/-- Without a newline the loop goes on to receive more. -/
theorem Pending.decode_missing
    (h : Pending st prev tail)
    (hnone : ∀ c ∈ tail, c.isNewline = false) :
    ∃ st', st.decode = .inr st' ∧ Waiting st' (prev ++ tail) := by
  have hmissing : newline ∉ st.input := by
    rw [h.input]
    exact newline_notMem_map_byte hnone
  have hunfinished : ∀ c ∈ prev ++ tail, c.isNewline = false := by
    intro c hc
    rcases List.mem_append.mp hc with hc | hc
    · exact h.discarded c hc
    · exact hnone c hc
  have hlength : st.input.length = tail.length := by
    simp [h.input]
  refine ⟨_, ControlTransport.Reading.decode_of_unfinished
    (LinesCodec.decode_missing hmissing), ?_⟩
  cases hfault : st.fault st.input.length with
  | none =>
      obtain ⟨herror, _⟩ := ControlTransport.Reading.fault_eq_none_iff.mp hfault
      obtain ⟨rfl, hsound⟩ := h.sound herror
      exact ⟨hunfinished, fun _ => ⟨h.input, hlength, hsound⟩, fun hne => absurd herror hne⟩
  | some error =>
      refine ⟨hunfinished, by simp, fun _ => ⟨rfl, rfl, ?_⟩⟩
      by_cases herror : st.frameError = none
      · obtain ⟨rfl, _⟩ := h.sound herror
        refine doomed_of_size hunfinished ?_
        by_contra hsize
        rw [ControlTransport.Reading.fault_eq_none_iff.mpr
          ⟨herror, hlength.le.trans (Nat.not_lt.mp hsize)⟩] at hfault
        cases hfault
      · exact h.doomed herror

@[simp] theorem receive_input
    (chunk : Chunk) :
    (st.receive chunk).input = st.input ++ chunk.bytes := by
  obtain ⟨error, hreceive⟩ := st.receive_eq chunk
  rw [hreceive]

@[simp] theorem receive_fds
    (chunk : Chunk) :
    (st.receive chunk).fds = st.fds ++ chunk.fds := by
  obtain ⟨error, hreceive⟩ := st.receive_eq chunk
  rw [hreceive]

@[simp] theorem receive_codec
    (chunk : Chunk) :
    (st.receive chunk).codec = st.codec := by
  obtain ⟨error, hreceive⟩ := st.receive_eq chunk
  rw [hreceive]

/-- A receive records an error exactly for misplaced or too many descriptors. -/
theorem receive_frameError
    (herror : st.frameError = none)
    (chunk : Chunk) :
    (st.receive chunk).frameError = none ↔
      chunk.fds = [] ∨ st.input = [] ∧ chunk.fds.length ≤ maxFrameFds := by
  simp only [ControlTransport.Reading.receive, ControlTransport.Reading.recordError, herror]
  by_cases hfds : chunk.fds = []
  · simp [hfds, herror]
  · by_cases hinput : st.input = []
    · by_cases hmany : maxFrameFds < chunk.fds.length
      · simp [hfds, hinput, hmany]
      · simp [hfds, hinput, hmany, herror, Nat.not_lt.mp hmany]
    · simp [hfds, hinput]

/-- A recorded error is not lost by receiving more. -/
theorem receive_frameError_ne_none
    (herror : st.frameError ≠ none)
    (chunk : Chunk) :
    (st.receive chunk).frameError ≠ none := by
  simp only [ControlTransport.Reading.receive, ControlTransport.Reading.recordError]
  repeat' split
  all_goals simp [herror]

/-- What a chunk may bring without spoiling the line. -/
theorem Sound.append_chunk
    {fds : List OwnedFd}
    {chunk : Chunk}
    (h : Sound acc fds)
    (hfits : chunk.fds = [] ∨ acc = [] ∧ chunk.fds.length ≤ maxFrameFds) :
    Sound (acc ++ chunk.cells) (fds ++ chunk.fds) := by
  obtain ⟨byte, bytes, _, hcells⟩ := chunk.exists_cells
  rw [h.fds, hcells]
  cases acc with
  | nil =>
      have hfew : chunk.fds.length ≤ maxFrameFds := by
        rcases hfits with hfds | ⟨_, hfew⟩
        · simp [hfds]
        · exact hfew
      exact ⟨rfl, fun c hc => fds_of_mem_plainCells hc, hfew⟩
  | cons first acc =>
      have hfds : chunk.fds = [] := by
        simpa using hfits
      refine ⟨by simp [headFds, hfds], ?_, h.few⟩
      intro c hc
      rcases List.mem_append.mp hc with hc | hc
      · exact h.attached c hc
      · rcases List.mem_cons.mp hc with rfl | hc
        · exact hfds
        · exact fds_of_mem_plainCells hc

/-- What a chunk brings otherwise spoils the line for good. -/
theorem doomed_append_chunk
    {chunk : Chunk}
    (hacc : ∀ c ∈ acc, c.isNewline = false)
    (hspoils : ¬ (chunk.fds = [] ∨ acc = [] ∧ chunk.fds.length ≤ maxFrameFds)) :
    Doomed (acc ++ chunk.cells) := by
  obtain ⟨byte, bytes, _, hcells⟩ := chunk.exists_cells
  rw [not_or, not_and, Nat.not_le] at hspoils
  obtain ⟨hfds, hmany⟩ := hspoils
  rw [hcells]
  by_cases hempty : acc = []
  · subst hempty
    exact doomed_of_many (hmany rfl)
  · exact doomed_of_misplaced hacc hempty hfds

/-- A receive adds the cells of its chunk. -/
theorem Waiting.receive
    (h : Waiting st acc)
    (chunk : Chunk) :
    ∃ prev tail, prev ++ tail = acc ++ chunk.cells ∧
      Pending (st.receive chunk) prev tail := by
  obtain ⟨byte, bytes, _, hcells⟩ := chunk.exists_cells
  have hplain : ∀ c ∈ chunk.cells.drop 1, c.fds = [] := by
    rw [hcells]
    exact fun c hc => fds_of_mem_plainCells hc
  by_cases herror : st.frameError = none
  · obtain ⟨hinput, hindex, hsound⟩ := h.sound herror
    have hempty : st.input = [] ↔ acc = [] := by
      simp [hinput]
    refine ⟨[], acc ++ chunk.cells, rfl, by simp [hinput], by simp, ?_, ?_, ?_, ?_⟩
    · rw [receive_codec, hindex, List.take_left']
      · exact h.unfinished
      · rfl
    · rw [receive_codec, hindex, List.drop_append, List.drop_of_length_le (by omega)]
      simpa using hplain
    · intro hnone
      rw [receive_frameError herror, hempty] at hnone
      rw [receive_fds]
      exact ⟨rfl, hsound.append_chunk hnone⟩
    · intro hsome
      rw [Ne, receive_frameError herror, hempty] at hsome
      exact doomed_append_chunk h.unfinished hsome
  · obtain ⟨hinput, hindex, hdoomed⟩ := h.doomed herror
    refine ⟨acc, chunk.cells, rfl, by simp [hinput], h.unfinished, by simp [hindex], ?_, ?_, ?_⟩
    · simpa [hindex] using hplain
    · intro hnone
      exact absurd hnone (receive_frameError_ne_none herror chunk)
    · intro _
      exact hdoomed.append _

end Invariant

section Calls

variable {st : ControlTransport.Reading}
variable {prev tail content rest : List Cell}
variable {stop : Cell}

/-- A line that is complete in the buffer is returned at once. -/
theorem Pending.run_found
    (h : Pending st prev tail)
    (hcut : Cut Cell.isNewline tail content stop rest)
    (socket : List Chunk) :
    ∃ frame, (st.run socket).1 = some frame ∧
      FrameOf (prev ++ content) stop frame ∧
      (st.run socket).2.cells = rest ++ socket.flatMap Chunk.cells := by
  obtain ⟨frame, hdecode, hframe⟩ := h.decode_found hcut
  have hrun : st.run socket = (some frame, ⟨socket, rest.map Cell.byte⟩) := by
    unfold ControlTransport.Reading.run
    rw [hdecode]
  refine ⟨frame, by rw [hrun], hframe, ?_⟩
  rw [hrun]
  simp [ControlTransport.cells, plainCells_map_byte (h.rest_plain hcut)]

/-- So is the line of the stream whose newline is in the buffer. -/
theorem Pending.run_buffered
    {socket : List Chunk}
    (h : Pending st prev tail)
    (hcut : Cut Cell.isNewline (prev ++ tail ++ socket.flatMap Chunk.cells) content stop rest)
    (hpos : 0 < tail.countP Cell.isNewline) :
    ∃ frame, (st.run socket).1 = some frame ∧
      FrameOf content stop frame ∧
      (st.run socket).2.cells = rest := by
  obtain ⟨content', stop', rest', hcut'⟩ := exists_cut hpos
  rw [List.append_assoc] at hcut
  obtain ⟨more, rfl, hmore⟩ := hcut.of_append h.discarded
  obtain ⟨rfl, rfl, rfl⟩ := hmore.unique (hcut'.append _)
  exact h.run_found hcut' socket

/-- The loop returns the frame of the first line, and leaves what follows it. -/
theorem Pending.run_line
    {socket : List Chunk}
    (h : Pending st prev tail)
    (hcut : Cut Cell.isNewline (prev ++ tail ++ socket.flatMap Chunk.cells) content stop rest) :
    ∃ frame, (st.run socket).1 = some frame ∧
      FrameOf content stop frame ∧
      (st.run socket).2.cells = rest := by
  induction socket generalizing st prev tail with
  | nil =>
      by_cases hpos : 0 < tail.countP Cell.isNewline
      · exact h.run_buffered hcut hpos
      · exfalso
        have hstop : stop ∈ prev ++ tail := by
          have := hcut.eq
          simp only [List.flatMap_nil, List.append_nil] at this
          simp [this]
        rcases List.mem_append.mp hstop with hstop | hstop
        · simpa [hcut.ends] using h.discarded stop hstop
        · have hplain := isNewline_of_countP_eq_zero (Nat.eq_zero_of_not_pos hpos) stop hstop
          simp [hcut.ends] at hplain
  | cons chunk socket ih =>
      by_cases hpos : 0 < tail.countP Cell.isNewline
      · exact h.run_buffered hcut hpos
      · obtain ⟨st', hdecode, hwaiting⟩ :=
          h.decode_missing (isNewline_of_countP_eq_zero (Nat.eq_zero_of_not_pos hpos))
        obtain ⟨prev', tail', hcells, hpending⟩ := hwaiting.receive chunk
        rw [ControlTransport.Reading.run, hdecode]
        refine ih hpending ?_
        rw [hcells, List.append_assoc]
        simpa using hcut

/-- Without a line the loop reads to the end of the stream. -/
theorem Pending.run_none
    {socket : List Chunk}
    (h : Pending st prev tail)
    (hnone : ∀ c ∈ prev ++ tail ++ socket.flatMap Chunk.cells, c.isNewline = false) :
    st.run socket = (none, ⟨[], []⟩) := by
  induction socket generalizing st prev tail with
  | nil =>
      obtain ⟨st', hdecode, _⟩ := h.decode_missing (fun c hc => hnone c (by simp [hc]))
      simp [ControlTransport.Reading.run, hdecode]
  | cons chunk socket ih =>
      obtain ⟨st', hdecode, hwaiting⟩ := h.decode_missing (fun c hc => hnone c (by simp [hc]))
      obtain ⟨prev', tail', hcells, hpending⟩ := hwaiting.receive chunk
      rw [ControlTransport.Reading.run, hdecode]
      refine ih hpending ?_
      rw [hcells, List.append_assoc]
      simpa using hnone

/-- A call starts with what the last one left in the buffer. -/
theorem pending_start
    (transport : ControlTransport) :
    Pending ⟨transport.buffered, [], none, .new⟩ [] (plainCells transport.buffered) := by
  have hplain : ∀ c ∈ plainCells transport.buffered, c.fds = [] :=
    fun c hc => fds_of_mem_plainCells hc
  have hhead : headFds (plainCells transport.buffered) = [] := by
    cases transport.buffered <;> rfl
  refine ⟨by simp, by simp, by simp [LinesCodec.new], ?_, ?_, by simp⟩
  · exact fun c hc => hplain c (List.mem_of_mem_drop hc)
  · intro _
    exact ⟨rfl, hhead.symm, fun c hc => hplain c (List.mem_of_mem_tail hc), by simp [hhead]⟩

/-- One call returns the frame of the first line and leaves what follows it. -/
theorem ControlTransport.next_line
    {transport : ControlTransport}
    (hcut : Cut Cell.isNewline transport.cells content stop rest) :
    ∃ frame, transport.next.1 = some frame ∧
      FrameOf content stop frame ∧
      transport.next.2.cells = rest :=
  (pending_start transport).run_line hcut

/-- A call without a line ahead reads to the end of the stream. -/
theorem ControlTransport.next_none
    {transport : ControlTransport}
    (hnone : ∀ c ∈ transport.cells, c.isNewline = false) :
    transport.next = (none, ⟨[], []⟩) :=
  (pending_start transport).run_none hnone

/-- Every call takes one line off the stream. -/
theorem ControlTransport.cells_afterCalls
    (k : Nat)
    (transport : ControlTransport) :
    (afterCalls k transport).cells = afterLines Cell.isNewline k transport.cells := by
  induction k generalizing transport with
  | zero =>
      rfl
  | succ k ih =>
      rw [afterCalls, ih, afterLines]
      rcases Nat.eq_zero_or_pos (transport.cells.countP Cell.isNewline) with hzero | hpos
      · have hnone := isNewline_of_countP_eq_zero hzero
        rw [next_none hnone, afterLine_eq_none hnone]
        cases k <;> simp [ControlTransport.cells, plainCells, afterLines, afterLine]
      · obtain ⟨content, stop, rest, hcut⟩ := exists_cut hpos
        obtain ⟨_, _, _, hrest⟩ := next_line hcut
        rw [hrest, hcut.afterLine_eq]

end Calls

/-! ## Offsets -/

section Offsets

/-- The bytes of the stream. -/
def streamBytes (chunks : List Chunk) : List UInt8 :=
  chunks.flatMap Chunk.bytes

/-- The descriptors of the chunk that starts at an offset; none if no chunk does. -/
def descriptorsAt : List Chunk → Nat → List OwnedFd
  | [], _ => []
  | chunk :: _, 0 => chunk.fds
  | chunk :: chunks, offset + 1 =>
      if offset + 1 < chunk.bytes.length then
        []
      else
        descriptorsAt chunks (offset + 1 - chunk.bytes.length)

/-- A line of the stream, by its offsets, that makes a proper request. -/
structure ProperLine (chunks : List Chunk) (a b : Nat) : Prop where
  size : b - a ≤ maxRequestBytes
  text : (((streamBytes chunks).take b).drop a).toByteArray.IsValidUTF8
  attached : ∀ offset, a < offset → offset ≤ b → descriptorsAt chunks offset = []
  few : (descriptorsAt chunks a).length ≤ maxFrameFds

def isNewline (byte : UInt8) : Bool :=
  byte == newline

/-- The cells of a stream hold its bytes and the descriptors at every offset. -/
theorem getElem?_cells
    (chunks : List Chunk)
    (offset : Nat) :
    (chunks.flatMap Chunk.cells)[offset]? =
      (streamBytes chunks)[offset]?.map (fun byte => ⟨byte, descriptorsAt chunks offset⟩) := by
  induction chunks generalizing offset with
  | nil =>
      simp [streamBytes]
  | cons chunk chunks ih =>
      obtain ⟨byte, bytes, hbytes, hcells⟩ := chunk.exists_cells
      have hlength : chunk.cells.length = chunk.bytes.length := by
        rw [← chunk.map_byte_cells, List.length_map]
      have hstream : streamBytes (chunk :: chunks) = chunk.bytes ++ streamBytes chunks := by
        simp [streamBytes]
      rw [List.flatMap_cons, hstream]
      by_cases hinside : offset < chunk.bytes.length
      · rw [List.getElem?_append_left (hlength ▸ hinside), List.getElem?_append_left hinside]
        cases offset with
        | zero => simp [hcells, hbytes, descriptorsAt]
        | succ offset =>
            have hdescriptors : descriptorsAt (chunk :: chunks) (offset + 1) = [] := by
              simp [descriptorsAt, hinside]
            simp [hcells, hbytes, hdescriptors, plainCells]
      · rw [List.getElem?_append_right (by omega), List.getElem?_append_right (by omega), hlength,
          ih]
        cases offset with
        | zero => simp [hbytes] at hinside
        | succ offset => simp [descriptorsAt, hinside]

theorem map_byte_cells
    (chunks : List Chunk) :
    (chunks.flatMap Chunk.cells).map Cell.byte = streamBytes chunks := by
  simp [streamBytes, List.map_flatMap]

/-- The cells of a line by their offsets. -/
theorem getElem?_line
    {xs : List Cell}
    {stop : Cell}
    {a b : Nat}
    (hle : a ≤ b)
    (hstop : xs[b]? = some stop)
    (i : Nat) :
    ((xs.take b).drop a ++ [stop])[i]? = if i ≤ b - a then xs[a + i]? else none := by
  obtain ⟨hb, _⟩ := List.getElem?_eq_some_iff.mp hstop
  have hlength : ((xs.take b).drop a).length = b - a := by
    simp only [List.length_drop, List.length_take]
    omega
  rcases Nat.lt_trichotomy i (b - a) with hlt | rfl | hgt
  · rw [List.getElem?_append_left (by omega), if_pos (Nat.le_of_lt hlt), List.getElem?_drop,
      List.getElem?_take_of_lt (by omega)]
  · rw [List.getElem?_append_right (by omega), hlength, if_pos (Nat.le_refl _),
      Nat.add_sub_cancel' hle, hstop]
    simp
  · rw [List.getElem?_eq_none (by simp only [List.length_append, hlength]; simp; omega),
      if_neg (by omega)]

/-- Every cell of the stream has the descriptors of its offset. -/
theorem fds_eq_descriptorsAt
    {chunks : List Chunk} {offset : Nat} {c : Cell}
    (h : (chunks.flatMap Chunk.cells)[offset]? = some c) :
    c.fds = descriptorsAt chunks offset := by
  rw [getElem?_cells, Option.map_eq_some_iff] at h
  obtain ⟨byte, _, rfl⟩ := h
  rfl

theorem headFds_line
    {chunks : List Chunk} {stop : Cell} {a b : Nat}
    (hle : a ≤ b)
    (hstop : (chunks.flatMap Chunk.cells)[b]? = some stop) :
    headFds (((chunks.flatMap Chunk.cells).take b).drop a ++ [stop]) =
      descriptorsAt chunks a := by
  obtain ⟨first, row, hrow⟩ := List.exists_cons_of_ne_nil
    (show ((chunks.flatMap Chunk.cells).take b).drop a ++ [stop] ≠ [] by simp)
  have hfirst := getElem?_line hle hstop 0
  rw [hrow] at hfirst ⊢
  simp only [List.getElem?_cons_zero, Nat.zero_le, if_true, Nat.add_zero] at hfirst
  exact fds_eq_descriptorsAt hfirst.symm

theorem map_byte_line
    (chunks : List Chunk)
    (a b : Nat) :
    (((chunks.flatMap Chunk.cells).take b).drop a).map Cell.byte =
      ((streamBytes chunks).take b).drop a := by
  rw [List.map_drop, List.map_take, map_byte_cells]

/-- The two notions of a proper request agree. -/
theorem acceptable_iff_properLine
    {chunks : List Chunk} {stop : Cell} {a b : Nat}
    (hle : a ≤ b)
    (hstop : (chunks.flatMap Chunk.cells)[b]? = some stop) :
    Acceptable (((chunks.flatMap Chunk.cells).take b).drop a) stop ↔
      ProperLine chunks a b := by
  have htext := map_byte_line chunks a b
  have hhead := headFds_line hle hstop
  have hline := getElem?_line hle hstop
  have hfds : ∀ (offset : Nat) (c : Cell), (chunks.flatMap Chunk.cells)[offset]? = some c →
      c.fds = descriptorsAt chunks offset := fun _ _ => fds_eq_descriptorsAt
  generalize chunks.flatMap Chunk.cells = cells at hstop htext hhead hline hfds ⊢
  obtain ⟨hb, _⟩ := List.getElem?_eq_some_iff.mp hstop
  have hsize : ((cells.take b).drop a).length = b - a := by
    simp only [List.length_drop, List.length_take]
    omega
  have htail : (∀ c ∈ ((cells.take b).drop a ++ [stop]).tail, c.fds = []) ↔
      ∀ offset, a < offset → offset ≤ b → descriptorsAt chunks offset = [] := by
    constructor
    · intro hplain offset hlow hhigh
      obtain ⟨i, rfl⟩ : ∃ i, offset = a + (i + 1) := ⟨offset - a - 1, by omega⟩
      have hc : cells[a + (i + 1)]? = some cells[a + (i + 1)] :=
        List.getElem?_eq_getElem (by omega)
      rw [← hfds _ _ hc]
      refine hplain _ (List.mem_of_getElem? (i := i) ?_)
      rw [List.getElem?_tail, hline, if_pos (by omega), hc]
    · intro hplain c hc
      obtain ⟨i, hi⟩ := List.getElem?_of_mem hc
      rw [List.getElem?_tail, hline] at hi
      split at hi
      · rw [hfds _ _ hi]
        exact hplain _ (by omega) (by omega)
      · cases hi
  constructor
  · intro h
    exact ⟨hsize ▸ h.size, htext ▸ h.text, htail.mp h.attached, hhead ▸ h.few⟩
  · intro h
    exact ⟨hsize ▸ h.size, htext ▸ h.text, htail.mpr h.attached, hhead ▸ h.few⟩

/--
Framing is newline splitting with first-byte attribution, whatever the chunking.
Call number `k` of `next` returns a frame exactly if the stream has more than `k`
newlines.  It is then the frame of line number `k`: its text without a carriage
return and the descriptors of the chunk that starts with it, if the line is a proper
request, and otherwise an error without descriptors.
-/
theorem next_splits_at_newlines
    (chunks : List Chunk)
    (k : Nat) :
    (k < (streamBytes chunks).countP isNewline →
      ∃ a b frame,
        IsLine isNewline (streamBytes chunks) k a b ∧
        ControlTransport.call k ⟨chunks, []⟩ = some frame ∧
        (ProperLine chunks a b →
          (∃ text, frame.line = .ok text ∧
            text.toByteArray =
              (withoutCarriageReturn
                (((streamBytes chunks).take b).drop a)).toByteArray) ∧
          frame.fds = descriptorsAt chunks a) ∧
        (¬ ProperLine chunks a b →
          (∃ error, frame.line = .error error) ∧ frame.fds = [])) ∧
    ((streamBytes chunks).countP isNewline ≤ k →
      ControlTransport.call k ⟨chunks, []⟩ = none) := by
  have hmap := map_byte_cells chunks
  have hcount : (streamBytes chunks).countP isNewline =
      (chunks.flatMap Chunk.cells).countP Cell.isNewline := by
    rw [← hmap, List.countP_map]
    rfl
  have hafter := ControlTransport.cells_afterCalls k ⟨chunks, []⟩
  have hcells : (ControlTransport.mk chunks []).cells = chunks.flatMap Chunk.cells := by
    simp [ControlTransport.cells, plainCells]
  rw [hcells] at hafter
  rw [hcount]
  constructor
  · intro hk
    obtain ⟨a, b, hline, hdrop⟩ := exists_isLine hk
    obtain ⟨stop, hstop, hcut⟩ := hline.cut
    rw [← hdrop, ← hafter] at hcut
    obtain ⟨frame, hframe, hspec, _⟩ := ControlTransport.next_line hcut
    have hproper := acceptable_iff_properLine hline.le hstop
    refine ⟨a, b, frame, hmap ▸ hline.map (fun _ => rfl), hframe, ?_, ?_⟩
    · intro hgood
      obtain ⟨htext, hfds⟩ := hspec.accepted (hproper.mpr hgood)
      rw [map_byte_line] at htext
      exact ⟨htext, hfds.trans (headFds_line hline.le hstop)⟩
    · intro hbad
      exact hspec.rejected (fun hgood => hbad (hproper.mp hgood))
  · intro hk
    rw [ControlTransport.call, ControlTransport.next_none]
    rw [hafter]
    exact afterLines_of_countP_le hk

end Offsets

end Softnet
