import Softnet.Network

/-!
# The socket of a VM

`lib/vm.rs`.  `VM::new` works on a duplicate of the descriptor that it is given: it checks
that the duplicate is a Unix datagram socket, closes it when anything is wrong with it, and
never closes the original.  What the system answers to each call is a parameter.
-/

namespace Softnet

/-! ## Errors -/

/-- `std::io::ErrorKind`, as far as the code tells kinds apart. -/
inductive IoErrorKind where
  | connectionReset
  | notConnected
  | wouldBlock
  | other
deriving DecidableEq, Repr

structure IoError where
  kind : IoErrorKind
  rawOsError : Option Int
  text : String
deriving DecidableEq, Repr

/-- `libc::EDESTADDRREQ`. -/
def edestaddrreq : Int := 39

/-- `libc::ENOBUFS`. -/
def enobufs : Int := 55

namespace VM

/-- `is_connected`, by what `peer_addr` returns. -/
def isConnected (peerAddr : Except IoError Unit) : Except IoError Bool :=
  match peerAddr with
  | .ok () => .ok true
  | .error error => if error.kind = .notConnected then .ok false else .error error

/-- `is_disconnect`, by what `peer_addr` returns. -/
def isDisconnect (error : IoError) (peerAddr : Except IoError Unit) : Except IoError Bool :=
  -- Confirm peer closure after an explicit connection error
  if error.kind = .connectionReset ∨ error.kind = .notConnected then
    (isConnected peerAddr).map (!·)
  -- A prior write may consume the reset, leaving later sends without a destination
  else if error.rawOsError = some edestaddrreq then
    (isConnected peerAddr).map (!·)
  else
    .ok false

section Connection

variable {error : IoError}
variable {peerAddr : Except IoError Unit}

theorem isConnected_eq_false_iff :
    isConnected peerAddr = .ok false ↔
      ∃ error, peerAddr = .error error ∧ error.kind = .notConnected := by
  unfold isConnected
  split
  · simp
  · split <;> simp_all

/-- Nothing counts as a disconnect while the socket has a peer. -/
theorem isDisconnect_eq_true
    (h : isDisconnect error peerAddr = .ok true) :
    isConnected peerAddr = .ok false := by
  have hmap : ∀ {answer : Except IoError Bool},
      answer.map (!·) = .ok true → answer = .ok false := by
    intro answer hanswer
    cases answer with
    | error error => cases hanswer
    | ok value => cases value <;> simp_all [Except.map]
  unfold isDisconnect at h
  split at h
  · exact hmap h
  · split at h
    · exact hmap h
    · cases h

end Connection

end VM

/-! ## Descriptors -/

/-- The type of a socket. -/
inductive SocketType where
  | dgram
  | other (number : Int)
deriving DecidableEq, Repr

inductive AddressFamily where
  | unix
  | other (number : Int)
deriving DecidableEq, Repr

/-- The open descriptors of the process, with the files that they refer to. -/
abbrev Descriptors (φ : Type) : Type := Int → Option φ

/-- What the system answers while a socket is taken; errors are their texts. -/
structure SocketAnswers where
  duplicate : Except String Int
  getfd : Except String Unit
  socketType : Except String SocketType
  /-- `getsockname`; an unnamed socket has no address. -/
  address : Except String (Option AddressFamily)
  setNonblocking : Except String Unit
  register : Except String Unit

/-- A descriptor is duplicated when it is open, to one that was not. -/
def SocketAnswers.Sound
    {φ : Type}
    (answers : SocketAnswers)
    (table : Descriptors φ)
    (vmFd : Int) :
    Prop :=
  ∀ fd, answers.duplicate = .ok fd →
    0 ≤ fd ∧ table fd = none ∧ (table vmFd).isSome = true

/-- The socket of a VM, which owns its descriptor. -/
structure VM where
  fd : Int
deriving DecidableEq, Repr

namespace VM

variable {φ : Type}

def close (table : Descriptors φ) (fd : Int) : Descriptors φ :=
  Function.update table fd none

def validateVmFd (answers : SocketAnswers) (vmFd : Int) : Except ErrorChain Unit :=
  match answers.getfd with
  | .error text => .error ["failed to inspect VM file descriptor " ++ toString vmFd, text]
  | .ok () =>
      match answers.socketType with
      | .error text =>
          .error ["VM file descriptor " ++ toString vmFd ++ " is not a socket", text]
      | .ok socketType =>
          if socketType ≠ .dgram then
            .error
              ["VM file descriptor " ++ toString vmFd ++ " is not a Unix datagram socket"]
          else
            match answers.address with
            | .error text =>
                .error
                  ["failed to inspect the address family of VM file descriptor " ++
                    toString vmFd, text]
            | .ok address =>
                -- Unnamed Unix sockets have a zero-length address
                if ¬ (address = none ∨ address = some .unix) then
                  .error ["VM file descriptor " ++ toString vmFd ++ " is not a Unix socket"]
                else
                  .ok ()

def duplicateVmFd
    (answers : SocketAnswers)
    (table : Descriptors φ)
    (vmFd : Int) :
    Descriptors φ × Except ErrorChain Int :=
  if vmFd < 0 then
    (table, .error
      ["invalid VM file descriptor " ++ toString vmFd ++ ": value must be non-negative"])
  else
    match answers.duplicate with
    | .error text =>
        (table, .error ["failed to duplicate VM file descriptor " ++ toString vmFd, text])
    | .ok duplicatedFd =>
        let table := Function.update table duplicatedFd (table vmFd)
        match validateVmFd answers duplicatedFd with
        | .error error => (close table duplicatedFd, .error error)
        | .ok () => (table, .ok duplicatedFd)

/-- A socket that is dropped, here after a failed call, closes its descriptor. -/
def new
    (answers : SocketAnswers)
    (table : Descriptors φ)
    (vmFd : Int) :
    Descriptors φ × Except ErrorChain VM :=
  match duplicateVmFd answers table vmFd with
  | (table, .error error) => (table, .error error)
  | (table, .ok fd) =>
      match answers.setNonblocking with
      | .error text => (close table fd, .error [text])
      | .ok () =>
          match answers.register with
          | .error text => (close table fd, .error [text])
          | .ok () => (table, .ok ⟨fd⟩)

def drop (table : Descriptors φ) (vm : VM) : Descriptors φ :=
  close table vm.fd

section Ownership

variable {answers : SocketAnswers}
variable {table : Descriptors φ}
variable {vmFd fd : Int}

theorem validateVmFd_eq_ok
    (h : validateVmFd answers vmFd = .ok ()) :
    answers.socketType = .ok .dgram ∧
      (answers.address = .ok none ∨ answers.address = .ok (some .unix)) := by
  unfold validateVmFd at h
  split at h
  · cases h
  · split at h
    · cases h
    · next socketType htype =>
        split at h
        · cases h
        · next hdgram =>
            split at h
            · cases h
            · next address haddress =>
                split at h
                · cases h
                · next hunix =>
                    rw [htype, haddress, not_not.mp hdgram]
                    rcases not_not.mp hunix with rfl | rfl
                    · exact ⟨rfl, .inl rfl⟩
                    · exact ⟨rfl, .inr rfl⟩

/-- Closing a descriptor that was opened leaves the table as it was. -/
theorem close_update
    (hfree : table fd = none)
    (file : Option φ) :
    close (Function.update table fd file) fd = table := by
  unfold close
  rw [Function.update_idem]
  exact Function.update_eq_self_iff.mpr hfree.symm

/-- Either nothing was opened, or one descriptor is, for the file that was given. -/
theorem duplicateVmFd_cases
    (hsound : answers.Sound table vmFd) :
    (∃ error, duplicateVmFd answers table vmFd = (table, .error error)) ∨
      ∃ fd, 0 ≤ fd ∧ table fd = none ∧ (table vmFd).isSome = true ∧
        validateVmFd answers fd = .ok () ∧
        duplicateVmFd answers table vmFd =
          (Function.update table fd (table vmFd), .ok fd) := by
  unfold duplicateVmFd
  split
  · exact .inl ⟨_, rfl⟩
  · split
    · exact .inl ⟨_, rfl⟩
    · next fd hduplicate =>
        obtain ⟨hnonneg, hfree, hopen⟩ := hsound fd hduplicate
        dsimp only
        split
        · next error _ => exact .inl ⟨error, by rw [close_update hfree]⟩
        · next hvalid => exact .inr ⟨fd, hnonneg, hfree, hopen, hvalid, rfl⟩

/--
`VM::new` takes exactly one descriptor or none.  When it fails, the open descriptors are what
they were.  When it succeeds, one more is open, it refers to the file of the descriptor that
was given, which is a Unix datagram socket, and dropping the VM closes it and nothing else.
-/
theorem new_owns_one_descriptor
    (answers : SocketAnswers)
    (table : Descriptors φ)
    (vmFd : Int)
    (hsound : answers.Sound table vmFd) :
    (∀ error, (new answers table vmFd).2 = .error error → (new answers table vmFd).1 = table) ∧
    ∀ vm, (new answers table vmFd).2 = .ok vm →
      table vm.fd = none ∧ (table vmFd).isSome = true ∧
      (new answers table vmFd).1 = Function.update table vm.fd (table vmFd) ∧
      drop (new answers table vmFd).1 vm = table ∧
      answers.socketType = .ok .dgram ∧
      (answers.address = .ok none ∨ answers.address = .ok (some .unix)) := by
  rcases duplicateVmFd_cases hsound with
    ⟨error, hfailed⟩ | ⟨fd, hnonneg, hfree, hopen, hvalid, hduplicated⟩
  · simp [new, hfailed]
  · obtain ⟨htype, haddress⟩ := validateVmFd_eq_ok hvalid
    have hclosed := close_update hfree (table vmFd)
    cases hnonblocking : answers.setNonblocking with
    | error text => simp [new, hduplicated, hnonblocking, hclosed]
    | ok =>
        cases hregister : answers.register with
        | error text => simp [new, hduplicated, hnonblocking, hregister, hclosed]
        | ok =>
            simp only [new, hduplicated, hnonblocking, hregister]
            constructor
            · intro error habsurd
              cases habsurd
            · intro vm htaken
              cases htaken
              exact ⟨hfree, hopen, rfl, hclosed, htype, haddress⟩

/-- One end of a socket pair is open as descriptor 3. -/
theorem new_owns_one_descriptor_pair :
    let answers : SocketAnswers := ⟨.ok 4, .ok (), .ok .dgram, .ok none, .ok (), .ok ()⟩
    let table : Descriptors Unit := Function.update (fun _ => none) 3 (some ())
    (new answers table 3).2 = .ok ⟨4⟩ ∧ drop (new answers table 3).1 ⟨4⟩ = table := by
  intro answers table
  have hsound : answers.Sound table 3 := by
    intro fd hfd
    cases hfd
    decide
  exact ⟨rfl, ((new_owns_one_descriptor answers table 3 hsound).2 ⟨4⟩ rfl).2.2.2.1⟩

end Ownership

end VM

end Softnet
