import EmbeddedPortfolio.Program.Ledger
import Mathlib.Algebra.Order.Field.Rat

namespace EmbeddedPortfolio.Capture

open EmbeddedPortfolio.Program

/-! The kernel under the capture engine.  Its replies come from an arbitrary
script, so a call may fail at any time; what it cannot do (hand out a descriptor
that is open, dequeue a buffer that was not queued) counts as a failure. -/

inductive Errno where
  | eintr
  | eio
  | ebadf
  | eagain
  | enomem
  | enodev
  | einval
  | other (code : Nat)
deriving DecidableEq, Repr

inductive Resource where
  | fd (number : Int)
  | mapping (start length : Nat)
deriving DecidableEq, Repr

structure Timeval where
  sec : Int
  usec : Int
deriving DecidableEq, Repr

structure PixFormat where
  width : UInt32
  height : UInt32
  pixelformat : UInt32
  bytesperline : UInt32
  sizeimage : UInt32
deriving DecidableEq, Repr

structure DriverBuffer where
  index : Nat
  bytesused : UInt32
  flags : UInt32
  sequence : UInt32
  timestamp : Timeval
deriving DecidableEq, Repr

structure PollResult where
  ready : Bool
  broken : Bool
deriving DecidableEq, Repr

structure Reply where
  errno : Option Errno := none
  isCharDevice : Bool := true
  fd : Int := 0
  capabilities : UInt32 := 0
  format : PixFormat := ⟨0, 0, 0, 0, 0⟩
  count : UInt32 := 0
  length : UInt32 := 0
  address : Nat := 0
  poll : PollResult := ⟨true, false⟩
  buffer : DriverBuffer := ⟨0, 0, 0, 0, ⟨0, 0⟩⟩
  nowMs : ℚ := 0
deriving DecidableEq, Repr

/-- `V4L2_MEMORY_MMAP` and `V4L2_MEMORY_USERPTR`. -/
inductive Memory where
  | mmap
  | userPtr
deriving DecidableEq, Repr

/-- The driver's side of the buffers: those in `queued` are its own.  It maps
and queues them as the kind of memory that they were requested as. -/
structure Driver where
  memory : Memory
  allocated : Nat
  queued : List Nat
  streaming : Bool
deriving DecidableEq, Repr

structure Kernel where
  script : List Reply
  ledger : Ledger Resource
  driver : Driver
  failedIoctls : Nat
deriving DecidableEq, Repr

abbrev Service (Value : Type) : Type := Kernel → Except Errno Value × Kernel

namespace Kernel

def boot (script : List Reply) : Kernel :=
  ⟨script, Ledger.empty, ⟨.mmap, 0, [], false⟩, 0⟩

def isOpen (kernel : Kernel) (fd : Int) : Bool :=
  Resource.fd fd ∈ kernel.ledger.live

/-- The next reply; when the script is at its end every call fails. -/
def reply (kernel : Kernel) : Reply × Kernel :=
  match kernel.script with
  | [] => ({ errno := some .eio }, kernel)
  | reply :: script => (reply, { kernel with script })

/-- The loops that call again while the error is `eintr`. -/
def retried (kernel : Kernel) : Kernel :=
  { kernel with
    script := kernel.script.dropWhile fun reply => reply.errno = some .eintr }

def acquire (resource : Resource) (kernel : Kernel) : Kernel :=
  { kernel with ledger := kernel.ledger.acquire resource }

def stat : Service Bool := fun kernel =>
  let (reply, kernel) := kernel.reply
  match reply.errno with
  | some code => (.error code, kernel)
  | none => (.ok reply.isCharDevice, kernel)

def openFile : Service Int := fun kernel =>
  let (reply, kernel) := kernel.reply
  match reply.errno with
  | some code => (.error code, kernel)
  | none =>
      if 0 ≤ reply.fd ∧ ¬ kernel.isOpen reply.fd then
        (.ok reply.fd, { kernel.acquire (.fd reply.fd) with
          driver := ⟨.mmap, 0, [], false⟩ })
      else (.error .eio, kernel)

def mmap (fd : Int) (length : Nat) : Service Nat := fun kernel =>
  let (reply, kernel) := kernel.reply
  match reply.errno with
  | some code => (.error code, kernel)
  | none =>
      if kernel.isOpen fd ∧ kernel.driver.memory = .mmap ∧ length ≠ 0 ∧
          reply.address ≠ 0 ∧
          .mapping reply.address length ∉ kernel.ledger.live then
        (.ok reply.address, kernel.acquire (.mapping reply.address length))
      else (.error .einval, kernel)

def munmap (start length : Nat) (kernel : Kernel) : Kernel :=
  { kernel with ledger := kernel.ledger.release (.mapping start length) }

def close (fd : Int) (kernel : Kernel) : Kernel :=
  { kernel with ledger := kernel.ledger.release (.fd fd) }

def poll : Service PollResult := fun kernel =>
  let (reply, kernel) := kernel.retried.reply
  match reply.errno with
  | some code => (.error code, kernel)
  | none => (.ok reply.poll, kernel)

def clock (kernel : Kernel) : ℚ × Kernel :=
  let (reply, kernel) := kernel.reply
  (reply.nowMs, kernel)

abbrev Request (Value : Type) : Type := Reply → Service Value

def refuse {Value : Type} (code : Errno) : Service Value := fun kernel =>
  (.error code, { kernel with failedIoctls := kernel.failedIoctls + 1 })

def ioctl {Value : Type} (request : Request Value) (fd : Int) :
    Service Value := fun kernel =>
  let (reply, kernel) := kernel.retried.reply
  match reply.errno with
  | some code => kernel.refuse code
  | none =>
      if kernel.isOpen fd then
        match request reply kernel with
        | (.ok value, served) => (.ok value, served)
        | (.error code, _) => kernel.refuse code
      else kernel.refuse .ebadf

/-- A request about the driver's buffers, which acquires nothing. -/
def driverRequest {Value : Type} (admits : Reply → Driver → Bool)
    (refusal : Driver → Errno) (answer : Reply → Value)
    (change : Reply → Driver → Driver) : Request Value := fun reply kernel =>
  if admits reply kernel.driver then
    (.ok (answer reply),
      { kernel with driver := change reply kernel.driver })
  else (.error (refusal kernel.driver), kernel)

def invalid (_ : Driver) : Errno := .einval

def querycap : Request UInt32 :=
  driverRequest (fun _ _ => true) invalid Reply.capabilities
    fun _ driver => driver

def setFormat : Request PixFormat :=
  driverRequest (fun _ _ => true) invalid Reply.format fun _ driver => driver

def reqbufs (memory : Memory) : Request UInt32 :=
  driverRequest (fun _ _ => true) invalid Reply.count fun reply driver =>
    { driver with memory, allocated := reply.count.toNat, queued := [] }

def querybuf (index : Nat) : Request UInt32 :=
  driverRequest (fun _ driver => index < driver.allocated) invalid
    Reply.length fun _ driver => driver

def qbuf (memory : Memory) (index : Nat) : Request Unit :=
  driverRequest
    (fun _ driver => memory = driver.memory ∧ index < driver.allocated ∧
      index ∉ driver.queued)
    invalid (fun _ => ())
    fun _ driver => { driver with queued := driver.queued ++ [index] }

def dqbuf : Request DriverBuffer :=
  driverRequest
    (fun reply driver => driver.streaming ∧ reply.buffer.index ∈ driver.queued)
    (fun driver => if driver.streaming then .eagain else .einval)
    Reply.buffer
    fun reply driver =>
      { driver with queued := driver.queued.erase reply.buffer.index }

def streamon : Request Unit :=
  driverRequest (fun _ _ => true) invalid (fun _ => ())
    fun _ driver => { driver with streaming := true }

def streamoff : Request Unit :=
  driverRequest (fun _ _ => true) invalid (fun _ => ())
    fun _ driver => { driver with streaming := false, queued := [] }

def expbuf (index : Nat) : Request Int := fun reply kernel =>
  if index < kernel.driver.allocated ∧ 0 ≤ reply.fd ∧
      ¬ kernel.isOpen reply.fd then
    (.ok reply.fd, kernel.acquire (.fd reply.fd))
  else (.error .einval, kernel)

theorem driverRequest_served {Value : Type} {admits : Reply → Driver → Bool}
    {refusal : Driver → Errno} {answer : Reply → Value}
    {change : Reply → Driver → Driver} {reply : Reply} {kernel final : Kernel}
    {value : Value}
    (served : driverRequest admits refusal answer change reply kernel =
      (.ok value, final)) :
    admits reply kernel.driver ∧ answer reply = value ∧
      { kernel with driver := change reply kernel.driver } = final := by
  unfold driverRequest at served
  split at served
  · next hadmits =>
      cases served
      exact ⟨hadmits, rfl, rfl⟩
  · cases served

/-! Taking a reply from the script changes nothing else. -/

structure SameState (first second : Kernel) : Prop where
  ledger : second.ledger = first.ledger
  driver : second.driver = first.driver
  failedIoctls : second.failedIoctls = first.failedIoctls

theorem reply_same (kernel : Kernel) : SameState kernel kernel.reply.2 := by
  unfold reply
  split <;> exact ⟨rfl, rfl, rfl⟩

theorem retried_reply_same (kernel : Kernel) :
    SameState kernel kernel.retried.reply.2 := by
  have hreply := reply_same kernel.retried
  exact ⟨hreply.ledger, hreply.driver, hreply.failedIoctls⟩

theorem clock_ledger (kernel : Kernel) :
    (clock kernel).2.ledger = kernel.ledger :=
  kernel.reply_same.ledger

theorem stat_ledger (kernel : Kernel) :
    (stat kernel).2.ledger = kernel.ledger := by
  have hsame := reply_same kernel
  unfold stat
  generalize kernel.reply = answer at hsame ⊢
  obtain ⟨reply, middle⟩ := answer
  cases herrno : reply.errno <;> simpa [herrno] using hsame.ledger

theorem poll_same (kernel : Kernel) : SameState kernel (poll kernel).2 := by
  have hsame := retried_reply_same kernel
  unfold poll
  generalize kernel.retried.reply = answer at hsame ⊢
  obtain ⟨reply, middle⟩ := answer
  cases herrno : reply.errno <;> simpa [herrno] using hsame

theorem ioctl_cases {Value : Type} (request : Request Value) (fd : Int)
    (kernel : Kernel) :
    (∃ code refused, ioctl request fd kernel = (.error code, refused) ∧
        refused.ledger = kernel.ledger ∧ refused.driver = kernel.driver ∧
        refused.failedIoctls = kernel.failedIoctls + 1) ∨
      ∃ value reply middle served,
        ioctl request fd kernel = (.ok value, served) ∧
          SameState kernel middle ∧ middle.isOpen fd ∧
          request reply middle = (.ok value, served) := by
  have hsame := retried_reply_same kernel
  unfold ioctl
  generalize kernel.retried.reply = answer at hsame ⊢
  obtain ⟨reply, middle⟩ := answer
  have hrefuse : ∀ code, ∃ refused,
      (refuse code middle : Except Errno Value × Kernel) =
        (.error code, refused) ∧
        refused.ledger = kernel.ledger ∧ refused.driver = kernel.driver ∧
        refused.failedIoctls = kernel.failedIoctls + 1 :=
    fun code => ⟨_, rfl, hsame.ledger, hsame.driver,
      congrArg (· + 1) hsame.failedIoctls⟩
  cases herrno : reply.errno with
  | some code =>
      obtain ⟨refused, hrefused⟩ := hrefuse code
      exact Or.inl ⟨code, refused, by simpa [herrno] using hrefused⟩
  | none =>
      by_cases hopen : middle.isOpen fd
      · rcases hserved : request reply middle with ⟨code | value, served⟩
        · obtain ⟨refused, hrefused⟩ := hrefuse code
          exact Or.inl ⟨code, refused,
            by simpa [herrno, hopen, hserved] using hrefused⟩
        · exact Or.inr ⟨value, reply, middle, served,
            by simp [herrno, hopen, hserved], hsame, hopen, hserved⟩
      · obtain ⟨refused, hrefused⟩ := hrefuse .ebadf
        exact Or.inl ⟨.ebadf, refused,
          by simpa [herrno, hopen] using hrefused⟩

theorem openFile_cases (kernel : Kernel) :
    (∃ code final, openFile kernel = (.error code, final) ∧
        final.ledger = kernel.ledger) ∨
      ∃ fd final, openFile kernel = (.ok fd, final) ∧ 0 ≤ fd ∧
        .fd fd ∉ kernel.ledger.live ∧
        final.ledger = kernel.ledger.acquire (.fd fd) := by
  have hsame := reply_same kernel
  unfold openFile
  generalize kernel.reply = answer at hsame ⊢
  obtain ⟨reply, middle⟩ := answer
  cases herrno : reply.errno with
  | some code => exact Or.inl ⟨code, middle, by simp [herrno], hsame.ledger⟩
  | none =>
      by_cases hfresh : 0 ≤ reply.fd ∧ ¬ middle.isOpen reply.fd
      · refine Or.inr ⟨reply.fd, { middle.acquire (.fd reply.fd) with
          driver := ⟨.mmap, 0, [], false⟩ }, by simp only [herrno, if_pos hfresh],
          hfresh.1, ?_, ?_⟩
        · rw [← hsame.ledger]
          simpa [isOpen] using hfresh.2
        · rw [← hsame.ledger]
          rfl
      · exact Or.inl ⟨.eio, middle, by simp only [herrno, if_neg hfresh],
          hsame.ledger⟩

theorem mmap_cases (fd : Int) (length : Nat) (kernel : Kernel) :
    (∃ code final, mmap fd length kernel = (.error code, final) ∧
        final.ledger = kernel.ledger) ∨
      ∃ start final, mmap fd length kernel = (.ok start, final) ∧
        start ≠ 0 ∧ length ≠ 0 ∧
        .mapping start length ∉ kernel.ledger.live ∧
        final.ledger = kernel.ledger.acquire (.mapping start length) := by
  have hsame := reply_same kernel
  unfold mmap
  generalize kernel.reply = answer at hsame ⊢
  obtain ⟨reply, middle⟩ := answer
  cases herrno : reply.errno with
  | some code => exact Or.inl ⟨code, middle, by simp [herrno], hsame.ledger⟩
  | none =>
      by_cases hfresh : middle.isOpen fd ∧ middle.driver.memory = .mmap ∧
          length ≠ 0 ∧ reply.address ≠ 0 ∧
          .mapping reply.address length ∉ middle.ledger.live
      · refine Or.inr ⟨reply.address,
          middle.acquire (.mapping reply.address length),
          by simp only [herrno, if_pos hfresh], hfresh.2.2.2.1,
          hfresh.2.2.1, ?_, ?_⟩
        · rw [← hsame.ledger]
          exact hfresh.2.2.2.2
        · rw [← hsame.ledger]
          rfl
      · exact Or.inl ⟨.einval, middle, by simp only [herrno, if_neg hfresh],
          hsame.ledger⟩

theorem expbuf_served {index : Nat} {reply : Reply} {kernel final : Kernel}
    {fd : Int} (served : expbuf index reply kernel = (.ok fd, final)) :
    0 ≤ fd ∧ .fd fd ∉ kernel.ledger.live ∧
      final.ledger = kernel.ledger.acquire (.fd fd) := by
  unfold expbuf at served
  split at served
  · next hfresh =>
      cases served
      exact ⟨hfresh.2.1, by simpa [isOpen] using hfresh.2.2, rfl⟩
  · cases served

theorem ioctl_driverRequest_ledger {Value : Type}
    (admits : Reply → Driver → Bool) (refusal : Driver → Errno)
    (answer : Reply → Value) (change : Reply → Driver → Driver) (fd : Int)
    (kernel : Kernel) :
    (ioctl (driverRequest admits refusal answer change) fd kernel).2.ledger =
      kernel.ledger := by
  rcases ioctl_cases (driverRequest admits refusal answer change) fd kernel with
    ⟨code, refused, hioctl, hledger, _⟩ |
    ⟨value, reply, middle, served, hioctl, hsame, _, hserved⟩
  · rw [hioctl]
    exact hledger
  · obtain ⟨_, _, rfl⟩ := driverRequest_served hserved
    rw [hioctl]
    exact hsame.ledger

end Kernel

end EmbeddedPortfolio.Capture
