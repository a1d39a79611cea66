import EmbeddedPortfolio.Capture.V4L2Capture
import EmbeddedPortfolio.Transition.Custody
import Mathlib.Data.Multiset.MapFold

namespace EmbeddedPortfolio.Capture

open EmbeddedPortfolio.Program
open EmbeddedPortfolio.Transition

/-! The buffers between the driver and a caller, over sessions that are stopped
and started again. -/

structure Client where
  world : World
  held : List Frame

structure ClientEvent where
  before : Client
  call : Call

def heldAfter (held : List Frame) (call : Call)
    (result : Except SystemError (Option Frame)) : List Frame :=
  match call with
  | .next =>
      match result with
      | .ok (some frame) => frame :: held
      | _ => held
  | .release frame => held.erase frame
  | _ => held

def Client.after (client : Client) (call : Call) : Client where
  world := (perform call client.world).2
  held := heldAfter client.held call (perform call client.world).1

/-- Only a frame that was handed out is given back. -/
def Permitted (held : List Frame) : Call → Prop
  | .start => True
  | .next => True
  | .stop => True
  | .release frame => frame ∈ held
  | _ => False

/-- A call that the caller may make, and in which every `ioctl` succeeds. -/
def ClientEvent.Succeeds (event : ClientEvent) : Prop :=
  Permitted event.before.held event.call ∧
    (event.before.after event.call).world.kernel.failedIoctls =
      event.before.world.kernel.failedIoctls

/-- The calls after a successful `open`. -/
def clientSystem : System Client ClientEvent where
  initial client :=
    (∃ before, perform .openDevice before = (.ok none, client.world)) ∧
      client.held = []
  step client event next :=
    event.before = client ∧ event.Succeeds ∧ next = client.after event.call

def Client.holds (client : Client) (index : Nat) : Prop :=
  ∃ frame ∈ client.held, frame.index = index

/-- Every buffer that the caller does not hold is in the driver's queue. -/
def Client.NothingLost (client : Client) : Prop :=
  ∀ index < client.world.capture.cfg.bufferCount.toNat,
    ¬ client.holds index → index ∈ client.world.kernel.driver.queued

abbrev V4L2Capture.Idle (capture : V4L2Capture) : Prop :=
  ¬ capture.streaming ∨ capture.fd = -1

/-- A `stop` that reaches the driver before the caller holds every buffer. -/
def Abandons (event : ClientEvent) : Prop :=
  event.call = .stop ∧ ¬ event.before.world.capture.Idle ∧
    ∃ index < event.before.world.capture.cfg.bufferCount.toNat,
      ¬ event.before.holds index

instance (held : List Frame) (call : Call) : Decidable (Permitted held call) :=
  match call with
  | .start => instDecidableTrue
  | .next => instDecidableTrue
  | .stop => instDecidableTrue
  | .release frame => inferInstanceAs (Decidable (frame ∈ held))
  | .openDevice => instDecidableFalse
  | .close => instDecidableFalse
  | .destruct => instDecidableFalse

instance (event : ClientEvent) : Decidable event.Succeeds :=
  inferInstanceAs (Decidable (_ ∧ _))

instance (client : Client) (index : Nat) : Decidable (client.holds index) :=
  inferInstanceAs (Decidable (∃ frame ∈ client.held, _))

instance (client : Client) : Decidable client.NothingLost :=
  inferInstanceAs (Decidable (∀ index < _, _ → _))

instance (event : ClientEvent) : Decidable (Abandons event) :=
  inferInstanceAs (Decidable (_ ∧ ¬ (_ ∨ _) ∧ ∃ index < _, _))

/-! Sequences of calls from one client. -/

def Client.afterAll (client : Client) (calls : List Call) : Client :=
  calls.foldl Client.after client

def Client.history (client : Client) : List Call → List ClientEvent
  | [] => []
  | call :: rest => ⟨client, call⟩ :: (client.after call).history rest

theorem Client.run_history {client : Client} {events : List ClientEvent}
    (run : clientSystem.Run events client) (calls : List Call)
    (succeeds : ∀ event ∈ client.history calls, event.Succeeds) :
    clientSystem.Run (events ++ client.history calls)
      (client.afterAll calls) := by
  induction calls generalizing client events with
  | nil => simpa [history, afterAll] using run
  | cons call rest induction =>
      obtain ⟨hfirst, hrest⟩ := List.forall_mem_cons.mp succeeds
      have taken : clientSystem.step client ⟨client, call⟩ (client.after call) :=
        ⟨rfl, hfirst, rfl⟩
      have hrun := induction (run.extend taken) hrest
      rwa [List.append_assoc] at hrun

theorem Client.history_append (client : Client) (calls : List Call)
    (call : Call) :
    client.history (calls ++ [call]) =
      client.history calls ++ [⟨client.afterAll calls, call⟩] := by
  induction calls generalizing client with
  | nil => rfl
  | cons first rest induction =>
      exact congrArg (_ :: ·) (induction (client.after first))

/-! What each call does to the driver's queue. -/

structure Buffers (count : UInt32) (queued : List Nat) (failed : Nat)
    (world : World) : Prop where
  count : world.capture.cfg.bufferCount = count
  queued : world.kernel.driver.queued = queued
  failed : world.kernel.failedIoctls = failed

section Buffers

variable {count : UInt32} {queued : List Nat} {failed : Nat}

theorem Buffers.onCapture {world : World}
    (buffers : Buffers count queued failed world) {capture : V4L2Capture}
    (keeps : capture.cfg.bufferCount = world.capture.cfg.bufferCount) :
    Buffers count queued failed { world with capture } :=
  ⟨keeps.trans buffers.count, buffers.queued, buffers.failed⟩

theorem Buffers.sameState {world : World}
    (buffers : Buffers count queued failed world) {kernel : Kernel}
    (same : world.kernel.SameState kernel) :
    Buffers count queued failed { world with kernel } :=
  ⟨buffers.count, (congrArg Driver.queued same.driver).trans buffers.queued,
    same.failedIoctls.trans buffers.failed⟩

def Served {Value : Type} (count : UInt32) (queued : List Nat) (failed : Nat)
    (admits : Reply → Driver → Bool) (answer : Reply → Value)
    (change : Reply → Driver → Driver) (value : Value) (world : World) : Prop :=
  ∃ reply driver, driver.queued = queued ∧ admits reply driver ∧
    answer reply = value ∧
    Buffers count (change reply driver).queued failed world

section Request

variable {Value : Type} {admits : Reply → Driver → Bool}
variable {refusal : Driver → Errno} {answer : Reply → Value}
variable {change : Reply → Driver → Driver}

theorem ioctl_buffers {thrown : SystemError → World → Prop} (fd : Int) :
    Exceptional.Triple (Buffers count queued failed)
      (service
        (Kernel.ioctl (Kernel.driverRequest admits refusal answer change) fd))
      (fun outcome world => match outcome with
        | .ok value =>
            Served count queued failed admits answer change value world
        | .error _ => Buffers count queued (failed + 1) world)
      thrown := by
  apply Exceptional.Triple.call
  intro world buffers
  rcases Kernel.ioctl_cases
    (Kernel.driverRequest admits refusal answer change) fd world.kernel with
    ⟨code, refused, hioctl, _, hdriver, hfailed⟩ |
    ⟨value, reply, middle, served, hioctl, hsame, _, hrequest⟩
  · rw [hioctl]
    exact ⟨buffers.count,
      (congrArg Driver.queued hdriver).trans buffers.queued,
      hfailed.trans (congrArg (· + 1) buffers.failed)⟩
  · obtain ⟨hadmits, hanswer, rfl⟩ := Kernel.driverRequest_served hrequest
    have hmiddle := buffers.sameState hsame
    rw [hioctl]
    exact ⟨reply, middle.driver, hmiddle.queued, hadmits, hanswer,
      hmiddle.count, rfl, hmiddle.failed⟩

theorem xioctl_buffers (what : String) :
    Exceptional.Triple (Buffers count queued failed)
      (xioctl (Kernel.driverRequest admits refusal answer change) what)
      (Served count queued failed admits answer change)
      (fun _ => Buffers count queued (failed + 1)) := by
  apply Exceptional.Triple.bind fun _ => Buffers count queued failed
  · exact Exceptional.Triple.observe fun _ buffers => buffers
  intro fd
  apply Exceptional.Triple.bind _ (ioctl_buffers fd)
  intro outcome
  apply Triple.orThrow
  · rintro value world rfl served
    exact served
  · rintro code world rfl buffers
    exact buffers

end Request

theorem start_buffers :
    Exceptional.Triple (Buffers count queued failed) (perform .start)
      (fun _ => Buffers count queued failed)
      (fun _ => Buffers count queued (failed + 1)) := by
  apply Exceptional.Triple.bind fun _ => Buffers count queued failed
  · apply Exceptional.Triple.bind _ (xioctl_buffers _)
    intro _
    apply Exceptional.Triple.update
    intro world served
    obtain ⟨_, _, hqueued, _, _, buffers⟩ := served
    exact hqueued ▸ buffers.onCapture rfl
  · intro _
    exact Exceptional.Triple.pure fun _ buffers => buffers

theorem release_buffers (frame : Frame) :
    Exceptional.Triple (Buffers count queued failed) (perform (.release frame))
      (fun _ => Buffers count (queued ++ [frame.index]) failed)
      (fun _ => Buffers count queued (failed + 1)) := by
  apply Exceptional.Triple.bind _ (xioctl_buffers _)
  intro _
  apply Exceptional.Triple.pure
  intro world served
  obtain ⟨_, _, hqueued, _, _, buffers⟩ := served
  exact hqueued ▸ buffers

/-- What `next` hands out has left the driver's queue. -/
def Handed (count : UInt32) (queued : List Nat) (failed : Nat)
    (result : Option Frame) (world : World) : Prop :=
  match result with
  | none => ∃ failures, Buffers count queued failures world
  | some frame => frame.index ∈ queued ∧
      Buffers count (queued.erase frame.index) failed world

theorem deliver_buffers {buf : DriverBuffer} (member : buf.index ∈ queued) :
    Exceptional.Triple (Buffers count (queued.erase buf.index) failed)
      (deliver buf) (Handed count queued failed) (fun _ _ => False) := by
  intro world buffers
  have hclock := Kernel.reply_same world.kernel
  exact ⟨member, (buffers.sameState hclock).onCapture rfl⟩

theorem dequeue_buffers :
    Exceptional.Triple (Buffers count queued failed) dequeue
      (Handed count queued failed)
      (fun _ world => ∃ failures, Buffers count queued failures world) := by
  apply Exceptional.Triple.bind fun _ => Buffers count queued failed
  · exact Exceptional.Triple.observe fun _ buffers => buffers
  intro fd
  apply Exceptional.Triple.bind _ (ioctl_buffers fd)
  intro outcome
  cases outcome with
  | ok buf =>
      intro world served
      obtain ⟨reply, driver, rfl, hadmits, rfl, buffers⟩ := served
      exact deliver_buffers (of_decide_eq_true hadmits).2 world buffers
  | error code =>
      cases code with
      | eagain =>
          exact Exceptional.Triple.pure fun _ buffers => ⟨failed + 1, buffers⟩
      | _ =>
          exact Exceptional.Triple.fail fun _ buffers => ⟨failed + 1, buffers⟩

theorem next_buffers :
    Exceptional.Triple (Buffers count queued failed) next
      (Handed count queued failed)
      (fun _ world => ∃ failures, Buffers count queued failures world) := by
  unfold next
  apply Exceptional.Triple.bind fun _ => Buffers count queued failed
  · apply Exceptional.Triple.call
    intro world buffers
    exact buffers.sameState (Kernel.poll_same world.kernel)
  intro answer
  apply Exceptional.Triple.bind fun _ => Buffers count queued failed
  · exact Triple.orThrow (fun _ _ _ buffers => buffers)
      fun _ _ _ buffers => ⟨failed, buffers⟩
  intro polled
  apply Exceptional.Triple.ite
  · intro _
    exact Exceptional.Triple.pure fun _ buffers => ⟨failed, buffers⟩
  · intro _
    apply Exceptional.Triple.ite
    · intro _
      exact Exceptional.Triple.fail fun _ buffers => ⟨failed, buffers⟩
    · intro _
      exact dequeue_buffers

theorem stop_idle {world : World} (idle : world.capture.Idle) :
    (perform .stop world).2 = world := by
  have hstop : stop world = (.ok (), world) := congrFun (if_pos idle) world
  simp [perform, bind, hstop, pure]

theorem stop_buffers :
    Exceptional.Triple
      (fun world => Buffers count queued failed world ∧ ¬ world.capture.Idle)
      (perform .stop)
      (fun _ world => Buffers count [] failed world ∨
        Buffers count queued (failed + 1) world)
      (fun _ _ => False) := by
  apply Exceptional.Triple.bind fun _ world =>
    Buffers count [] failed world ∨ Buffers count queued (failed + 1) world
  · apply Exceptional.Triple.bind fun capture world =>
      Buffers count queued failed world ∧ ¬ capture.Idle
    · exact Exceptional.Triple.observe fun _ holds => holds
    intro capture
    apply Exceptional.Triple.ite
    · intro idle
      exact Exceptional.Triple.pure fun _ holds => absurd idle holds.2
    · intro _
      apply Exceptional.Triple.bind _ (Exceptional.Triple.attempt
        ((xioctl_buffers _).weaken (fun _ holds => holds.1)
          (fun _ _ post => post) fun _ _ post => post))
      intro outcome
      apply Exceptional.Triple.update
      intro world post
      cases outcome with
      | ok value =>
          obtain ⟨_, _, _, _, _, buffers⟩ := post
          exact Or.inl (buffers.onCapture rfl)
      | error error => exact Or.inr (Buffers.onCapture post rfl)
  · intro _
    exact Exceptional.Triple.pure fun _ buffers => buffers

end Buffers

/-! After `open` the driver has every buffer. -/

/-- The driver has every buffer that is not among those still to be queued. -/
def Queues (indices : List Nat) (world : World) : Prop :=
  ∀ index < world.capture.cfg.bufferCount.toNat,
    index ∈ world.kernel.driver.queued ∨ index ∈ indices

theorem queueBuffer_queues (index : Nat) (indices : List Nat) :
    Exceptional.Triple (Queues (index :: indices)) (queueBuffer index)
      (fun _ => Queues indices) (fun _ _ => True) := by
  apply Triple.xioctl
  · intro world reply middle value final queues hsame _ hrequest
    obtain ⟨_, _, rfl⟩ := Kernel.driverRequest_served hrequest
    intro other hother
    have hmember := queues other hother
    rw [← hsame.driver] at hmember
    simp only [List.mem_cons, List.mem_append] at hmember ⊢
    tauto
  · intro _ _ _ _ _ _ _
    trivial

theorem queueAll_queues :
    Exceptional.Triple (fun _ => True) queueAll (fun _ => Queues [])
      (fun _ _ => True) := by
  apply Exceptional.Triple.bind Queues
  · apply Exceptional.Triple.observe
    intro world _ index hindex
    exact Or.inr (List.mem_range.mpr hindex)
  · intro indices
    exact Exceptional.Triple.forEach queueBuffer_queues indices

theorem openDevice_queues :
    Exceptional.Triple (fun _ => True) (perform .openDevice)
      (fun _ => Queues []) (fun _ _ => True) := by
  apply Exceptional.Triple.bind fun _ => Queues []
  · apply Exceptional.Triple.bind _ (Exceptional.Triple.trivial statDevice)
    intro _
    apply Exceptional.Triple.bind _ (Exceptional.Triple.trivial openFile)
    intro _
    apply Exceptional.Triple.bind _ (Exceptional.Triple.trivial queryCaps)
    intro _
    apply Exceptional.Triple.bind _ (Exceptional.Triple.trivial setFormat)
    intro _
    apply Exceptional.Triple.bind _ (Exceptional.Triple.trivial requestBuffers)
    intro _
    apply Exceptional.Triple.bind _ (Exceptional.Triple.trivial mapBuffers)
    intro _
    exact queueAll_queues
  · intro _
    exact Exceptional.Triple.pure fun _ queues => queues

/-! The custody of the buffers. -/

def Client.custody (client : Client) : Custody Nat where
  items := { index | index < client.world.capture.cfg.bufferCount.toNat }
  keeper := client.world.kernel.driver.queued
  taker := client.held.map Frame.index

def ClientEvent.transfer (event : ClientEvent) : Option (Transfer Nat) :=
  match event.call with
  | .next =>
      match (perform .next event.before.world).1 with
      | .ok (some frame) => some (.take frame.index)
      | _ => none
  | .release frame => some (.give frame.index)
  | .stop =>
      if event.before.world.capture.Idle then none
      else some (.empty event.before.custody.untaken)
  | _ => none

def Moves (before : Custody Nat) (transfer : Option (Transfer Nat))
    (after : Custody Nat) : Prop :=
  match transfer with
  | none => after = before
  | some transfer => Custody.system.step before transfer after

theorem Buffers.of_client (client : Client) :
    Buffers client.world.capture.cfg.bufferCount
      client.world.kernel.driver.queued client.world.kernel.failedIoctls
      client.world :=
  ⟨rfl, rfl, rfl⟩

theorem Client.custody_eq (client : Client) {count : UInt32}
    {queued : List Nat} {failed : Nat}
    (buffers : Buffers count queued failed client.world) :
    client.custody = ⟨{ index | index < count.toNat }, queued,
      client.held.map Frame.index⟩ := by
  rw [Client.custody, buffers.count, buffers.queued]

theorem start_moves {client : Client}
    (succeeds : (client.after .start).world.kernel.failedIoctls =
      client.world.kernel.failedIoctls) :
    (client.after .start).custody = client.custody := by
  obtain ⟨_, _, buffers⟩ := start_buffers.returns (Buffers.of_client client)
    fun _ refused => Nat.succ_ne_self _ (refused.failed.symm.trans succeeds)
  exact (client.after .start).custody_eq buffers

theorem map_index_erase {held : List Frame} {frame : Frame}
    (member : frame ∈ held) :
    (((held.erase frame).map Frame.index : List Nat) : Multiset Nat) =
      Multiset.erase (held.map Frame.index : List Nat) frame.index := by
  have herase := Multiset.map_erase_of_mem Frame.index (held : Multiset Frame)
    (Multiset.mem_coe.mpr member)
  simpa using herase

theorem release_moves {client : Client} {frame : Frame}
    (member : frame ∈ client.held)
    (succeeds : (client.after (.release frame)).world.kernel.failedIoctls =
      client.world.kernel.failedIoctls) :
    Custody.system.step client.custody (.give frame.index)
      (client.after (.release frame)).custody := by
  obtain ⟨_, _, buffers⟩ :=
    (release_buffers frame).returns (Buffers.of_client client)
      fun _ refused => Nat.succ_ne_self _ (refused.failed.symm.trans succeeds)
  refine ⟨List.mem_map_of_mem member, ?_⟩
  have hqueued : ((client.world.kernel.driver.queued ++ [frame.index] :
        List Nat) : Multiset Nat) =
      frame.index ::ₘ (client.world.kernel.driver.queued : List Nat) := by
    rw [Multiset.cons_coe, Multiset.coe_eq_coe]
    exact List.perm_append_singleton _ _
  rw [(client.after (.release frame)).custody_eq buffers, hqueued]
  change Custody.mk _ _ (((client.held.erase frame).map Frame.index :
    List Nat) : Multiset Nat) = _
  rw [map_index_erase member]
  rfl

theorem next_moves (client : Client) :
    Moves client.custody (ClientEvent.transfer ⟨client, .next⟩)
      (client.after .next).custody := by
  have houtcome := next_buffers.outcome (Buffers.of_client client)
  have hheld : (client.after .next).held =
      heldAfter client.held .next (next client.world).1 := rfl
  have htransfer : ClientEvent.transfer ⟨client, .next⟩ =
      match (next client.world).1 with
      | .ok (some frame) => some (.take frame.index)
      | _ => none := rfl
  rw [htransfer]
  cases hresult : (next client.world).1 with
  | error error =>
      rw [hresult] at houtcome hheld
      obtain ⟨failures, buffers⟩ := houtcome
      rw [Moves, (client.after .next).custody_eq buffers, hheld]
      rfl
  | ok result =>
      rw [hresult] at houtcome hheld
      cases result with
      | none =>
          obtain ⟨failures, buffers⟩ := houtcome
          rw [Moves, (client.after .next).custody_eq buffers, hheld]
          rfl
      | some frame =>
          obtain ⟨member, buffers⟩ := houtcome
          refine ⟨member, ?_⟩
          rw [(client.after .next).custody_eq buffers, hheld]
          rfl

theorem stop_moves {client : Client}
    (succeeds : (client.after .stop).world.kernel.failedIoctls =
      client.world.kernel.failedIoctls) :
    Moves client.custody (ClientEvent.transfer ⟨client, .stop⟩)
      (client.after .stop).custody := by
  by_cases idle : client.world.capture.Idle
  · have htransfer : ClientEvent.transfer ⟨client, .stop⟩ = none :=
      if_pos idle
    have hafter : client.after .stop = client :=
      congrArg (Client.mk · client.held) (stop_idle idle)
    rw [htransfer, hafter]
    rfl
  · have htransfer : ClientEvent.transfer ⟨client, .stop⟩ =
        some (.empty client.custody.untaken) := if_neg idle
    obtain ⟨_, _, buffers | refused⟩ :=
      stop_buffers.returns ⟨Buffers.of_client client, idle⟩ fun _ => id
    · rw [htransfer]
      exact ⟨rfl, (client.after .stop).custody_eq buffers⟩
    · exact absurd (refused.failed.symm.trans succeeds) (Nat.succ_ne_self _)

theorem step_moves {client later : Client} {event : ClientEvent}
    (taken : clientSystem.step client event later) :
    Moves client.custody event.transfer later.custody := by
  obtain ⟨before, call⟩ := event
  obtain ⟨rfl, ⟨permitted, succeeds⟩, rfl⟩ := taken
  cases call with
  | start => exact start_moves succeeds
  | next => exact next_moves before
  | release frame => exact release_moves permitted succeeds
  | stop => exact stop_moves succeeds
  | openDevice => exact permitted.elim
  | close => exact permitted.elim
  | destruct => exact permitted.elim

theorem initial_lost {client : Client} (initial : clientSystem.initial client) :
    client.custody.lost = ∅ := by
  obtain ⟨⟨before, hopen⟩, _⟩ := initial
  have hqueues := openDevice_queues before trivial
  rw [hopen] at hqueues
  ext index
  constructor
  · intro lost
    exact lost.2.1 ((hqueues index lost.1).resolve_right List.not_mem_nil)
  · intro impossible
    exact impossible.elim

/-- The capture engine, as far as its buffers go, passes them between the driver
and the caller. -/
def custodyRefinement : Refinement clientSystem
    (Custody.system : System (Custody Nat) (Transfer Nat)) where
  abstraction := Client.custody
  observe := ClientEvent.transfer
  initial _ initial := initial_lost initial
  stutter client event later taken quiet := by
    have hmoves := step_moves taken
    rwa [quiet] at hmoves
  simulate client event later transfer taken observed := by
    have hmoves := step_moves taken
    rwa [observed] at hmoves

theorem mem_taker (client : Client) (index : Nat) :
    index ∈ client.custody.taker ↔ client.holds index :=
  Multiset.mem_coe.trans List.mem_map

theorem abandons_iff (event : ClientEvent) :
    Abandons event ↔ ∃ transfer, event.transfer = some transfer ∧
      (Custody.abandoned transfer).Nonempty := by
  obtain ⟨before, call⟩ := event
  constructor
  · intro abandons
    obtain ⟨hstop, hbusy, index, hindex, hholds⟩ := abandons
    change call = .stop at hstop
    subst hstop
    refine ⟨_, if_neg hbusy, index, hindex, ?_⟩
    rwa [mem_taker]
  · intro abandoned
    obtain ⟨transfer, htransfer, index, member⟩ := abandoned
    unfold ClientEvent.transfer at htransfer
    cases call with
    | stop =>
        by_cases idle : before.world.capture.Idle
        · cases (if_pos idle).symm.trans htransfer
        · cases (if_neg idle).symm.trans htransfer
          refine ⟨rfl, idle, index, member.1, ?_⟩
          rw [← mem_taker]
          exact member.2
    | next =>
        change (match (perform .next before.world).1 with
          | .ok (some frame) => some (Transfer.take frame.index)
          | _ => none) = some transfer at htransfer
        split at htransfer
        · cases htransfer
          exact member.elim
        · cases htransfer
    | release frame =>
        cases htransfer
        exact member.elim
    | _ => cases htransfer

theorem nothingLost_iff (client : Client) :
    client.NothingLost ↔ client.custody.lost = ∅ := by
  rw [Set.eq_empty_iff_forall_notMem]
  constructor
  · intro nothing index lost
    refine lost.2.1 (nothing index lost.1 ?_)
    rw [← mem_taker]
    exact lost.2.2
  · intro nothing index hindex hholds
    by_contra hqueued
    refine nothing index ⟨hindex, hqueued, ?_⟩
    rwa [mem_taker]

theorem run_loses {events : List ClientEvent} {client : Client}
    (run : clientSystem.Run events client) :
    client.NothingLost ↔ ∀ event ∈ events, ¬ Abandons event := by
  have hlost := Custody.mem_lost_iff (custodyRefinement.run run)
  change ∀ index, index ∈ client.custody.lost ↔ _ at hlost
  rw [nothingLost_iff, Set.eq_empty_iff_forall_notMem]
  constructor
  · intro nothing event member abandons
    obtain ⟨transfer, htransfer, index, habandoned⟩ :=
      (abandons_iff event).mp abandons
    exact nothing index ((hlost index).mpr
      ⟨transfer, List.mem_filterMap.mpr ⟨event, member, htransfer⟩, habandoned⟩)
  · intro nothing index lost
    obtain ⟨transfer, member, habandoned⟩ := (hlost index).mp lost
    obtain ⟨event, hevent, htransfer⟩ := List.mem_filterMap.mp member
    exact nothing event hevent
      ((abandons_iff event).mpr ⟨transfer, htransfer, index, habandoned⟩)

theorem start_queues_exactly {events : List ClientEvent} {event : ClientEvent}
    {client : Client} (run : clientSystem.Run (events ++ [event]) client)
    (starts : event.call = .start) :
    client.NothingLost ↔ ∀ earlier ∈ events, ¬ Abandons earlier := by
  have hstart : ¬ Abandons event := by
    intro abandons
    cases starts.symm.trans abandons.1
  rw [run_loses run, List.forall_mem_append, List.forall_mem_singleton]
  exact and_iff_left hstart

def Client.opened (before : World) : Client :=
  ⟨(perform .openDevice before).2, []⟩

theorem Client.opened_initial {before : World}
    (opens : (perform .openDevice before).1 = .ok none) :
    clientSystem.initial (Client.opened before) :=
  ⟨⟨before, Prod.ext opens rfl⟩, rfl⟩

def bothHanded : List Reply :=
  [{}, {}, { buffer := ⟨0, 4096, 0, 5, ⟨10, 0⟩⟩ }, {},
    {}, { buffer := ⟨1, 4096, 0, 6, ⟨11, 0⟩⟩ }, {}, {}, {}, {}]

/-- The caller holds both buffers at the `stop` and gives one of them back
before the next `start`. -/
def oneGivenBack : List Call :=
  [.start, .next, .next, .stop,
    .release ⟨65536, 4096, 0, 5, ⟨10, 0⟩, -1, false⟩]

theorem start_queues_exactly_bothHanded :
    ¬ ((Client.opened (twoBufferDevice bothHanded)).afterAll
        (oneGivenBack ++ [.start])).holds 0 ∧
      ((Client.opened (twoBufferDevice bothHanded)).afterAll
        (oneGivenBack ++ [.start])).NothingLost := by
  have initial : clientSystem.initial
      (Client.opened (twoBufferDevice bothHanded)) :=
    Client.opened_initial (by decide +kernel)
  have run := Client.run_history (.start initial)
    (oneGivenBack ++ [.start]) (by decide +kernel)
  rw [Client.history_append, List.nil_append] at run
  exact ⟨by decide +kernel,
    (start_queues_exactly run rfl).mpr (by decide +kernel)⟩

theorem start_queues_fails_stopped :
    ∃ events event client, clientSystem.Run (events ++ [event]) client ∧
      event.call = .start ∧ ¬ client.NothingLost := by
  have initial : clientSystem.initial
      (Client.opened (twoBufferDevice [{}, {}, {}])) :=
    Client.opened_initial (by decide +kernel)
  have run := Client.run_history (.start initial) ([.start, .stop] ++ [.start])
    (by decide +kernel)
  rw [Client.history_append, List.nil_append] at run
  exact ⟨_, _, _, run, rfl, by decide +kernel⟩

end EmbeddedPortfolio.Capture
