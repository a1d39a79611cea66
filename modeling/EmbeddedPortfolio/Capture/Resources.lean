import EmbeddedPortfolio.Capture.Ownership
import Mathlib.Data.List.Perm.Basic

namespace EmbeddedPortfolio.Capture

open EmbeddedPortfolio.Program
open EmbeddedPortfolio.Transition
open scoped List

/-! Opening and closing.  Wherever `open` throws, the object owns what has been
acquired so far. -/

/-- A program that touches no resource keeps the account, and whatever else
depends on the resources alone. -/
theorem accounted_keeps {Value : Type} {program : CaptureM Value}
    (same : ∀ before, Exceptional.Preserves (SameResources before) program)
    {extra : World → Prop}
    (stable : ∀ before world, SameResources before world →
      extra before → extra world) :
    Exceptional.Triple (fun world => Accounted world ∧ extra world) program
      (fun _ world => Accounted world ∧ extra world)
      (fun _ => Accounted) := by
  have hpreserves : Exceptional.Preserves
      (fun world => Accounted world ∧ extra world) program := by
    apply Exceptional.Preserves.of_related SameResources.refl same
    rintro before final hsame ⟨accounted, holds⟩
    exact ⟨hsame.accounted accounted, stable before final hsame holds⟩
  apply hpreserves.weaken
  · intro world holds
    exact holds
  · intro _ world holds
    exact holds
  · intro _ world holds
    exact holds.1

theorem accounted_preserves {Value : Type} {program : CaptureM Value}
    (same : ∀ before, Exceptional.Preserves (SameResources before) program) :
    Exceptional.Preserves Accounted program :=
  Exceptional.Preserves.of_related SameResources.refl same
    fun _ _ hsame accounted => hsame.accounted accounted

section Slots

variable {slots : List BufferSlot} {index : Nat} {slot : BufferSlot}

theorem slots_split (found : slots[index]? = some slot) :
    (slots.flatMap BufferSlot.resources).Perm
      (slot.resources ++
        (slots.eraseIdx index).flatMap BufferSlot.resources) := by
  obtain ⟨hindex, rfl⟩ := List.getElem?_eq_some_iff.mp found
  exact ((List.getElem_cons_eraseIdx_perm hindex).symm.flatMap_right _)

theorem slots_modify (found : slots[index]? = some slot)
    (change : BufferSlot → BufferSlot) :
    ((slots.modify index change).flatMap BufferSlot.resources).Perm
      ((change slot).resources ++
        (slots.eraseIdx index).flatMap BufferSlot.resources) := by
  have hfound : (slots.modify index change)[index]? = some (change slot) := by
    simp [found]
  have hsplit := slots_split hfound
  rwa [List.eraseIdx_modify_of_eq] at hsplit

theorem owned_modify {capture : V4L2Capture} {gained : Resource}
    (found : capture.slots[index]? = some slot)
    {change : BufferSlot → BufferSlot}
    (gains : (change slot).resources.Perm (gained :: slot.resources)) :
    ({ capture with
      slots := capture.slots.modify index change }).owned.Perm
        (gained :: capture.owned) := by
  have hslots : (capture.slots.modify index change).flatMap
      BufferSlot.resources ~
        gained :: capture.slots.flatMap BufferSlot.resources :=
    calc
      (capture.slots.modify index change).flatMap BufferSlot.resources
      _ ~ (change slot).resources ++
          (capture.slots.eraseIdx index).flatMap BufferSlot.resources :=
        slots_modify found change
      _ ~ gained :: (slot.resources ++
          (capture.slots.eraseIdx index).flatMap BufferSlot.resources) :=
        gains.append_right _
      _ ~ gained :: capture.slots.flatMap BufferSlot.resources :=
        (slots_split found).symm.cons gained
  exact (hslots.append_left _).trans List.perm_middle

end Slots

theorem Accounted.of_ledger {world : World} {final : Kernel}
    (accounted : Accounted world)
    (unchanged : final.ledger = world.kernel.ledger) :
    Accounted { world with kernel := final } := by
  have hsame : SameResources world { world with kernel := final } :=
    ⟨rfl, rfl, unchanged⟩
  exact hsame.accounted accounted

def Holding (gained : Resource) (world : World) : Prop :=
  world.kernel.ledger.Owes (gained :: world.capture.owned)

theorem Accounted.holding {world : World} {gained : Resource} {final : Kernel}
    (accounted : Accounted world) (fresh : gained ∉ world.kernel.ledger.live)
    (acquired : final.ledger = world.kernel.ledger.acquire gained) :
    Holding gained { world with kernel := final } := by
  unfold Holding
  rw [acquired]
  exact accounted.acquire fresh

theorem Holding.modify {world : World} {index : Nat} {slot : BufferSlot}
    {gained : Resource} (holding : Holding gained world)
    (found : world.capture.slots[index]? = some slot)
    {change : BufferSlot → BufferSlot}
    (gains : (change slot).resources ~ gained :: slot.resources) :
    Accounted { world with capture := { world.capture with
      slots := world.capture.slots.modify index change } } :=
  Ledger.Owes.perm holding (owned_modify found gains).symm

/-! The loop over the buffers. -/

/-- The slots still to come are empty. -/
structure Empty (rest : List Nat) (world : World) : Prop where
  distinct : rest.Nodup
  empty : ∀ index ∈ rest, world.capture.slots[index]? = some {}

theorem Empty.tail {index : Nat} {rest : List Nat} {world : World}
    (empty : Empty (index :: rest) world) : Empty rest world where
  distinct := (List.nodup_cons.mp empty.distinct).2
  empty other member := empty.empty other (List.mem_cons_of_mem index member)

theorem Empty.modify {index : Nat} {rest : List Nat} {world : World}
    (empty : Empty rest world) (later : index ∉ rest)
    (change : BufferSlot → BufferSlot) :
    Empty rest { world with capture := { world.capture with
      slots := world.capture.slots.modify index change } } where
  distinct := empty.distinct
  empty := by
    intro other hother
    have hne : index ≠ other := fun hsame => later (hsame ▸ hother)
    exact (List.getElem?_modify_ne _ _ hne).trans (empty.empty other hother)

theorem Empty.stable {rest : List Nat} {before world : World}
    (same : SameResources before world) (empty : Empty rest before) :
    Empty rest world where
  distinct := empty.distinct
  empty := by
    rw [same.slots]
    exact empty.empty

def Unexported (index : Nat) (world : World) : Prop :=
  ∃ slot, world.capture.slots[index]? = some slot ∧ slot.dmabufFd = -1

theorem mmapBuffer_eq (index length : Nat) (world : World) :
    mmapBuffer index length world =
      match (Kernel.mmap world.capture.fd length world.kernel).1 with
      | .ok start =>
          (.ok (), { capture := { world.capture with
                       slots := world.capture.slots.modify index fun slot =>
                         { slot with start, length } }
                     kernel :=
                       (Kernel.mmap world.capture.fd length world.kernel).2 })
      | .error code =>
          (.error ⟨"mmap buffer " ++ toString index, code⟩,
            { world with
              kernel :=
                (Kernel.mmap world.capture.fd length world.kernel).2 }) := by
  simp only [mmapBuffer, bind, Exceptional.observe, service, Exceptional.call]
  cases (Kernel.mmap world.capture.fd length world.kernel).1 with
  | ok start => rfl
  | error code => rfl

theorem mmapBuffer_triple (index length : Nat) (rest : List Nat) :
    Exceptional.Triple
      (fun world => Accounted world ∧ Empty (index :: rest) world)
      (mmapBuffer index length)
      (fun _ world => Accounted world ∧ Empty rest world ∧
        Unexported index world)
      (fun _ => Accounted) := by
  rintro world ⟨accounted, empty⟩
  rw [mmapBuffer_eq]
  rcases Kernel.mmap_cases world.capture.fd length world.kernel with
    ⟨code, final, hanswer, hledger⟩ |
    ⟨start, final, hanswer, hstart, hlength, hfresh, hledger⟩
  · rw [hanswer]
    exact accounted.of_ledger hledger
  · rw [hanswer]
    have holding : Holding (.mapping start length)
        { world with kernel := final } := accounted.holding hfresh hledger
    have hempty : Empty (index :: rest) { world with kernel := final } :=
      ⟨empty.distinct, empty.empty⟩
    have hfound := empty.empty index List.mem_cons_self
    have hlater := (List.nodup_cons.mp empty.distinct).1
    refine ⟨holding.modify hfound ?_, ?_, ?_⟩
    · simp [BufferSlot.resources, hstart, hlength]
    · exact hempty.tail.modify hlater _
    · exact ⟨{ start, length }, by simp [hfound], rfl⟩

theorem exportBuffer_triple (index : Nat) {rest : List Nat}
    (later : index ∉ rest) :
    Exceptional.Triple
      (fun world => Accounted world ∧ Empty rest world ∧
        Unexported index world)
      (exportBuffer index)
      (fun _ world => Accounted world ∧ Empty rest world)
      (fun _ => Accounted) := by
  unfold exportBuffer
  apply Exceptional.Triple.bind fun fd world => 0 ≤ fd ∧
    Holding (.fd fd) world ∧ Empty rest world ∧ Unexported index world
  · apply Triple.xioctl
    · rintro world reply middle fd final ⟨accounted, empty, unexported⟩
        hsame _ hserved
      obtain ⟨hfd, hfresh, hledger⟩ := Kernel.expbuf_served hserved
      rw [hsame.ledger] at hfresh hledger
      exact ⟨hfd, accounted.holding hfresh hledger,
        ⟨empty.distinct, empty.empty⟩, unexported⟩
    · rintro world code final ⟨accounted, _⟩ hledger _ _
      exact accounted.of_ledger hledger
  intro fd
  apply Exceptional.Triple.update
  rintro world ⟨hfd, holding, empty, slot, hfound, hunexported⟩
  refine ⟨holding.modify hfound ?_, empty.modify later _⟩
  simp [BufferSlot.resources, hfd, hunexported]

theorem mapBuffer_triple (index : Nat) (rest : List Nat) :
    Exceptional.Triple
      (fun world => Accounted world ∧ Empty (index :: rest) world)
      (mapBuffer index)
      (fun _ world => Accounted world ∧ Empty rest world)
      (fun _ => Accounted) := by
  by_cases hlater : index ∈ rest
  · rintro world ⟨_, empty⟩
    exact absurd hlater (List.nodup_cons.mp empty.distinct).1
  unfold mapBuffer
  apply Exceptional.Triple.bind
    fun _ world => Accounted world ∧ Empty (index :: rest) world
  · exact accounted_keeps (xioctl_sameResources _)
      fun _ _ same empty => empty.stable same
  intro length
  apply Exceptional.Triple.bind _ (mmapBuffer_triple index length.toNat rest)
  intro _
  apply Exceptional.Triple.bind
    fun _ world => Accounted world ∧ Empty rest world ∧ Unexported index world
  · exact Exceptional.Triple.observe fun _ holds => holds
  intro exportDmabuf
  apply Exceptional.Triple.ite
  · intro _
    exact exportBuffer_triple index hlater
  · intro _
    apply Exceptional.Triple.pure
    rintro world ⟨accounted, empty, _⟩
    exact ⟨accounted, empty⟩

theorem mapBuffers_triple :
    Exceptional.Triple
      (fun world => Accounted world ∧
        Empty (bufferIndices world.capture) world)
      mapBuffers (fun _ => Accounted) (fun _ => Accounted) := by
  unfold mapBuffers
  apply Exceptional.Triple.bind
    fun indices world => Accounted world ∧ Empty indices world
  · exact Exceptional.Triple.observe fun _ holds => holds
  intro indices
  apply (Exceptional.Triple.forEach mapBuffer_triple indices).weaken
    (fun _ holds => holds) ?_ (fun _ _ holds => holds)
  rintro _ world ⟨accounted, _⟩
  exact accounted

/-! The steps of `open` in order. -/

def Closed (world : World) : Prop :=
  world.capture.fd = -1 ∧ world.capture.slots = []

theorem Closed.stable {before world : World}
    (same : SameResources before world) (closed : Closed before) :
    Closed world :=
  ⟨same.fd.trans closed.1, same.slots.trans closed.2⟩

theorem statDevice_sameResources (before : World) :
    Exceptional.Preserves (SameResources before) statDevice := by
  apply Exceptional.Preserves.bind (observe_preserves _ _)
  intro device
  apply Exceptional.Preserves.bind
    (service_sameResources Kernel.stat_ledger before)
  intro answer
  apply Exceptional.Preserves.bind (orThrow_preserves _ _ answer)
  intro isCharDevice
  apply Exceptional.Triple.ite
  · intro _
    exact Exceptional.Preserves.pure ()
  · intro _
    exact Exceptional.Preserves.fail _

theorem owned_openFd {capture : V4L2Capture} (closed : capture.fd = -1)
    {fd : Int} (hfd : 0 ≤ fd) :
    ({ capture with fd := fd }).owned = .fd fd :: capture.owned := by
  have hopen : fd ≠ -1 := by omega
  simp [V4L2Capture.owned, closed, hopen]

theorem openFile_eq (world : World) :
    openFile world =
      match (Kernel.openFile world.kernel).1 with
      | .ok fd =>
          (.ok (), { capture := { world.capture with fd := fd }
                     kernel := (Kernel.openFile world.kernel).2 })
      | .error code =>
          (.error ⟨"open(" ++ world.capture.cfg.device ++ ")", code⟩,
            { capture := { world.capture with fd := -1 }
              kernel := (Kernel.openFile world.kernel).2 }) := by
  simp only [openFile, bind, Exceptional.observe, service, Exceptional.call,
    onCapture, Exceptional.update]
  cases (Kernel.openFile world.kernel).1 with
  | ok fd => rfl
  | error code => rfl

theorem openFile_triple :
    Exceptional.Triple (fun world => Accounted world ∧ Closed world) openFile
      (fun _ world => Accounted world ∧ world.capture.slots = [])
      (fun _ => Accounted) := by
  rintro world ⟨accounted, hclosed, hslots⟩
  rw [openFile_eq]
  rcases Kernel.openFile_cases world.kernel with
    ⟨code, final, hanswer, hledger⟩ |
    ⟨fd, final, hanswer, hfd, hfresh, hledger⟩
  · rw [hanswer]
    have hsame : SameResources world
        ⟨{ world.capture with fd := -1 }, final⟩ :=
      ⟨hclosed.symm, rfl, hledger⟩
    exact hsame.accounted accounted
  · rw [hanswer]
    have holding : Holding (.fd fd) { world with kernel := final } :=
      accounted.holding hfresh hledger
    unfold Holding at holding
    rw [← owned_openFd hclosed hfd] at holding
    exact ⟨holding, hslots⟩

theorem owned_resize (capture : V4L2Capture) (closed : capture.slots = [])
    (cfg : Config) (count : Nat) :
    ({ capture with cfg, slots := capture.slots.takeD count {} }).owned =
      capture.owned := by
  have hempty : (List.replicate count ({} : BufferSlot)).flatMap
      BufferSlot.resources = [] := by
    apply List.flatMap_eq_nil_iff.mpr
    intro slot hslot
    rw [List.eq_of_mem_replicate hslot]
    rfl
  simp only [V4L2Capture.owned, closed, List.takeD_nil, hempty,
    List.flatMap_nil]

theorem requestBuffers_triple :
    Exceptional.Triple
      (fun world => Accounted world ∧ world.capture.slots = [])
      requestBuffers
      (fun _ world => Accounted world ∧
        Empty (bufferIndices world.capture) world)
      (fun _ => Accounted) := by
  unfold requestBuffers
  apply Exceptional.Triple.bind
    fun _ world => Accounted world ∧ world.capture.slots = []
  · exact Exceptional.Triple.observe fun _ holds => holds
  intro io
  apply Exceptional.Triple.bind
    fun _ world => Accounted world ∧ world.capture.slots = []
  · exact accounted_keeps (xioctl_sameResources _)
      fun _ _ same hslots => same.slots.trans hslots
  intro count
  apply Exceptional.Triple.ite
  · intro _
    apply Exceptional.Triple.fail
    rintro world ⟨accounted, _⟩
    exact accounted
  · intro _
    apply Exceptional.Triple.update
    rintro world ⟨accounted, hslots⟩
    refine ⟨?_, List.nodup_range, ?_⟩
    · unfold Accounted at accounted ⊢
      rwa [owned_resize world.capture hslots]
    · intro index hindex
      have hlt : index < count.toNat := List.mem_range.mp hindex
      simp [hslots, hlt]

theorem openDevice_triple :
    Exceptional.Triple (fun world => Accounted world ∧ Closed world) openDevice
      (fun _ => Accounted) (fun _ => Accounted) := by
  unfold openDevice
  apply Exceptional.Triple.bind _ (accounted_keeps statDevice_sameResources
    fun _ _ same closed => Closed.stable same closed)
  intro _
  apply Exceptional.Triple.bind _ openFile_triple
  intro _
  apply Exceptional.Triple.bind _ (accounted_keeps queryCaps_sameResources
    fun _ _ same hslots => same.slots.trans hslots)
  intro _
  apply Exceptional.Triple.bind _ (accounted_keeps setFormat_sameResources
    fun _ _ same hslots => same.slots.trans hslots)
  intro _
  apply Exceptional.Triple.bind _ requestBuffers_triple
  intro _
  apply Exceptional.Triple.bind _ mapBuffers_triple
  intro _
  exact accounted_preserves queueAll_sameResources

/-! Closing releases what the object owns. -/

theorem unmap_owes {slot : BufferSlot} {rest : List Resource} {kernel : Kernel}
    (owes : kernel.ledger.Owes (slot.resources ++ rest)) :
    (slot.unmap kernel).ledger.Owes rest := by
  unfold BufferSlot.resources at owes
  unfold BufferSlot.unmap
  by_cases hexported : 0 ≤ slot.dmabufFd
  · by_cases hmapped : slot.start ≠ 0 ∧ slot.length ≠ 0
    · simp only [if_pos hexported, if_pos hmapped] at owes ⊢
      exact owes.release_head.release_head
    · simp only [if_pos hexported, if_neg hmapped] at owes ⊢
      exact owes.release_head
  · by_cases hmapped : slot.start ≠ 0 ∧ slot.length ≠ 0
    · simp only [if_neg hexported, if_pos hmapped] at owes ⊢
      exact owes.release_head
    · simp only [if_neg hexported, if_neg hmapped] at owes ⊢
      exact owes

theorem unmapAll_owes {slots : List BufferSlot} {rest : List Resource}
    {kernel : Kernel}
    (owes : kernel.ledger.Owes
      (slots.flatMap BufferSlot.resources ++ rest)) :
    (slots.foldl (fun kernel slot => slot.unmap kernel) kernel).ledger.Owes
      rest := by
  induction slots generalizing kernel with
  | nil => exact owes
  | cons slot slots induction =>
      rw [List.flatMap_cons, List.append_assoc] at owes
      exact induction (unmap_owes owes)

def Settled (world : World) : Prop :=
  Closed world ∧ world.kernel.ledger.Owes []

theorem Settled.accounted {world : World} (settled : Settled world) :
    Accounted world := by
  obtain ⟨⟨hfd, hslots⟩, owes⟩ := settled
  have hnone : world.capture.owned = [] := by
    simp [V4L2Capture.owned, hfd, hslots]
  unfold Accounted
  rwa [hnone]

theorem close_settles :
    Exceptional.Triple Accounted close (fun _ => Settled)
      (fun _ => Settled) := by
  unfold close
  apply Exceptional.Triple.bind
    fun _ world => Accounted world ∧ world.capture.slots = []
  · apply Exceptional.Triple.update
    intro world accounted
    refine ⟨?_, rfl⟩
    have howes := unmapAll_owes
      (Ledger.Owes.perm accounted List.perm_append_comm)
    simpa [Accounted, V4L2Capture.owned] using howes
  intro _
  apply Exceptional.Triple.update
  rintro world ⟨accounted, hslots⟩
  unfold Accounted V4L2Capture.owned at accounted
  rw [hslots, List.flatMap_nil, List.append_nil] at accounted
  by_cases hclosed : world.capture.fd = -1
  · rw [if_pos hclosed] at accounted
    rw [if_pos hclosed]
    exact ⟨⟨hclosed, hslots⟩, accounted⟩
  · rw [if_neg hclosed] at accounted
    rw [if_neg hclosed]
    exact ⟨⟨rfl, hslots⟩, accounted.release_head⟩

theorem destruct_settles :
    Exceptional.Triple Accounted destruct (fun _ => Settled)
      (fun _ => Settled) := by
  unfold destruct
  apply Exceptional.Triple.bind fun _ => Accounted
  · exact (accounted_preserves stop_sameResources).attempt
  intro _
  exact close_settles

theorem close_closed {world : World} (closed : Closed world) :
    close world = (.ok (), world) := by
  obtain ⟨capture, kernel⟩ := world
  obtain ⟨hfd, hslots⟩ := closed
  obtain ⟨cfg, fd, fmt, slots, _⟩ := capture
  cases hfd
  cases hslots
  rfl

theorem destruct_closed {world : World} (closed : Closed world) :
    destruct world = (.ok (), world) := by
  have hstop : stop world = (.ok (), world) := by
    have hguard : ¬ world.capture.streaming ∨ world.capture.fd = -1 :=
      Or.inr closed.1
    exact congrFun (if_pos hguard) world
  have hattempt : Exceptional.attempt stop world = (.ok (.ok ()), world) := by
    simp [Exceptional.attempt, hstop]
  simp [destruct, bind, hattempt, close_closed closed]

theorem perform_openDevice :
    Exceptional.Triple (fun world => Accounted world ∧ Closed world)
      (perform .openDevice) (fun _ => Accounted) (fun _ => Accounted) :=
  Exceptional.Triple.bind _ openDevice_triple fun _ =>
    Exceptional.Triple.pure fun _ accounted => accounted

def closes (call : Call) : Prop :=
  call = .close ∨ call = .destruct

theorem perform_closes {call : Call} (closing : closes call) :
    Exceptional.Triple Accounted (perform call) (fun _ => Settled)
      (fun _ => Settled) := by
  rcases closing with rfl | rfl
  · exact Exceptional.Triple.bind _ close_settles fun _ =>
      Exceptional.Triple.pure fun _ settled => settled
  · exact Exceptional.Triple.bind _ destruct_settles fun _ =>
      Exceptional.Triple.pure fun _ settled => settled

theorem perform_closed {call : Call} (closing : closes call) {world : World}
    (closed : Closed world) : (perform call world).2 = world := by
  rcases closing with rfl | rfl
  · simp [perform, bind, close_closed closed, pure]
  · simp [perform, bind, destruct_closed closed, pure]

theorem perform_sameResources {call : Call} (stays : ¬ closes call)
    (notOpen : call ≠ .openDevice) (before : World) :
    Exceptional.Preserves (SameResources before) (perform call) := by
  cases call with
  | openDevice => exact absurd rfl notOpen
  | start =>
      exact Exceptional.Preserves.bind (start_sameResources before) fun _ =>
        Exceptional.Preserves.pure none
  | next => exact next_sameResources before
  | release frame =>
      exact Exceptional.Preserves.bind
        (queueBuffer_sameResources frame.index before) fun _ =>
          Exceptional.Preserves.pure none
  | stop =>
      exact Exceptional.Preserves.bind (stop_sameResources before) fun _ =>
        Exceptional.Preserves.pure none
  | close => exact absurd (Or.inl rfl) stays
  | destruct => exact absurd (Or.inr rfl) stays

/-! Every run of calls. -/

/-- `open` is called at most once between two calls of `close`. -/
def OpensOnce (events : List CallEvent) : Prop :=
  ∀ first opened middle reopened last,
    events = first ++ opened :: (middle ++ reopened :: last) →
      opened.call = .openDevice → reopened.call = .openDevice →
        ∃ closing ∈ middle, closing.call = .close

def isOpen (event : CallEvent) : Bool :=
  event.call = .openDevice

def isClose (event : CallEvent) : Bool :=
  event.call = .close

theorem OpensOnce.of_append {first second : List CallEvent}
    (opensOnce : OpensOnce (first ++ second)) : OpensOnce first := by
  intro before opened middle reopened last hsplit
  apply opensOnce before opened middle reopened (last ++ second)
  rw [hsplit]
  simp

theorem OpensOnce.not_pending {events : List CallEvent} {event : CallEvent}
    (opensOnce : OpensOnce (events ++ [event])) (opens : isOpen event) :
    pending isOpen isClose events = false := by
  by_contra hpending
  obtain ⟨first, opened, middle, rfl, hopened, hmiddle⟩ :=
    exists_raised_of_pending (Bool.not_eq_false _ ▸ hpending)
  obtain ⟨closing, hclosing, hclose⟩ :=
    opensOnce first opened middle event [] (by simp)
      (by simpa [isOpen] using hopened) (by simpa [isOpen] using opens)
  have hcleared := hmiddle closing hclosing
  simp [isClose, hclose] at hcleared

/-- After every call the object owns what is outstanding, and it is closed
unless `open` was called after the last `close`. -/
structure Owner (events : List CallEvent) (world : World) : Prop where
  accounted : Accounted world
  closed : pending isOpen isClose events = false → Closed world

theorem Owner.step {events : List CallEvent} {event : CallEvent}
    {world next : World} (owner : Owner events world)
    (opensOnce : OpensOnce (events ++ [event]))
    (taken : callSystem.step world event next) :
    Owner (events ++ [event]) next := by
  have hnext : (perform event.call world).2 = next := congrArg Prod.snd taken
  by_cases hopen : isOpen event
  · have hcall : event.call = .openDevice := by simpa [isOpen] using hopen
    have hclosed := owner.closed (opensOnce.not_pending hopen)
    rw [hcall] at hnext
    refine ⟨hnext ▸ perform_openDevice.final ⟨owner.accounted, hclosed⟩, ?_⟩
    intro hpending
    simp [hopen] at hpending
  · by_cases hcloses : closes event.call
    · have hsettled : Settled next :=
        hnext ▸ (perform_closes hcloses).final owner.accounted
      exact ⟨hsettled.accounted, fun _ => hsettled.1⟩
    · have hcall : event.call ≠ .openDevice := by simpa [isOpen] using hopen
      have hsame : SameResources world next :=
        hnext ▸ (perform_sameResources hcloses hcall world).final (.refl world)
      refine ⟨hsame.accounted owner.accounted, ?_⟩
      intro hpending
      have hstays : isClose event = false := by
        simpa [isClose] using fun hclose => hcloses (Or.inl hclose)
      rw [pending_append_singleton, if_neg hopen, hstays] at hpending
      exact Closed.stable hsame (owner.closed (by simpa using hpending))

theorem run_owner {events : List CallEvent} {world : World}
    (run : callSystem.Run events world) (opensOnce : OpensOnce events) :
    Owner events world := by
  induction run with
  | start initial =>
      obtain ⟨cfg, script, rfl⟩ := initial
      exact ⟨Ledger.owes_empty, fun _ => ⟨rfl, rfl⟩⟩
  | extend _ taken induction =>
      exact (induction opensOnce.of_append).step opensOnce taken

/-- Nothing is ever released twice, and after a call that closes the object
everything has been released once and closing again changes nothing. -/
theorem released_exactly_once {events : List CallEvent} {world : World}
    (run : callSystem.Run events world) (opensOnce : OpensOnce events) :
    (∀ acquisition ∈ world.kernel.ledger.acquisitions,
        acquisition.releases ≤ 1) ∧
      world.kernel.ledger.strays = 0 ∧
      ∀ earlier event, events = earlier ++ [event] → closes event.call →
        (∀ acquisition ∈ world.kernel.ledger.acquisitions,
          acquisition.releases = 1) ∧
        ∀ again, closes again →
          (perform again world).2.kernel.ledger = world.kernel.ledger := by
  have howner := run_owner run opensOnce
  refine ⟨howner.accounted.orderly.once, howner.accounted.noStrays, ?_⟩
  rintro earlier event rfl closing
  obtain ⟨before, hearlier, taken⟩ := run.last
  have hbefore := run_owner hearlier opensOnce.of_append
  have hworld : (perform event.call before).2 = world :=
    congrArg Prod.snd taken
  have hsettled : Settled world :=
    hworld ▸ (perform_closes closing).final hbefore.accounted
  refine ⟨fun acquisition member => hsettled.2.settled member, ?_⟩
  intro again hagain
  rw [perform_closed hagain hsettled.1]

def halfMapped : World :=
  construct ⟨"/dev/video0", 1280, 720, 0x56595559, 2, .mmap, true⟩
    [{}, { fd := 3 }, { capabilities := 0x04000001 }, {}, { count := 2 },
      { length := 4096 }, { address := 65536 }, { fd := 4 },
      { length := 4096 }, { errno := some .enomem }]

theorem released_exactly_once_halfMapped :
    let opened := perform .openDevice halfMapped
    let closed := perform .close opened.2
    closed.2.kernel.ledger.acquisitions.length = 3 ∧
      ∀ acquisition ∈ closed.2.kernel.ledger.acquisitions,
        acquisition.releases = 1 := by
  intro opened closed
  have initial : callSystem.initial halfMapped := ⟨_, _, rfl⟩
  have run : callSystem.Run
      [⟨.openDevice, opened.1⟩, ⟨.close, closed.1⟩] closed.2 :=
    .extend (.extend (.start initial) (callSystem_perform _ _))
      (callSystem_perform _ _)
  have opensOnce : OpensOnce [⟨.openDevice, opened.1⟩, ⟨.close, closed.1⟩] := by
    intro first one middle two last hsplit _ htwo
    have hlast : two ∈ [(⟨.close, closed.1⟩ : CallEvent)] := by
      rcases first with _ | ⟨_, first⟩
      · rw [List.nil_append, List.cons.injEq] at hsplit
        simp [hsplit.2]
      · rw [List.cons_append, List.cons.injEq] at hsplit
        rcases first with _ | ⟨_, first⟩ <;> simp at hsplit
    rw [List.mem_singleton.mp hlast] at htwo
    cases htwo
  exact ⟨by decide +kernel,
    ((released_exactly_once run opensOnce).2.2 [_] _ rfl (Or.inl rfl)).1⟩

end EmbeddedPortfolio.Capture
