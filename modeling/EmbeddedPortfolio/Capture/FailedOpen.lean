import EmbeddedPortfolio.Capture.Resources

namespace EmbeddedPortfolio.Capture

open EmbeddedPortfolio.Program
open EmbeddedPortfolio.Transition

/-! An `open` that throws: what it leaves behind, and how the object recovers. -/

/-- The device exists and the kernel grants a descriptor for it. -/
def OpensFile (kernel : Kernel) : Prop :=
  (Kernel.stat kernel).1 = .ok true ∧
    ∃ fd, (Kernel.openFile (Kernel.stat kernel).2).1 = .ok fd

structure LeavesNoTrace (before after : World) : Prop where
  fd : after.capture.fd = -1
  slots : after.capture.slots = []
  live : after.kernel.ledger.live = before.kernel.ledger.live

/-- What `open` does once it has the descriptor. -/
def setUp : CaptureM Unit := do
  queryCaps
  setFormat
  requestBuffers
  mapBuffers
  queueAll

theorem statDevice_eq (world : World) :
    statDevice world =
      match (Kernel.stat world.kernel).1 with
      | .ok true =>
          (.ok (), { world with kernel := (Kernel.stat world.kernel).2 })
      | .ok false =>
          (.error ⟨world.capture.cfg.device ++ " is not a character device",
              .enodev⟩,
            { world with kernel := (Kernel.stat world.kernel).2 })
      | .error code =>
          (.error ⟨"stat(" ++ world.capture.cfg.device ++ ")", code⟩,
            { world with kernel := (Kernel.stat world.kernel).2 }) := by
  simp only [statDevice, bind, Exceptional.observe, service, Exceptional.call]
  cases (Kernel.stat world.kernel).1 with
  | ok isCharDevice =>
      cases isCharDevice with
      | true => rfl
      | false => rfl
  | error code => rfl

/-- The three ways through `stat` and `::open`. -/
theorem openDevice_cases (world : World) :
    ((Kernel.stat world.kernel).1 ≠ .ok true ∧
        SameResources world (openDevice world).2) ∨
      (∃ final, (Kernel.stat world.kernel).1 = .ok true ∧
        ¬ OpensFile world.kernel ∧ final.ledger = world.kernel.ledger ∧
        (openDevice world).2 = ⟨{ world.capture with fd := -1 }, final⟩) ∨
      ∃ fd final, OpensFile world.kernel ∧ 0 ≤ fd ∧
        .fd fd ∉ world.kernel.ledger.live ∧
        final.ledger = world.kernel.ledger.acquire (.fd fd) ∧
        openDevice world = setUp ⟨{ world.capture with fd := fd }, final⟩ := by
  have hledger := Kernel.stat_ledger world.kernel
  have hsame : SameResources world
      { world with kernel := (Kernel.stat world.kernel).2 } :=
    ⟨rfl, rfl, hledger⟩
  unfold openDevice
  simp only [bind, statDevice_eq]
  cases hstat : (Kernel.stat world.kernel).1 with
  | error code => exact Or.inl ⟨by simp, hsame⟩
  | ok isCharDevice =>
      cases isCharDevice with
      | false => exact Or.inl ⟨by simp, hsame⟩
      | true =>
          refine Or.inr ?_
          simp only [openFile_eq]
          rcases Kernel.openFile_cases (Kernel.stat world.kernel).2 with
            ⟨code, final, hanswer, hfinal⟩ |
            ⟨fd, final, hanswer, hfd, hfresh, hfinal⟩
          · refine Or.inl ⟨final, trivial, ?_, hfinal.trans hledger, ?_⟩
            · rintro ⟨_, fd, hopened⟩
              rw [hanswer] at hopened
              cases hopened
            · rw [hanswer]
          · rw [hledger] at hfresh hfinal
            refine Or.inr ⟨fd, final, ⟨hstat, fd, by rw [hanswer]⟩, hfd,
              hfresh, hfinal, ?_⟩
            rw [hanswer]
            rfl

/-! Nothing after `::open` touches the descriptor, or closes anything. -/

/-- The descriptor is `fd`, and what was live still is. -/
structure Keeps (fd : Int) (kept : List Resource) (world : World) : Prop where
  fd : world.capture.fd = fd
  live : kept ⊆ world.kernel.ledger.live

/-- A request that is served closes nothing. -/
def Grows {Value : Type} (request : Kernel.Request Value) : Prop :=
  ∀ {reply : Reply} {kernel final : Kernel} {value : Value},
    request reply kernel = (.ok value, final) →
      kernel.ledger.live ⊆ final.ledger.live

theorem driverRequest_grows {Value : Type} (admits : Reply → Driver → Bool)
    (refusal : Driver → Errno) (answer : Reply → Value)
    (change : Reply → Driver → Driver) :
    Grows (Kernel.driverRequest admits refusal answer change) := by
  intro reply kernel final value served
  obtain ⟨_, _, rfl⟩ := Kernel.driverRequest_served served
  exact List.Subset.refl _

theorem expbuf_grows (index : Nat) : Grows (Kernel.expbuf index) := by
  intro reply kernel final fd served
  obtain ⟨_, _, hledger⟩ := Kernel.expbuf_served served
  rw [hledger, Ledger.live_acquire]
  exact List.subset_cons_self _ _

section Keeps

variable {fd : Int} {kept : List Resource}

theorem onCapture_keeps {change : V4L2Capture → V4L2Capture}
    (same : ∀ capture, (change capture).fd = capture.fd) :
    Exceptional.Preserves (Keeps fd kept) (onCapture change) := by
  apply Exceptional.Triple.update
  intro world keeps
  exact ⟨(same world.capture).trans keeps.fd, keeps.live⟩

theorem xioctl_keeps {Value : Type} {request : Kernel.Request Value}
    (grows : Grows request) (what : String) :
    Exceptional.Preserves (Keeps fd kept) (xioctl request what) := by
  apply Triple.xioctl
  · intro world reply middle value final keeps same _ served
    refine ⟨keeps.fd, List.Subset.trans ?_ (grows served)⟩
    rw [same.ledger]
    exact keeps.live
  · intro world code final keeps hledger _ _
    refine ⟨keeps.fd, ?_⟩
    rw [hledger]
    exact keeps.live

theorem sameResources_keeps {Value : Type} {program : CaptureM Value}
    (same : ∀ before, Exceptional.Preserves (SameResources before) program) :
    Exceptional.Preserves (Keeps fd kept) program := by
  apply Exceptional.Preserves.of_related SameResources.refl same
  intro before final hsame keeps
  refine ⟨hsame.fd.trans keeps.fd, ?_⟩
  rw [hsame.ledger]
  exact keeps.live

theorem mmapBuffer_keeps (index length : Nat) :
    Exceptional.Preserves (Keeps fd kept) (mmapBuffer index length) := by
  intro world keeps
  rw [mmapBuffer_eq]
  rcases Kernel.mmap_cases world.capture.fd length world.kernel with
    ⟨code, final, hanswer, hledger⟩ |
    ⟨start, final, hanswer, _, _, _, hledger⟩
  · rw [hanswer]
    refine ⟨keeps.fd, ?_⟩
    rw [hledger]
    exact keeps.live
  · rw [hanswer]
    refine ⟨keeps.fd, ?_⟩
    rw [hledger, Ledger.live_acquire]
    exact List.subset_cons_of_subset _ keeps.live

theorem mapBuffer_keeps (index : Nat) :
    Exceptional.Preserves (Keeps fd kept) (mapBuffer index) := by
  apply Exceptional.Preserves.bind
    (xioctl_keeps (driverRequest_grows _ _ _ _) _)
  intro length
  apply Exceptional.Preserves.bind (mmapBuffer_keeps index _)
  intro _
  apply Exceptional.Preserves.bind (observe_preserves _ _)
  intro exportDmabuf
  apply Exceptional.Triple.ite
  · intro _
    apply Exceptional.Preserves.bind (xioctl_keeps (expbuf_grows index) _)
    intro exported
    exact onCapture_keeps fun _ => rfl
  · intro _
    exact Exceptional.Preserves.pure ()

theorem setUp_keeps : Exceptional.Preserves (Keeps fd kept) setUp := by
  apply Exceptional.Preserves.bind (sameResources_keeps queryCaps_sameResources)
  intro _
  apply Exceptional.Preserves.bind (sameResources_keeps setFormat_sameResources)
  intro _
  apply Exceptional.Preserves.bind
  · apply Exceptional.Preserves.bind (observe_preserves _ _)
    intro io
    apply Exceptional.Preserves.bind
      (xioctl_keeps (driverRequest_grows _ _ _ _) _)
    intro count
    apply Exceptional.Triple.ite
    · intro _
      exact Exceptional.Preserves.fail _
    · intro _
      exact onCapture_keeps fun _ => rfl
  intro _
  apply Exceptional.Preserves.bind
  · apply Exceptional.Preserves.bind (observe_preserves _ _)
    intro indices
    exact Exceptional.Preserves.forEach mapBuffer_keeps indices
  intro _
  exact sameResources_keeps queueAll_sameResources

end Keeps

/-! Opening an object, closed or not. -/

/-- The descriptor is still open, but the object has lost it. -/
structure Overwrites (before after : World) : Prop where
  opened : before.capture.fd ≠ -1
  live : .fd before.capture.fd ∈ after.kernel.ledger.live
  lost : after.capture.fd ≠ before.capture.fd

theorem Accounted.fd_live {world : World} (accounted : Accounted world)
    (opened : world.capture.fd ≠ -1) :
    .fd world.capture.fd ∈ world.kernel.ledger.live := by
  apply (Ledger.Owes.mem_live accounted).mpr
  unfold V4L2Capture.owned
  rw [if_neg opened]
  exact List.mem_append_left _ List.mem_cons_self

theorem openDevice_overwrites_iff {world : World}
    (accounted : Accounted world) :
    Overwrites world (openDevice world).2 ↔
      world.capture.fd ≠ -1 ∧ (Kernel.stat world.kernel).1 = .ok true := by
  constructor
  · intro overwrites
    refine ⟨overwrites.opened, ?_⟩
    rcases openDevice_cases world with
      ⟨_, hsame⟩ | ⟨_, hstat, _⟩ | ⟨_, _, hopens, _⟩
    · exact absurd hsame.fd overwrites.lost
    · exact hstat
    · exact hopens.1
  · rintro ⟨opened, hstat⟩
    have hlive := accounted.fd_live opened
    rcases openDevice_cases world with
      ⟨hrefused, _⟩ | ⟨final, _, _, hledger, hresult⟩ |
      ⟨fd, final, _, _, hfresh, hledger, hresult⟩
    · exact absurd hstat hrefused
    · rw [hresult]
      refine ⟨opened, ?_, opened.symm⟩
      rw [hledger]
      exact hlive
    · have hkeeps : Keeps fd world.kernel.ledger.live
          (openDevice world).2 := by
        rw [hresult]
        apply setUp_keeps.final
        refine ⟨rfl, ?_⟩
        rw [hledger, Ledger.live_acquire]
        exact List.subset_cons_self _ _
      refine ⟨opened, hkeeps.live hlive, ?_⟩
      rw [hkeeps.fd]
      intro hsame
      rw [hsame] at hfresh
      exact hfresh hlive

theorem openDevice_fd_iff {world : World} (closed : Closed world) :
    (openDevice world).2.capture.fd = -1 ↔ ¬ OpensFile world.kernel := by
  rcases openDevice_cases world with
    ⟨hrefused, hsame⟩ | ⟨final, _, hunopened, _, hresult⟩ |
    ⟨fd, final, hopens, hfd, _, _, hresult⟩
  · rw [hsame.fd, closed.1]
    exact iff_of_true rfl fun opens => hrefused opens.1
  · rw [hresult]
    exact iff_of_true rfl hunopened
  · have hkeeps : Keeps fd [] (openDevice world).2 := by
      rw [hresult]
      exact setUp_keeps.final ⟨rfl, List.nil_subset _⟩
    rw [hkeeps.fd]
    exact iff_of_false (by omega) (not_not_intro hopens)

theorem leavesNoTrace_iff {world : World} (closed : Closed world) :
    LeavesNoTrace world (openDevice world).2 ↔ ¬ OpensFile world.kernel := by
  constructor
  · intro unchanged
    exact (openDevice_fd_iff closed).mp unchanged.fd
  · intro unopened
    have hfd := (openDevice_fd_iff closed).mpr unopened
    rcases openDevice_cases world with
      ⟨_, hsame⟩ | ⟨final, _, _, hledger, hresult⟩ | ⟨_, _, hopens, _⟩
    · exact ⟨hfd, hsame.slots.trans closed.2, congrArg Ledger.live hsame.ledger⟩
    · rw [hresult]
      exact ⟨rfl, closed.2, congrArg Ledger.live hledger⟩
    · exact absurd hopens unopened

theorem perform_openDevice_final (world : World) :
    (perform .openDevice world).2 = (openDevice world).2 := by
  unfold perform
  simp only [bind]
  rcases openDevice world with ⟨error | value, final⟩
  · rfl
  · rfl

/-! The runs in which `open` finds the object closed: never opened, closed
again, or not granted a descriptor before. -/

def openWhenClosed : System World CallEvent where
  initial := callSystem.initial
  step world event next :=
    callSystem.step world event next ∧
      (event.call = .openDevice → Closed world)

theorem Accounted.step {world next : World} {event : CallEvent}
    (accounted : Accounted world)
    (taken : openWhenClosed.step world event next) : Accounted next := by
  obtain ⟨hperform, hclosed⟩ := taken
  have hnext : (perform event.call world).2 = next :=
    congrArg Prod.snd hperform
  rw [← hnext]
  by_cases hopen : event.call = .openDevice
  · rw [hopen]
    exact perform_openDevice.final ⟨accounted, hclosed hopen⟩
  · by_cases hcloses : closes event.call
    · exact ((perform_closes hcloses).final accounted).accounted
    · exact ((perform_sameResources hcloses hopen world).final
        (.refl world)).accounted accounted

theorem run_accounted {events : List CallEvent} {world : World}
    (run : openWhenClosed.Run events world) : Accounted world := by
  apply run.invariant (motive := fun _ world => Accounted world)
  · rintro _ ⟨cfg, script, rfl⟩
    exact Ledger.owes_empty
  · intro _ _ _ _ accounted taken
    exact accounted.step taken

/-- A failed `open` that took `before` to `after` left everything as it was
exactly when no descriptor was granted.  Otherwise the object holds what is
live, closing it releases all of that, and only a second `open` without a close
in between loses it. -/
structure FailedOpen (before after : World) : Prop where
  unchanged_iff : LeavesNoTrace before after ↔ ¬ OpensFile before.kernel
  recorded : Accounted after
  settles : ∀ call, closes call →
    Settled (perform call after).2 ∧
      ∀ acquisition ∈ (perform call after).2.kernel.ledger.acquisitions,
        acquisition.releases = 1
  retried : ∀ call, closes call →
    Accounted (perform .openDevice (perform call after).2).2
  retriedAtOnce : ¬ OpensFile before.kernel →
    Accounted (perform .openDevice after).2
  overwrites_iff : Overwrites after (perform .openDevice after).2 ↔
    OpensFile before.kernel ∧ (Kernel.stat after.kernel).1 = .ok true

theorem failed_open_loses_nothing {events : List CallEvent}
    {before after : World} {error : SystemError}
    (run : openWhenClosed.Run events before) (closed : Closed before)
    (failed : perform .openDevice before = (.error error, after)) :
    FailedOpen before after := by
  have hafter : (openDevice before).2 = after :=
    (perform_openDevice_final before).symm.trans (congrArg Prod.snd failed)
  have hunchanged : LeavesNoTrace before after ↔ ¬ OpensFile before.kernel :=
    hafter ▸ leavesNoTrace_iff closed
  have accounted : Accounted after :=
    hafter ▸ openDevice_triple.final ⟨run_accounted run, closed⟩
  have hsettled : ∀ call, closes call → Settled (perform call after).2 :=
    fun _ closing => (perform_closes closing).final accounted
  refine ⟨hunchanged, accounted, ?_, ?_, ?_, ?_⟩
  · intro call closing
    have settled := hsettled call closing
    exact ⟨settled, fun _ member => settled.2.settled member⟩
  · intro call closing
    have settled := hsettled call closing
    exact perform_openDevice.final ⟨settled.accounted, settled.1⟩
  · intro unopened
    have unchanged := hunchanged.mpr unopened
    exact perform_openDevice.final ⟨accounted, unchanged.fd, unchanged.slots⟩
  · rw [perform_openDevice_final, openDevice_overwrites_iff accounted,
      ← hafter, ne_eq, openDevice_fd_iff closed, not_not]

theorem failed_open_loses_nothing_halfMapped :
    Closed halfMapped ∧
      (perform .openDevice halfMapped).1 =
        .error ⟨"mmap buffer 1", .enomem⟩ ∧
      FailedOpen halfMapped (perform .openDevice halfMapped).2 := by
  have initial : openWhenClosed.initial halfMapped := ⟨_, _, rfl⟩
  have closed : Closed halfMapped := ⟨rfl, rfl⟩
  have failed : (perform .openDevice halfMapped).1 =
      .error ⟨"mmap buffer 1", .enomem⟩ := by
    decide +kernel
  exact ⟨closed, failed, failed_open_loses_nothing (.start initial) closed
    (Prod.ext failed rfl)⟩

/-- The device vanishes after each `::open`. -/
def unplugged : World :=
  construct ⟨"/dev/video0", 1280, 720, 0x56595559, 2, .mmap, false⟩
    [{}, { fd := 3 }, { errno := some .enodev },
      {}, { fd := 4 }, { errno := some .enodev }]

theorem failed_open_leaves_descriptor :
    callSystem.initial unplugged ∧
      (perform .openDevice unplugged).1 =
        .error ⟨"VIDIOC_QUERYCAP", .enodev⟩ ∧
      ¬ LeavesNoTrace unplugged (perform .openDevice unplugged).2 ∧
      Overwrites (perform .openDevice unplugged).2
        (perform .openDevice (perform .openDevice unplugged).2).2 := by
  have hfd : (perform .openDevice unplugged).2.capture.fd = 3 := by
    decide +kernel
  refine ⟨⟨_, _, rfl⟩, by decide +kernel, ?_, ⟨?_, ?_, ?_⟩⟩
  · intro unchanged
    rw [unchanged.fd] at hfd
    cases hfd
  · rw [hfd]
    decide
  · rw [hfd]
    decide +kernel
  · rw [hfd]
    decide +kernel

end EmbeddedPortfolio.Capture
