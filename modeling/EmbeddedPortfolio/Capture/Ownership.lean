import EmbeddedPortfolio.Capture.V4L2Capture
import EmbeddedPortfolio.Transition.Since
import Mathlib.Data.List.Nodup

namespace EmbeddedPortfolio.Capture

open EmbeddedPortfolio.Program
open EmbeddedPortfolio.Transition

/-! What the object owns, and that it releases each of it once. -/

def BufferSlot.resources (slot : BufferSlot) : List Resource :=
  (if 0 ≤ slot.dmabufFd then [.fd slot.dmabufFd] else []) ++
    (if slot.start ≠ 0 ∧ slot.length ≠ 0 then
      [.mapping slot.start slot.length]
    else [])

def V4L2Capture.owned (capture : V4L2Capture) : List Resource :=
  (if capture.fd = -1 then [] else [.fd capture.fd]) ++
    capture.slots.flatMap BufferSlot.resources

def Accounted (world : World) : Prop :=
  world.kernel.ledger.Owes world.capture.owned

/-- The calls between opening and closing touch no resource. -/
structure SameResources (before world : World) : Prop where
  fd : world.capture.fd = before.capture.fd
  slots : world.capture.slots = before.capture.slots
  ledger : world.kernel.ledger = before.kernel.ledger

theorem SameResources.refl (world : World) : SameResources world world :=
  ⟨rfl, rfl, rfl⟩

theorem SameResources.accounted {before world : World}
    (same : SameResources before world) (accounted : Accounted before) :
    Accounted world := by
  unfold Accounted V4L2Capture.owned at *
  rwa [same.fd, same.slots, same.ledger]

theorem xioctl_sameResources {Value : Type} {admits : Reply → Driver → Bool}
    {refusal : Driver → Errno} {answer : Reply → Value}
    {change : Reply → Driver → Driver} (what : String) (before : World) :
    Exceptional.Preserves (SameResources before)
      (xioctl (Kernel.driverRequest admits refusal answer change) what) := by
  apply Triple.xioctl
  · intro world reply middle value final same hsame _ hrequest
    obtain ⟨_, _, rfl⟩ := Kernel.driverRequest_served hrequest
    exact ⟨same.fd, same.slots, hsame.ledger.trans same.ledger⟩
  · intro world code final same hledger _ _
    exact ⟨same.fd, same.slots, hledger.trans same.ledger⟩

theorem service_sameResources {Value : Type} {run : Kernel → Value × Kernel}
    (quiet : ∀ kernel, (run kernel).2.ledger = kernel.ledger)
    (before : World) :
    Exceptional.Preserves (SameResources before) (service run) := by
  apply Exceptional.Triple.call
  intro world same
  exact ⟨same.fd, same.slots, (quiet world.kernel).trans same.ledger⟩

theorem onCapture_sameResources {change : V4L2Capture → V4L2Capture}
    (keeps : ∀ capture, (change capture).fd = capture.fd ∧
      (change capture).slots = capture.slots)
    (before : World) :
    Exceptional.Preserves (SameResources before) (onCapture change) := by
  apply Exceptional.Triple.update
  intro world same
  obtain ⟨hfd, hslots⟩ := keeps world.capture
  exact ⟨hfd.trans same.fd, hslots.trans same.slots, same.ledger⟩

theorem orThrow_preserves {Value : Type} (invariant : World → Prop)
    (what : String) (answer : Except Errno Value) :
    Exceptional.Preserves invariant (orThrow what answer) :=
  Triple.orThrow (fun _ _ _ holds => holds) fun _ _ _ holds => holds

theorem observe_preserves {Value : Type} (invariant : World → Prop)
    (view : World → Value) :
    Exceptional.Preserves invariant
      (Exceptional.observe view : CaptureM Value) :=
  Exceptional.Triple.observe fun _ holds => holds

theorem queueBuffer_sameResources (index : Nat) (before : World) :
    Exceptional.Preserves (SameResources before) (queueBuffer index) :=
  xioctl_sameResources _ before

theorem queueAll_sameResources (before : World) :
    Exceptional.Preserves (SameResources before) queueAll :=
  Exceptional.Preserves.bind (observe_preserves _ _) fun indices =>
    Exceptional.Preserves.forEach
      (fun index => queueBuffer_sameResources index before) indices

theorem queryCaps_sameResources (before : World) :
    Exceptional.Preserves (SameResources before) queryCaps := by
  apply Exceptional.Preserves.bind (xioctl_sameResources _ before)
  intro capabilities
  apply Exceptional.Triple.ite
  · intro _
    exact Exceptional.Preserves.fail _
  · intro _
    apply Exceptional.Triple.ite
    · intro _
      exact Exceptional.Preserves.fail _
    · intro _
      exact Exceptional.Preserves.pure ()

theorem setFormat_sameResources (before : World) :
    Exceptional.Preserves (SameResources before) setFormat :=
  Exceptional.Preserves.bind (xioctl_sameResources _ before) fun _ =>
    onCapture_sameResources (by simp) before

theorem start_sameResources (before : World) :
    Exceptional.Preserves (SameResources before) start :=
  Exceptional.Preserves.bind (xioctl_sameResources _ before) fun _ =>
    onCapture_sameResources (by simp) before

theorem deliver_sameResources (buf : DriverBuffer) (before : World) :
    Exceptional.Preserves (SameResources before) (deliver buf) := by
  apply Exceptional.Preserves.bind
    (onCapture_sameResources (by simp) before)
  intro _
  apply Exceptional.Preserves.bind
    (onCapture_sameResources (by simp [noteGap]) before)
  intro _
  apply Exceptional.Preserves.bind
    (service_sameResources Kernel.clock_ledger before)
  intro nowMs
  apply Exceptional.Preserves.bind
    (onCapture_sameResources (by simp [noteFrame]) before)
  intro _
  exact observe_preserves _ _

theorem dequeue_sameResources (before : World) :
    Exceptional.Preserves (SameResources before) dequeue := by
  apply Exceptional.Preserves.bind (observe_preserves _ _)
  intro fd
  apply Exceptional.Preserves.bind (service_sameResources
    (Kernel.ioctl_driverRequest_ledger _ _ _ _ fd) before)
  intro answer
  split
  · exact Exceptional.Preserves.pure none
  · exact Exceptional.Preserves.fail _
  · exact deliver_sameResources _ before

theorem next_sameResources (before : World) :
    Exceptional.Preserves (SameResources before) next := by
  apply Exceptional.Preserves.bind
    (service_sameResources (fun kernel => kernel.poll_same.ledger) before)
  intro answer
  apply Exceptional.Preserves.bind (orThrow_preserves _ _ answer)
  intro polled
  apply Exceptional.Triple.ite
  · intro _
    exact Exceptional.Preserves.pure none
  · intro _
    apply Exceptional.Triple.ite
    · intro _
      exact Exceptional.Preserves.fail _
    · intro _
      exact dequeue_sameResources before

theorem stop_sameResources (before : World) :
    Exceptional.Preserves (SameResources before) stop := by
  apply Exceptional.Preserves.bind (observe_preserves _ _)
  intro capture
  apply Exceptional.Triple.ite
  · intro _
    exact Exceptional.Preserves.pure ()
  · intro _
    apply Exceptional.Preserves.bind
      ((xioctl_sameResources _ before).attempt)
    intro _
    exact onCapture_sameResources (by simp) before

end EmbeddedPortfolio.Capture
