import EmbeddedPortfolio.Detector.Letterbox
import EmbeddedPortfolio.Telemetry.Frame

namespace EmbeddedPortfolio.Detector

open EmbeddedPortfolio.Numeric EmbeddedPortfolio.Telemetry FloatConversions

/-! Detections on the CAN bus, a frame for each. -/

structure SocketCanPublisher where
  baseId : UInt32
  fd : Int
deriving DecidableEq, Repr

/-- One call's arguments, and which of its writes succeed. -/
structure Publication (Real : Type) where
  dets : List (Detection Real)
  frameW : Int
  frameH : Int
  write : Nat → Bool

/-- The sizes of the sets that a listener sees begin. -/
def setTotals (frames : List CanFrame) : List Nat :=
  frames.filterMap fun fr =>
    if fr.data.get 0 = 0 then some (fr.data.get 1).toNat else none

/-- What a call returns, and the frames it puts on the bus. -/
structure Published where
  ok : Bool
  frames : List CanFrame
deriving DecidableEq, Repr

section Code

variable {Real : Type}
variable [Add Real] [Mul Real] [Div Real] [Zero Real] [One Real]
variable [LT Real] [DecidableLT Real] [IntCast Real] [OfScientific Real]
variable [FloatConversions Real]

/-- The integer that a clamped value is sent as. -/
def scaledClamp (value : Real) (steps : Int) : Int :=
  toInt (stdClamp value 0 1 * (steps : Real))

def detectionFrame (baseId : UInt32) (frameW frameH : Int) (total i : Nat)
    (d : Detection Real) : CanFrame :=
  let cx := (d.x + d.w * 0.5) / (frameW : Real)
  let cy := (d.y + d.h * 0.5) / (frameH : Real)
  let nx := toUInt16 (scaledClamp cx 65535)
  let ny := toUInt16 (scaledClamp cy 65535)
  { canId := baseId
    canDlc := 8
    data := #v[UInt8.ofNat i, UInt8.ofNat total,
      toUInt8 (stdClamp d.classId 0 255), toUInt8 (scaledClamp d.score 255),
      (nx >>> 8).toUInt8, (nx &&& 0xff).toUInt8,
      (ny >>> 8).toUInt8, (ny &&& 0xff).toUInt8] }

/-- The loop stops at the first write that fails. -/
def publishFrom (write : Nat → Bool)
    (frame : Nat → Detection Real → CanFrame) :
    Nat → List (Detection Real) → Published
  | _, [] => { ok := true, frames := [] }
  | i, d :: dets =>
      if write i then
        let rest := publishFrom write frame (i + 1) dets
        { rest with frames := frame i d :: rest.frames }
      else { ok := false, frames := [] }

-- The size fits an `int`: there are at most `max_detections` of them.
def SocketCanPublisher.publish (publisher : SocketCanPublisher)
    (call : Publication Real) : Published :=
  if publisher.fd < 0 ∨ call.frameW ≤ 0 ∨ call.frameH ≤ 0 then
    { ok := false, frames := [] }
  else
    let total := min call.dets.length 255
    publishFrom call.write
      (detectionFrame publisher.baseId call.frameW call.frameH total) 0
      (call.dets.take total)

/-- The frames that a history of calls puts on the bus. -/
def SocketCanPublisher.stream (publisher : SocketCanPublisher)
    (calls : List (Publication Real)) : List CanFrame :=
  calls.flatMap fun call => (publisher.publish call).frames

/-! What each call puts on the bus. -/

omit [Add Real] [Mul Real] [Div Real] [Zero Real] [One Real] [LT Real]
  [DecidableLT Real] [IntCast Real] [OfScientific Real]
  [FloatConversions Real] in
theorem publishFrom_ok {write : Nat → Bool}
    {frame : Nat → Detection Real → CanFrame} {i : Nat}
    {dets : List (Detection Real)} (ok : (publishFrom write frame i dets).ok) :
    (publishFrom write frame i dets).frames =
      dets.mapIdx fun k d => frame (i + k) d := by
  induction dets generalizing i with
  | nil => rfl
  | cons d dets induction =>
      rw [publishFrom] at ok ⊢
      by_cases hwrite : write i
      · rw [if_pos hwrite] at ok ⊢
        simp only [List.mapIdx_cons, Nat.add_zero, induction ok,
          Nat.add_assoc, Nat.add_comm 1]
      · rw [if_neg hwrite] at ok
        cases ok

theorem SocketCanPublisher.publish_ok {publisher : SocketCanPublisher}
    {call : Publication Real} (ok : (publisher.publish call).ok)
    (fits : call.dets.length ≤ 255) :
    (publisher.publish call).frames = call.dets.mapIdx
      (detectionFrame publisher.baseId call.frameW call.frameH
        call.dets.length) := by
  unfold publish at ok ⊢
  split at ok
  · cases ok
  · rename_i hopen
    rw [if_neg hopen, publishFrom_ok ok, Nat.min_eq_left fits, List.take_length]
    simp only [Nat.zero_add]

theorem setTotals_append (first second : List CanFrame) :
    setTotals (first ++ second) = setTotals first ++ setTotals second :=
  List.filterMap_append

theorem setTotals_first (baseId : UInt32) (frameW frameH : Int) {total : Nat}
    (fits : total ≤ 255) (d : Detection Real) (frames : List CanFrame) :
    setTotals (detectionFrame baseId frameW frameH total 0 d :: frames) =
      total :: setTotals frames := by
  have htotal : (UInt8.ofNat total).toNat = total := by
    rw [UInt8.toNat_ofNat']
    omega
  have hindex : (detectionFrame baseId frameW frameH total 0 d).data.get 0 =
      0 := rfl
  have hsize : (detectionFrame baseId frameW frameH total 0 d).data.get 1 =
      UInt8.ofNat total := rfl
  simp only [setTotals, List.filterMap_cons, hindex, hsize, htotal, if_true]

/-- The other indices are not 0, for they fit a byte. -/
theorem setTotals_later (baseId : UInt32) (frameW frameH : Int) (total : Nat)
    {dets : List (Detection Real)} (fits : dets.length < 255) :
    setTotals (dets.mapIdx fun i =>
      detectionFrame baseId frameW frameH total (i + 1)) = [] := by
  apply List.filterMap_eq_nil_iff.mpr
  intro fr hframe
  obtain ⟨i, hi, rfl⟩ := List.mem_mapIdx.mp hframe
  apply if_neg
  intro hindex
  have hbyte : (i + 1) % 256 = 0 := congrArg UInt8.toNat hindex
  omega

theorem setTotals_publish {publisher : SocketCanPublisher}
    {call : Publication Real} (ok : (publisher.publish call).ok)
    (fits : call.dets.length ≤ 255) :
    setTotals (publisher.publish call).frames =
      [call.dets.length].filter (· ≠ 0) := by
  rw [SocketCanPublisher.publish_ok ok fits]
  cases hdets : call.dets with
  | nil => rfl
  | cons d dets =>
      rw [hdets, List.length_cons] at fits
      rw [List.mapIdx_cons, setTotals_first _ _ _ (by simpa using fits),
        setTotals_later _ _ _ _ (by omega)]
      rfl

/-- A call that succeeds, with detections whose number fits a byte. -/
def SocketCanPublisher.Sends (publisher : SocketCanPublisher)
    (call : Publication Real) : Prop :=
  (publisher.publish call).ok ∧ call.dets.length ≤ 255

instance (publisher : SocketCanPublisher) (call : Publication Real) :
    Decidable (publisher.Sends call) :=
  inferInstanceAs (Decidable (_ ∧ _))

/-- What a listener learns of a history. -/
theorem setTotals_stream {publisher : SocketCanPublisher}
    {calls : List (Publication Real)}
    (sends : ∀ call ∈ calls, publisher.Sends call) :
    setTotals (publisher.stream calls) =
      (calls.map (·.dets.length)).filter (· ≠ 0) := by
  induction calls with
  | nil => rfl
  | cons call calls induction =>
      obtain ⟨ok, fits⟩ := sends call List.mem_cons_self
      have hrest := induction fun later hlater =>
        sends later (List.mem_cons_of_mem _ hlater)
      calc
        setTotals (publisher.stream (call :: calls)) =
            setTotals (publisher.publish call).frames ++
              setTotals (publisher.stream calls) :=
          setTotals_append _ _
        _ = [call.dets.length].filter (· ≠ 0) ++
              (calls.map (·.dets.length)).filter (· ≠ 0) := by
          rw [setTotals_publish ok fits, hrest]
        _ = ((call :: calls).map (·.dets.length)).filter (· ≠ 0) :=
          (List.filter_append ..).symm

/-- A list is known from what a filter keeps and from where it drops, if all
that it drops is alike. -/
theorem eq_of_filter_eq {Item : Type} {keep : Item → Bool}
    (alike : ∀ left right, keep left = false → keep right = false →
      left = right)
    {first second : List Item}
    (hfilter : first.filter keep = second.filter keep)
    (hplaces : first.map keep = second.map keep) : first = second := by
  induction first generalizing second with
  | nil => exact (List.map_eq_nil_iff.mp hplaces.symm).symm
  | cons left first induction =>
      cases second with
      | nil => cases hplaces
      | cons right second =>
          rw [List.map_cons, List.map_cons, List.cons.injEq] at hplaces
          obtain ⟨hhead, htail⟩ := hplaces
          cases hleft : keep left with
          | false =>
              have hright : keep right = false := hhead.symm.trans hleft
              rw [List.filter_cons_of_neg (by simp [hleft]),
                List.filter_cons_of_neg (by simp [hright])] at hfilter
              rw [alike left right hleft hright, induction hfilter htail]
          | true =>
              have hright : keep right = true := hhead.symm.trans hleft
              rw [List.filter_cons_of_pos hleft,
                List.filter_cons_of_pos hright, List.cons.injEq] at hfilter
              rw [hfilter.1, induction hfilter.2 htail]

omit [Add Real] [Mul Real] [Div Real] [Zero Real] [One Real] [LT Real]
  [DecidableLT Real] [IntCast Real] [OfScientific Real]
  [FloatConversions Real] in
theorem isEmpty_eq_iff (calls others : List (Publication Real)) :
    calls.map (·.dets.isEmpty) = others.map (·.dets.isEmpty) ↔
      (calls.map (·.dets.length)).map (fun count => decide (count ≠ 0)) =
        (others.map (·.dets.length)).map fun count => decide (count ≠ 0) := by
  have hkeep (calls : List (Publication Real)) :
      (calls.map (·.dets.length)).map (fun count => decide (count ≠ 0)) =
        (calls.map (·.dets.isEmpty)).map not := by
    rw [List.map_map, List.map_map]
    apply List.map_congr_left
    intro call _
    cases hdets : call.dets with
    | nil => simp [hdets]
    | cons d dets => simp [hdets]
  rw [hkeep, hkeep]
  exact (List.map_injective_iff.mpr Bool.involutive_not.injective).eq_iff.symm

/-- The listener misses only calls without detections. -/
theorem listener_follows {publisher other : SocketCanPublisher}
    {calls others : List (Publication Real)}
    (sends : ∀ call ∈ calls, publisher.Sends call)
    (otherSends : ∀ call ∈ others, other.Sends call)
    (same : publisher.stream calls = other.stream others) :
    ((calls.map (·.dets.length)).filter (· ≠ 0) =
        (others.map (·.dets.length)).filter (· ≠ 0)) ∧
      ((calls.length = others.length ∧
          calls.map (·.dets.length) = others.map (·.dets.length)) ↔
        calls.map (·.dets.isEmpty) = others.map (·.dets.isEmpty)) := by
  have hcounts : (calls.map (·.dets.length)).filter (· ≠ 0) =
      (others.map (·.dets.length)).filter (· ≠ 0) := by
    rw [← setTotals_stream sends, ← setTotals_stream otherSends, same]
  rw [isEmpty_eq_iff]
  refine ⟨hcounts, ?_, ?_⟩
  · intro ⟨_, hequal⟩
    rw [hequal]
  · intro hplaces
    have hequal : calls.map (·.dets.length) = others.map (·.dets.length) := by
      refine eq_of_filter_eq ?_ hcounts hplaces
      intro left right hleft hright
      simp only [ne_eq, decide_eq_false_iff_not, not_not] at hleft hright
      rw [hleft, hright]
    refine ⟨?_, hequal⟩
    simpa only [List.length_map] using congrArg List.length hequal

end Code

section Samples

/-- A call that has nothing to report, and whose writes would succeed. -/
def quietCall : Publication ℚ where
  dets := []
  frameW := 640
  frameH := 480
  write _ := true

def soleCall : Publication ℚ :=
  { quietCall with dets := [⟨320, 240, 64, 48, 1 / 2, 7⟩] }

/-- A set without detections leaves no trace between two others. -/
theorem quiet_call_unseen :
    (∀ call ∈ [soleCall, quietCall, soleCall],
        SocketCanPublisher.Sends ⟨0x300, 3⟩ call) ∧
      SocketCanPublisher.stream ⟨0x300, 3⟩ [soleCall, quietCall, soleCall] =
        SocketCanPublisher.stream ⟨0x300, 3⟩ [soleCall, soleCall] ∧
      [soleCall, quietCall, soleCall].length ≠ [soleCall, soleCall].length := by
  decide +kernel

theorem listener_follows_sole :
    (([soleCall, quietCall].map (·.dets.length)).filter (· ≠ 0) =
        ([soleCall].map (·.dets.length)).filter (· ≠ 0)) ∧
      (([soleCall, quietCall].length = [soleCall].length ∧
          [soleCall, quietCall].map (·.dets.length) =
            [soleCall].map (·.dets.length)) ↔
        [soleCall, quietCall].map (·.dets.isEmpty) =
          [soleCall].map (·.dets.isEmpty)) :=
  have sends : ∀ call ∈ [soleCall, quietCall],
      SocketCanPublisher.Sends ⟨0x300, 3⟩ call := by
    decide +kernel
  have sole : ∀ call ∈ [soleCall],
      SocketCanPublisher.Sends ⟨0x300, 3⟩ call := by
    decide +kernel
  listener_follows sends sole (by decide +kernel)

end Samples

end EmbeddedPortfolio.Detector
