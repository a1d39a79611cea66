import EmbeddedPortfolio.Detector.CanPublisher
import EmbeddedPortfolio.Detector.OutputContract

namespace EmbeddedPortfolio.Detector

open EmbeddedPortfolio.Numeric EmbeddedPortfolio.Telemetry

/-! Reading a set of detections back off the bus. -/

/-- The fields of a frame, as the layout documents them. -/
structure ReceivedDetection where
  index : Nat
  total : Nat
  classId : Int
  confidence : ℚ
  centerX : ℚ
  centerY : ℚ
deriving DecidableEq, Repr

def dataByte (fr : CanFrame) (index : Nat) : UInt8 :=
  fr.data[index]?.getD 0

def readFrame (fr : CanFrame) : ReceivedDetection where
  index := (dataByte fr 0).toNat
  total := (dataByte fr 1).toNat
  classId := (dataByte fr 2).toNat
  confidence := (dataByte fr 3).toNat / 255
  centerX := (be16Get (dataByte fr 4) (dataByte fr 5)).toNat / 65535
  centerY := (be16Get (dataByte fr 6) (dataByte fr 7)).toNat / 65535

/-- `sent` is at most one step below `value`. -/
def WithinBelow (step value sent : ℚ) : Prop :=
  sent ≤ value ∧ value - sent < step

/-- A frame tells of detection `index` of the call. -/
structure Describes (call : Publication ℚ) (index : Nat) (d : Detection ℚ)
    (fr : CanFrame) : Prop where
  index : (readFrame fr).index = index
  total : (readFrame fr).total = min call.dets.length 255
  classId : (readFrame fr).classId = d.classId
  confidence : WithinBelow (1 / 255) (stdClamp d.score 0 1)
    (readFrame fr).confidence
  centerX : WithinBelow (1 / 65535)
    (stdClamp ((d.x + d.w / 2) / call.frameW) 0 1) (readFrame fr).centerX
  centerY : WithinBelow (1 / 65535)
    (stdClamp ((d.y + d.h / 2) / call.frameH) 0 1) (readFrame fr).centerY

/-! The loop: what is on the bus is a prefix, strict if a write failed. -/

section Loop

variable {Real : Type} {write : Nat → Bool}
variable {frame : Nat → Detection Real → CanFrame}

theorem publishFrom_prefix (write : Nat → Bool)
    (frame : Nat → Detection Real → CanFrame) (i : Nat)
    (dets : List (Detection Real)) :
    (publishFrom write frame i dets).frames <+:
      dets.mapIdx fun k d => frame (i + k) d := by
  induction dets generalizing i with
  | nil => exact List.prefix_rfl
  | cons d dets induction =>
      rw [publishFrom, List.mapIdx_cons]
      by_cases hwrite : write i
      · rw [if_pos hwrite, Nat.add_zero, List.cons_prefix_cons]
        refine ⟨rfl, ?_⟩
        simpa only [Nat.add_assoc, Nat.add_comm 1] using induction (i + 1)
      · rw [if_neg hwrite]
        exact List.nil_prefix

theorem publishFrom_ok_iff (i : Nat) (dets : List (Detection Real)) :
    (publishFrom write frame i dets).ok = true ↔
      ∀ k < dets.length, write (i + k) = true := by
  induction dets generalizing i with
  | nil => simp [publishFrom]
  | cons d dets induction =>
      rw [publishFrom]
      by_cases hwrite : write i
      · rw [if_pos hwrite]
        refine (induction (i + 1)).trans ?_
        constructor
        · intro hlater k hk
          cases k with
          | zero => exact hwrite
          | succ k =>
              have hnext := hlater k (Nat.lt_of_succ_lt_succ hk)
              rwa [Nat.add_assoc, Nat.add_comm 1] at hnext
        · intro hall k hk
          have hnext := hall (k + 1) (Nat.succ_lt_succ hk)
          rwa [Nat.add_assoc, Nat.add_comm 1]
      · rw [if_neg hwrite]
        constructor
        · intro hfalse
          cases hfalse
        · intro hall
          exact absurd (hall 0 (Nat.succ_pos _)) hwrite

theorem publishFrom_length_lt (i : Nat) (dets : List (Detection Real))
    (failed : (publishFrom write frame i dets).ok = false) :
    (publishFrom write frame i dets).frames.length < dets.length := by
  induction dets generalizing i with
  | nil => cases failed
  | cons d dets induction =>
      rw [publishFrom] at failed ⊢
      by_cases hwrite : write i
      · rw [if_pos hwrite] at failed ⊢
        exact Nat.succ_lt_succ (induction (i + 1) failed)
      · rw [if_neg hwrite]
        exact Nat.succ_pos _

end Loop

/-! One field: a clamped value, sent as a number of steps. -/

theorem scaledClamp_mem (value : ℚ) {steps : Int} (positive : 0 < steps) :
    0 ≤ scaledClamp value steps ∧ scaledClamp value steps ≤ steps := by
  obtain ⟨hlow, hhigh⟩ := stdClamp_mem value (zero_le_one' ℚ)
  have hsteps : (0 : ℚ) < steps := by exact_mod_cast positive
  have hscaled : 0 ≤ stdClamp value 0 1 * (steps : ℚ) :=
    mul_nonneg hlow hsteps.le
  exact ⟨truncate_nonneg hscaled,
    truncate_le hscaled (mul_le_of_le_one_left hsteps.le hhigh)⟩

theorem scaledClamp_within (value : ℚ) {steps : Int} (positive : 0 < steps) :
    WithinBelow (1 / steps) (stdClamp value 0 1)
      ((scaledClamp value steps : ℚ) / steps) := by
  have hsteps : (0 : ℚ) < steps := by exact_mod_cast positive
  have hscaled : 0 ≤ stdClamp value 0 1 * (steps : ℚ) :=
    mul_nonneg (stdClamp_mem value (zero_le_one' ℚ)).1 hsteps.le
  have hfloor : scaledClamp value steps =
      ⌊stdClamp value 0 1 * (steps : ℚ)⌋ := truncate_of_nonneg hscaled
  have hle := Int.floor_le (stdClamp value 0 1 * (steps : ℚ))
  have hlt := Int.lt_floor_add_one (stdClamp value 0 1 * (steps : ℚ))
  rw [← hfloor] at hle hlt
  constructor
  · exact (div_le_iff₀ hsteps).mpr hle
  · rw [sub_lt_iff_lt_add, ← add_div, lt_div_iff₀ hsteps]
    linarith

/-! One frame. -/

theorem byte_toNat {value : ℚ} :
    ((toUInt8 (scaledClamp value 255)).toNat : ℚ) = scaledClamp value 255 := by
  obtain ⟨hlow, hhigh⟩ := scaledClamp_mem value (by decide : (0 : Int) < 255)
  exact_mod_cast toUInt8_toNat hlow (by omega)

theorem halves_toNat {value : ℚ} :
    ((be16Get (be16Put (toUInt16 (scaledClamp value 65535))).1
      (be16Put (toUInt16 (scaledClamp value 65535))).2).toNat : ℚ) =
        scaledClamp value 65535 := by
  obtain ⟨hlow, hhigh⟩ := scaledClamp_mem value (by decide : (0 : Int) < 65535)
  rw [be16Get_be16Put]
  exact_mod_cast toUInt16_toNat hlow (by omega)

theorem classByte_toNat {classId : Int} (low : 0 ≤ classId)
    (high : classId ≤ 255) :
    ((toUInt8 (stdClamp classId 0 255)).toNat : Int) = classId := by
  have hclamp : stdClamp classId 0 255 = classId := by
    rw [stdClamp, if_neg (by omega), if_neg (by omega)]
  rw [hclamp]
  exact toUInt8_toNat low (by omega)

theorem detectionFrame_describes (baseId : UInt32) (call : Publication ℚ)
    {index : Nat} (small : index < 255) {d : Detection ℚ}
    (low : 0 ≤ d.classId) (high : d.classId ≤ 255) :
    Describes call index d
      (detectionFrame baseId call.frameW call.frameH
        (min call.dets.length 255) index d) := by
  have hhalf : (0.5 : ℚ) = 1 / 2 := by norm_num
  have hscore := scaledClamp_within d.score (by decide : (0 : Int) < 255)
  have hcenterX := scaledClamp_within ((d.x + d.w / 2) / call.frameW)
    (by decide : (0 : Int) < 65535)
  have hcenterY := scaledClamp_within ((d.y + d.h / 2) / call.frameH)
    (by decide : (0 : Int) < 65535)
  rw [← byte_toNat] at hscore
  rw [← halves_toNat] at hcenterX hcenterY
  have hwidth : d.w * 0.5 = d.w / 2 := by
    rw [hhalf, mul_one_div]
  have hheight : d.h * 0.5 = d.h / 2 := by
    rw [hhalf, mul_one_div]
  constructor
  · exact Nat.mod_eq_of_lt (by omega)
  · exact Nat.mod_eq_of_lt (by omega)
  · exact classByte_toNat low high
  · exact hscore
  · rw [← hwidth] at hcenterX ⊢
    exact hcenterX
  · rw [← hheight] at hcenterY ⊢
    exact hcenterY

/-- The same call with every write successful. -/
def Publication.undisturbed (call : Publication ℚ) : Publication ℚ :=
  { call with write := fun _ => true }

/-- What a listener can make of one call. -/
structure Reassembles (publisher : SocketCanPublisher) (call : Publication ℚ)
    (result : Published) : Prop where
  described : ∀ (index : Nat) (sent : index < result.frames.length),
    ∃ known : index < call.dets.length,
      Describes call index call.dets[index] result.frames[index]
  ok_iff_written : result.ok = true ↔
    ∀ index < min call.dets.length 255, call.write index = true
  ok_iff_all : result.ok = true ↔
    result.frames.length = min call.dets.length 255
  bounded : result.frames.length ≤ min call.dets.length 255
  isPrefix : result.frames <+: (publisher.publish call.undisturbed).frames

/-- The detections that the frames of a call announce. -/
def Publication.announced (call : Publication ℚ) : List (Detection ℚ) :=
  call.dets.take (min call.dets.length 255)

theorem Publication.announced_length (call : Publication ℚ) :
    call.announced.length = min call.dets.length 255 := by
  rw [announced, List.length_take]
  omega

def SocketCanPublisher.frameFor (publisher : SocketCanPublisher)
    (call : Publication ℚ) : Nat → Detection ℚ → CanFrame :=
  detectionFrame publisher.baseId call.frameW call.frameH
    (min call.dets.length 255)

section Opened

variable {publisher : SocketCanPublisher} {call : Publication ℚ}

theorem SocketCanPublisher.publish_open (opened : 0 ≤ publisher.fd)
    (width : 0 < call.frameW) (height : 0 < call.frameH) :
    publisher.publish call =
      publishFrom call.write (publisher.frameFor call) 0 call.announced := by
  unfold publish
  rw [if_neg (by omega)]
  rfl

theorem SocketCanPublisher.publish_undisturbed (opened : 0 ≤ publisher.fd)
    (width : 0 < call.frameW) (height : 0 < call.frameH) :
    (publisher.publish call.undisturbed).frames =
      call.announced.mapIdx fun k d => publisher.frameFor call (0 + k) d := by
  have hpublish : publisher.publish call.undisturbed =
      publishFrom (fun _ => true) (publisher.frameFor call) 0 call.announced :=
    publish_open opened width height
  rw [hpublish]
  apply publishFrom_ok
  exact (publishFrom_ok_iff 0 _).mpr fun _ _ => rfl

theorem publishFrom_describes
    (classes : ∀ d ∈ call.dets, 0 ≤ d.classId ∧ d.classId ≤ 255)
    {frames : List CanFrame}
    (isPrefix : frames <+:
      call.announced.mapIdx fun k d => publisher.frameFor call (0 + k) d)
    {index : Nat} (sent : index < frames.length) :
    ∃ known : index < call.dets.length,
      Describes call index call.dets[index] frames[index] := by
  have hbounded := isPrefix.length_le
  rw [List.length_mapIdx, call.announced_length] at hbounded
  have hknown : index < call.dets.length := by omega
  have hsent := isPrefix.getElem sent
  simp only [List.getElem_mapIdx, Nat.zero_add, Publication.announced,
    List.getElem_take] at hsent
  obtain ⟨hlow, hhigh⟩ := classes _ (List.getElem_mem hknown)
  refine ⟨hknown, ?_⟩
  rw [hsent]
  exact detectionFrame_describes publisher.baseId call (by omega) hlow hhigh

end Opened

theorem publish_reassembles (publisher : SocketCanPublisher)
    (call : Publication ℚ) (opened : 0 ≤ publisher.fd)
    (width : 0 < call.frameW) (height : 0 < call.frameH)
    (classes : ∀ d ∈ call.dets, 0 ≤ d.classId ∧ d.classId ≤ 255) :
    Reassembles publisher call (publisher.publish call) := by
  rw [SocketCanPublisher.publish_open opened width height]
  have hprefix := publishFrom_prefix call.write (publisher.frameFor call) 0
    call.announced
  have hbounded := hprefix.length_le
  rw [List.length_mapIdx, call.announced_length] at hbounded
  constructor
  · intro index sent
    exact publishFrom_describes classes hprefix sent
  · rw [publishFrom_ok_iff, call.announced_length]
    simp only [Nat.zero_add]
  · constructor
    · intro hok
      rw [publishFrom_ok hok, List.length_mapIdx, call.announced_length]
    · intro hall
      by_contra hfailed
      have hless := publishFrom_length_lt 0 _ (Bool.eq_false_iff.mpr hfailed)
      rw [call.announced_length] at hless
      omega
  · exact hbounded
  · rw [SocketCanPublisher.publish_undisturbed opened width height]
    exact hprefix

/-- Two detections, the second of which cannot be written. -/
def cutOffCall : Publication ℚ where
  dets := [⟨320, 240, 64, 48, 1 / 2, 7⟩, ⟨0, 0, 10, 10, 3 / 4, 2⟩]
  frameW := 640
  frameH := 480
  write index := index = 0

theorem publish_reassembles_cutOff :
    (0 : Int) ≤ 3 ∧ 0 < cutOffCall.frameW ∧ 0 < cutOffCall.frameH ∧
      (∀ d ∈ cutOffCall.dets, 0 ≤ d.classId ∧ d.classId ≤ 255) ∧
      Reassembles ⟨0x300, 3⟩ cutOffCall
        (SocketCanPublisher.publish ⟨0x300, 3⟩ cutOffCall) :=
  have classes : ∀ d ∈ cutOffCall.dets, 0 ≤ d.classId ∧ d.classId ≤ 255 := by
    decide
  ⟨by decide, by decide, by decide, classes,
    publish_reassembles ⟨0x300, 3⟩ cutOffCall (by decide) (by decide)
      (by decide) classes⟩

end EmbeddedPortfolio.Detector
