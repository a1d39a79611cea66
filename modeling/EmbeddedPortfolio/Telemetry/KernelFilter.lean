import EmbeddedPortfolio.Telemetry.Receiver

namespace EmbeddedPortfolio.Telemetry

/-! The receiver between the kernel's filters and its own dispatch.  The top
bits of a `can_id` are the EFF, RTR and ERR flags. -/

structure CanFilter where
  canId : UInt32
  canMask : UInt32
deriving DecidableEq, Repr

def canSffMask : UInt32 := 0x7FF

def filt : List CanFilter :=
  [⟨canIdEngineData, canSffMask⟩, ⟨canIdVehicleData, canSffMask⟩]

def CanFilter.Passes (filter : CanFilter) (canId : UInt32) : Prop :=
  canId &&& filter.canMask = filter.canId &&& filter.canMask

instance (filter : CanFilter) (canId : UInt32) :
    Decidable (filter.Passes canId) :=
  inferInstanceAs (Decidable (_ = _))

/-- `CAN_RAW_FILTER`: one filter that passes is enough. -/
def Delivered (filters : List CanFilter) (canId : UInt32) : Prop :=
  ∃ filter ∈ filters, filter.Passes canId

instance (filters : List CanFilter) (canId : UInt32) :
    Decidable (Delivered filters canId) :=
  inferInstanceAs (Decidable (∃ filter ∈ filters, filter.Passes canId))

def Decoded (frame : CanFrame) : Prop :=
  receive frame ≠ .ignored

instance (frame : CanFrame) : Decidable (Decoded frame) :=
  inferInstanceAs (Decidable (receive frame ≠ .ignored))

/-! The receive loop.  A frame on the bus that no filter passes is never read. -/

inductive Arrival where
  | frame (received : CanFrame)
  | short
  | failed

structure Session where
  lastSpeed : ℚ
  rx : Nat
  alerts : Nat
deriving DecidableEq, Repr

def Session.initial : Session where
  lastSpeed := 0
  rx := 0
  alerts := 0

def Session.handle (session : Session) (frame : CanFrame) : Session where
  lastSpeed :=
    match receive frame with
    | .vehicle values => values.speed
    | _ => session.lastSpeed
  rx := session.rx + 1
  alerts := session.alerts + (receive frame).alerts.length

def Session.run (session : Session) : List Arrival → Session
  | [] => session
  | .failed :: _ => session
  | .short :: rest => session.run rest
  | .frame received :: rest =>
      if Delivered filt received.canId then
        (session.handle received).run rest
      else session.run rest

/-- The frames on the bus while the loop runs. -/
def onBus : List Arrival → List CanFrame
  | [] => []
  | .failed :: _ => []
  | .short :: rest => onBus rest
  | .frame received :: rest => received :: onBus rest

theorem run_rx (session : Session) (arrivals : List Arrival) :
    (session.run arrivals).rx = session.rx +
      (onBus arrivals).countP fun frame => Delivered filt frame.canId := by
  induction arrivals generalizing session with
  | nil => rfl
  | cons arrival rest induction =>
      cases arrival with
      | failed => rfl
      | short => exact induction session
      | frame received =>
          by_cases hpass : Delivered filt received.canId
          · have hcounted : (session.handle received).rx = session.rx + 1 := rfl
            rw [Session.run, if_pos hpass, induction, onBus, hcounted,
              List.countP_cons_of_pos (by simpa using hpass)]
            omega
          · rw [Session.run, if_neg hpass, induction, onBus,
              List.countP_cons_of_neg (by simpa using hpass)]

/-! The filters look at eleven bits, the dispatch at all of them. -/

theorem delivered_iff (canId : UInt32) :
    Delivered filt canId ↔ canId &&& canSffMask = canIdEngineData ∨
      canId &&& canSffMask = canIdVehicleData := by
  have hengine : canIdEngineData &&& canSffMask = canIdEngineData := by decide
  have hvehicle : canIdVehicleData &&& canSffMask = canIdVehicleData := by
    decide
  simp [Delivered, filt, CanFilter.Passes, hengine, hvehicle]

theorem decoded_iff {frame : CanFrame} (long : 5 ≤ frame.canDlc) :
    Decoded frame ↔
      frame.canId = canIdEngineData ∨ frame.canId = canIdVehicleData := by
  by_cases hengine : frame.canId = canIdEngineData
  · simp [Decoded, receive, hengine, long]
  · by_cases hvehicle : frame.canId = canIdVehicleData
    · have hother : canIdVehicleData ≠ canIdEngineData := by decide
      simp [Decoded, receive, hvehicle, hother, long]
    · simp [Decoded, receive, hengine, hvehicle]

theorem delivered_of_decoded {frame : CanFrame} (long : 5 ≤ frame.canDlc)
    (decoded : Decoded frame) : Delivered filt frame.canId := by
  rcases (decoded_iff long).mp decoded with hengine | hvehicle
  · rw [hengine]
    decide
  · rw [hvehicle]
    decide

/-- An identifier that differs from the two messages in its low eleven bits,
or has no bit set above them. -/
def Unambiguous (canId : UInt32) : Prop :=
  canId &&& canSffMask = canId ∨
    (canId &&& canSffMask ≠ canIdEngineData ∧
      canId &&& canSffMask ≠ canIdVehicleData)

theorem delivered_iff_decoded_iff {frame : CanFrame}
    (long : 5 ≤ frame.canDlc) :
    (Delivered filt frame.canId ↔ Decoded frame) ↔
      Unambiguous frame.canId := by
  constructor
  · intro hsame
    by_cases hpass : Delivered filt frame.canId
    · left
      rcases (decoded_iff long).mp (hsame.mp hpass) with hengine | hvehicle
      · rw [hengine]
        decide
      · rw [hvehicle]
        decide
    · right
      rw [delivered_iff] at hpass
      exact not_or.mp hpass
  · intro hunambiguous
    refine ⟨?_, delivered_of_decoded long⟩
    intro hpass
    rw [decoded_iff long]
    rw [delivered_iff] at hpass
    rcases hunambiguous with hplain | ⟨hengine, hvehicle⟩
    · rwa [hplain] at hpass
    · exact absurd hpass (not_or.mpr ⟨hengine, hvehicle⟩)

theorem countP_delivered_eq_iff {frames : List CanFrame}
    (long : ∀ frame ∈ frames, 5 ≤ frame.canDlc) :
    frames.countP (fun frame => Delivered filt frame.canId) =
        frames.countP (fun frame => Decoded frame) ↔
      ∀ frame ∈ frames, Unambiguous frame.canId := by
  induction frames with
  | nil => simp
  | cons frame rest induction =>
      obtain ⟨hframe, hrest⟩ := List.forall_mem_cons.mp long
      have hle : rest.countP (fun frame => Decoded frame) ≤
          rest.countP (fun frame => Delivered filt frame.canId) := by
        apply List.countP_mono_left
        intro other hother hdecoded
        have hpass := delivered_of_decoded (hrest other hother)
          (of_decide_eq_true hdecoded)
        exact decide_eq_true hpass
      rw [List.forall_mem_cons, ← induction hrest,
        ← delivered_iff_decoded_iff hframe, List.countP_cons, List.countP_cons]
      by_cases hpass : Delivered filt frame.canId
      · by_cases hdecoded : Decoded frame
        · simp [hpass, hdecoded]
        · simp only [hpass, hdecoded, decide_true, decide_false, if_true,
            Bool.false_eq_true, if_false, iff_false, not_true, false_and]
          omega
      · have hignored : ¬ Decoded frame := fun hdecoded =>
          hpass (delivered_of_decoded hframe hdecoded)
        simp [hpass, hignored]

theorem filter_agrees_with_dispatch_iff {frame : CanFrame}
    {arrivals : List Arrival} (long : 5 ≤ frame.canDlc)
    (allLong : ∀ other ∈ onBus arrivals, 5 ≤ other.canDlc) :
    ((Delivered filt frame.canId ↔ Decoded frame) ↔
      Unambiguous frame.canId) ∧
    ((Session.initial.run arrivals).rx =
        (onBus arrivals).countP (fun other => Decoded other) ↔
      ∀ other ∈ onBus arrivals, Unambiguous other.canId) := by
  refine ⟨delivered_iff_decoded_iff long, ?_⟩
  rw [run_rx, ← countP_delivered_eq_iff allLong]
  simp [Session.initial]

def bareFrame (canId : UInt32) : CanFrame where
  canId := canId
  canDlc := 5
  data := Vector.replicate 8 0

theorem filter_agrees_with_dispatch_engine :
    (5 : UInt8) ≤ (bareFrame 0x0C0).canDlc ∧
      ((Delivered filt 0x0C0 ↔ Decoded (bareFrame 0x0C0)) ↔
        Unambiguous 0x0C0) ∧
      ((Session.initial.run [.frame (bareFrame 0x0C0)]).rx =
          (onBus [.frame (bareFrame 0x0C0)]).countP
            (fun frame => Decoded frame) ↔
        ∀ frame ∈ onBus [.frame (bareFrame 0x0C0)],
          Unambiguous frame.canId) :=
  ⟨by decide,
    @filter_agrees_with_dispatch_iff (bareFrame 0x0C0)
      [.frame (bareFrame 0x0C0)] (by decide) (by simp [onBus, bareFrame])⟩

-- An extended frame whose low bits spell ENGINE_DATA.
theorem extended_frame_delivered_not_decoded :
    Delivered filt (bareFrame 0x800000C0).canId ∧
      ¬ Decoded (bareFrame 0x800000C0) ∧
      (Session.initial.run [.frame (bareFrame 0x800000C0)]).rx = 1 ∧
      (onBus [.frame (bareFrame 0x800000C0)]).countP
        (fun frame => Decoded frame) = 0 := by
  decide +kernel

end EmbeddedPortfolio.Telemetry
