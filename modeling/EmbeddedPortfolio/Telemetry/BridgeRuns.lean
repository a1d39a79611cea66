import Mathlib.Data.List.NodupEquivFin
import EmbeddedPortfolio.Telemetry.Bridge
import EmbeddedPortfolio.Telemetry.Odometer
import EmbeddedPortfolio.Telemetry.RoundTrip

namespace EmbeddedPortfolio.Telemetry

open EmbeddedPortfolio.Numeric EmbeddedPortfolio.Transition

universe u

/-! What `can_rx` shows, against what `can_tx` has simulated. -/

section Sent

variable {K : Type u} [Field K] [LinearOrder K] [FloorRing K]

def Broadcast.frames (broadcast : Broadcast) : List CanFrame :=
  [broadcast.engine, broadcast.vehicle]

abbrev phases (events : List (BridgeEvent K)) : List (Phase K) :=
  yielded BridgeEvent.phase events

def speeds (redline : Bool) (phases : List (Phase K)) : List K :=
  phases.map fun phase => (signals redline phase).speed

/-- The frames of the ticks that have begun. -/
def begun (hz : K) (redline : Bool) (phases : List (Phase K)) :
    List CanFrame :=
  (canTx hz redline 0 phases).flatMap Broadcast.frames

theorem canTx_append (hz : K) (redline : Bool) (odoM : UInt32)
    (phases : List (Phase K)) (phase : Phase K) :
    canTx hz redline odoM (phases ++ [phase]) =
      canTx hz redline odoM phases ++
        [tick hz redline (odometerAfter hz odoM (speeds redline phases))
          phase] := by
  induction phases generalizing odoM with
  | nil => rfl
  | cons first phases induction =>
      rw [List.cons_append, canTx, induction, canTx, List.cons_append]
      rfl

theorem odometerAfter_append (hz : K) (odoM : UInt32) (speeds : List K)
    (speed : K) :
    odometerAfter hz odoM (speeds ++ [speed]) =
      odometerAfter hz odoM speeds + odometerTick hz speed := by
  induction speeds generalizing odoM with
  | nil => rfl
  | cons first speeds induction =>
      rw [List.cons_append, odometerAfter, induction, odometerAfter]

/-- `sent` is what `can_tx` has written. -/
structure Sending (hz : K) (redline : Bool) (phases : List (Phase K))
    (sent : List CanFrame) (bridge : Bridge) : Prop where
  odometer : bridge.odoM = odometerAfter hz 0 (speeds redline phases)
  looping : bridge.tx = .looping → sent = begun hz redline phases
  halfway : ∀ vehicle, bridge.tx = .halfway vehicle →
    sent ++ [vehicle] = begun hz redline phases
  started : sent <+: begun hz redline phases

theorem Sending.engine {hz : K} {redline : Bool} {phases : List (Phase K)}
    {sent : List CanFrame} {bridge next : Bridge}
    (sending : Sending hz redline phases sent bridge)
    (hlooping : bridge.tx = .looping) {phase : Phase K}
    (hodo : next.odoM = (tick hz redline bridge.odoM phase).odoM)
    (htx : next.tx = .halfway (tick hz redline bridge.odoM phase).vehicle) :
    Sending hz redline (phases ++ [phase])
      (sent ++ [(tick hz redline bridge.odoM phase).engine]) next := by
  have hbegun : begun hz redline (phases ++ [phase]) =
      sent ++ (tick hz redline bridge.odoM phase).frames := by
    rw [begun, canTx_append, List.flatMap_append, ← begun,
      ← sending.looping hlooping, ← sending.odometer]
    simp
  refine ⟨?_, ?_, ?_, ?_⟩
  · rw [hodo, speeds, List.map_append, ← speeds, List.map_singleton,
      odometerAfter_append, ← sending.odometer]
    rfl
  · intro hother
    rw [htx] at hother
    cases hother
  · intro vehicle hvehicle
    rw [htx] at hvehicle
    cases hvehicle
    rw [hbegun, List.append_assoc]
    rfl
  · rw [hbegun]
    exact List.prefix_append_right_inj _ |>.mpr ⟨[_], rfl⟩

theorem run_sending {hz : K} {redline : Bool} {now : Timespec}
    {events : List (BridgeEvent K)} {bridge : Bridge}
    (run : (bridgeSystem hz redline now).Run events bridge) :
    Sending hz redline (phases events) (yielded BridgeEvent.sent events)
      bridge := by
  apply run.invariant (motive := fun events bridge =>
    Sending hz redline (phases events) (yielded BridgeEvent.sent events)
      bridge)
  · rintro bridge ⟨period, _, rfl⟩
    exact ⟨rfl, fun _ => rfl, nofun, List.prefix_refl _⟩
  · intro events bridge event next sending step
    simp only [phases, yielded_append, yielded_singleton]
    cases step with
    | engine hlooping => exact sending.engine hlooping rfl rfl
    | @vehicle frame _ _ hhalfway _ =>
        have hbegun := sending.halfway frame hhalfway
        simp only [BridgeEvent.phase, BridgeEvent.sent, Option.toList_none,
          Option.toList_some, List.append_nil]
        rw [hbegun]
        exact ⟨sending.odometer, fun _ => rfl, nofun, List.prefix_refl _⟩
    | writeFailed _ | txSignal _ =>
        simp only [BridgeEvent.phase, BridgeEvent.sent, Option.toList_none,
          List.append_nil]
        exact ⟨sending.odometer, nofun, nofun, sending.started⟩
    | _ =>
        simp only [BridgeEvent.phase, BridgeEvent.sent, Option.toList_none,
          List.append_nil]
        exact ⟨sending.odometer, sending.looping, sending.halfway,
          sending.started⟩

end Sent

/-! What `can_rx` decodes comes from `can_tx`, in order. -/

section Received

variable {K : Type u} [Field K] [LinearOrder K] [FloorRing K]

/-- The other nodes keep off the two messages of the bridge. -/
def Quiet (events : List (BridgeEvent K)) : Prop :=
  ∀ frame room, .foreign frame room ∈ events → ¬ Decoded frame

abbrev received (events : List (BridgeEvent K)) : List CanFrame :=
  yielded BridgeEvent.received events

def decoded (frames : List CanFrame) : List CanFrame :=
  frames.filter fun frame => Decoded frame

theorem decoded_cons (frame : CanFrame) {frames sent : List CanFrame}
    (sublist : (decoded frames).Sublist sent) :
    (decoded (frame :: frames)).Sublist (frame :: sent) := by
  rw [decoded, List.filter_cons]
  split
  · exact sublist.cons_cons frame
  · exact sublist.cons frame

omit [FloorRing K] in
theorem onBus_decoded {events : List (BridgeEvent K)} (quiet : Quiet events) :
    (decoded (yielded BridgeEvent.onBus events)).Sublist
      (yielded BridgeEvent.sent events) := by
  induction events with
  | nil => exact List.Sublist.refl _
  | cons event rest induction =>
      have hrest := induction fun frame room member =>
        quiet frame room (List.mem_cons_of_mem _ member)
      cases event with
      | foreign frame room =>
          have hignored := quiet frame room List.mem_cons_self
          have hbus : yielded BridgeEvent.onBus
              (.foreign frame room :: rest) =
                frame :: yielded BridgeEvent.onBus rest := rfl
          rw [hbus, decoded, List.filter_cons_of_neg (by simpa using hignored)]
          exact hrest
      | engine phase sent room => exact decoded_cons sent.engine hrest
      | vehicle frame room => exact decoded_cons frame hrest
      | _ => exact hrest

theorem accepted_eq_some {frame taken : CanFrame} {room : Bool}
    (h : accepted frame room = some taken) : taken = frame := by
  unfold accepted at h
  split at h
  · exact (Option.some.inj h).symm
  · cases h

omit [FloorRing K] in
theorem takesIn_onBus (event : BridgeEvent K) (taken : CanFrame)
    (h : event.takesIn = some taken) : event.onBus = some taken := by
  cases event with
  | engine _ sent room => rw [accepted_eq_some h]; rfl
  | vehicle frame room => rw [accepted_eq_some h]; rfl
  | foreign frame room => rw [accepted_eq_some h]; rfl
  | _ => cases h

/-- A frame that is read was put on the bus, in that order; those that are
decoded were put there by `can_tx`. -/
theorem decoded_received {hz : K} {redline : Bool} {now : Timespec}
    {events : List (BridgeEvent K)} {bridge : Bridge}
    (run : (bridgeSystem hz redline now).Run events bridge)
    (quiet : Quiet events) :
    (decoded (received events)).Sublist
      (begun hz redline (phases events)) := by
  have hhistory : yielded BridgeEvent.takesIn events =
      received events ++ bridge.socket :=
    (socketFifo hz redline now).history run
  have htaken : (received events).Sublist
      (yielded BridgeEvent.onBus events) := by
    refine List.Sublist.trans ?_ (yielded_sublist takesIn_onBus events)
    rw [hhistory]
    exact List.sublist_append_left ..
  have hdecoded := (htaken.filter fun frame => Decoded frame).trans
    (onBus_decoded quiet)
  exact hdecoded.trans (run_sending run).started.sublist

end Received

/-! The frames of the ticks. -/

section Ticks

variable {K : Type u} [Field K] [LinearOrder K] [FloorRing K]

theorem mem_canTx {hz : K} {redline : Bool} {odoM : UInt32}
    {phases : List (Phase K)} {broadcast : Broadcast}
    (member : broadcast ∈ canTx hz redline odoM phases) :
    ∃ phase ∈ phases, ∃ before, broadcast = tick hz redline before phase := by
  induction phases generalizing odoM with
  | nil => cases member
  | cons phase phases induction =>
      rcases List.mem_cons.mp member with rfl | later
      · exact ⟨phase, List.mem_cons_self, odoM, rfl⟩
      · obtain ⟨other, hother, before, hbroadcast⟩ := induction later
        exact ⟨other, List.mem_cons_of_mem _ hother, before, hbroadcast⟩

theorem mem_begun {hz : K} {redline : Bool} {phases : List (Phase K)}
    {frame : CanFrame} (member : frame ∈ begun hz redline phases) :
    ∃ phase ∈ phases, ∃ before,
      frame = (tick hz redline before phase).engine ∨
        frame = (tick hz redline before phase).vehicle := by
  obtain ⟨broadcast, hbroadcast, hframe⟩ := List.mem_flatMap.mp member
  obtain ⟨phase, hphase, before, rfl⟩ := mem_canTx hbroadcast
  refine ⟨phase, hphase, before, ?_⟩
  simpa [Broadcast.frames] using hframe

variable [IsStrictOrderedRing K]

theorem coolant_alert_absent (phase : Phase K) :
    ¬ alertEctMaxC <
      (decodeEngine (engineFrame (signals false phase)).data).ectC := by
  have hcode := ect_code false phase
  have hrange := (driveCycle_ect_mem phase).2
  have hupper : lround (signals false phase).ect ≤ (98 : Int) :=
    lround_le (by exact_mod_cast hrange)
  rw [decodeEngine_ectC (by omega) (by omega), not_lt]
  have hcast : (lround (signals false phase).ect : ℚ) ≤ 98 := by
    exact_mod_cast hupper
  exact hcast.trans (by norm_num [alertEctMaxC])

theorem engine_alerts (hz : K) (redline : Bool) (odoM : UInt32)
    (phase : Phase K) :
    (receive (tick hz redline odoM phase).engine).alerts =
      if redline then [.coolant] else [] := by
  simp only [tick, receive_engineFrame, Reception.alerts]
  rw [if_neg (rpm_alert_absent redline phase), List.nil_append]
  cases redline with
  | true => exact if_pos (coolant_alert_present phase)
  | false => exact if_neg (coolant_alert_absent phase)

theorem vehicle_alerts (hz : K) (redline : Bool) (odoM : UInt32)
    (phase : Phase K) :
    (receive (tick hz redline odoM phase).vehicle).alerts = [] := by
  have hcode := speed_code redline phase
  have hspeed : (lround ((signals redline phase).speed /
      (speedScale : K)) : ℚ) ≤ 5400 := by
    exact_mod_cast hcode.2
  simp only [tick, receive_vehicleFrame, Reception.alerts]
  rw [decodeVehicle_speed _ hcode.1 (by omega), if_neg]
  rw [not_lt]
  have hscaled := mul_le_mul_of_nonneg_right hspeed
    (by norm_num [speedScale] : (0 : ℚ) ≤ speedScale)
  exact hscaled.trans (by norm_num [speedScale, alertSpeedMaxKmh])

end Ticks

/-! A tick whose two frames are read, with a frame of another node between
them. -/

def firstTick : Broadcast := tick (10 : ℚ) true 0 firstPhase

def firstTickEvents : List (BridgeEvent ℚ) :=
  [.engine firstPhase firstTick true, .foreign (bareFrame 0x123) true,
    .vehicle firstTick.vehicle true, .read firstTick.engine,
    .read firstTick.vehicle]

theorem firstTick_run :
    ∃ bridge, (bridgeSystem (10 : ℚ) true ⟨5, 950000000⟩).Run firstTickEvents
      bridge := by
  have hperiod : periodNs (10 : ℚ) = some 100000000 := by
    decide +kernel
  have hsum : toLong (950000000 + 100000000) = some 1050000000 := by decide
  have hsecond : toLong (5 + 1) = some 6 := by decide
  have hadvance : (⟨5, 950000000⟩ : Timespec).advance 100000000 =
      some ⟨6, 50000000⟩ := by
    rw [Timespec.advance, hsum, Option.bind_eq_bind, Option.bind_some,
      Timespec.carry, if_pos (by decide), hsecond, Option.bind_eq_bind,
      Option.bind_some, Timespec.carry, if_neg (by decide)]
    rfl
  have launched : (bridgeSystem (10 : ℚ) true ⟨5, 950000000⟩).Run []
      (Bridge.launched 100000000 ⟨5, 950000000⟩) :=
    .start ⟨_, hperiod, rfl⟩
  have hengine : accepted firstTick.engine true = some firstTick.engine :=
    if_pos ⟨(by decide : Delivered filt canIdEngineData), rfl⟩
  have hother : accepted (bareFrame 0x123) true = none :=
    if_neg fun h => (by decide : ¬ Delivered filt 0x123) h.1
  have hvehicle : accepted firstTick.vehicle true = some firstTick.vehicle :=
    if_pos ⟨(by decide : Delivered filt canIdVehicleData), rfl⟩
  have sent := ((launched.extend (@BridgeStep.engine _ _ _ _ _ _ _ firstPhase
    true rfl)).extend (@BridgeStep.foreign _ _ _ _ _ _ _ (bareFrame 0x123)
    true)).extend (@BridgeStep.vehicle _ _ _ _ _ _ _ _ true _ rfl hadvance)
  have hsocket : [] ++ (accepted firstTick.engine true).toList ++
      (accepted (bareFrame 0x123) true).toList ++
        (accepted firstTick.vehicle true).toList =
      firstTick.engine :: [firstTick.vehicle] := by
    rw [hengine, hother, hvehicle]
    rfl
  have read := (sent.extend (.read rfl hsocket)).extend (.read rfl rfl)
  exact ⟨_, read⟩

theorem firstTick_quiet : Quiet firstTickEvents := by
  intro frame room member
  have hframe : frame = bareFrame 0x123 ∧ room = true := by
    simpa [firstTickEvents] using member
  rw [hframe.1]
  decide +kernel

/-! The alerts of a whole run. -/

def Reception.isEngine : Reception → Bool
  | .engine _ => true
  | _ => false

section Alerts

variable {K : Type u} [Field K] [LinearOrder K] [FloorRing K]
variable [IsStrictOrderedRing K]

theorem begun_alerts {hz : K} {redline : Bool} {phases : List (Phase K)}
    {frame : CanFrame} (member : frame ∈ begun hz redline phases) :
    (receive frame).alerts.length =
      if redline && (receive frame).isEngine then 1 else 0 := by
  obtain ⟨phase, _, before, rfl | rfl⟩ := mem_begun member
  · have hengine : (receive (tick hz redline before phase).engine).isEngine =
        true := by
      rw [tick, receive_engineFrame]
      rfl
    rw [engine_alerts, hengine, Bool.and_true]
    cases redline with
    | true => rfl
    | false => rfl
  · have hvehicle : (receive (tick hz redline before phase).vehicle).isEngine =
        false := by
      rw [tick, receive_vehicleFrame]
      rfl
    rw [vehicle_alerts, hvehicle, Bool.and_false]
    rfl

theorem ignored_alerts {frame : CanFrame} (ignored : ¬ Decoded frame)
    (redline : Bool) :
    (receive frame).alerts.length =
      if redline && (receive frame).isEngine then 1 else 0 := by
  rw [not_not.mp ignored]
  cases redline with
  | true => rfl
  | false => rfl

theorem sum_alerts {redline : Bool} {frames : List CanFrame}
    (alerts : ∀ frame ∈ frames, (receive frame).alerts.length =
      if redline && (receive frame).isEngine then 1 else 0) :
    (frames.map fun frame => (receive frame).alerts.length).sum =
      if redline then frames.countP fun frame => (receive frame).isEngine
      else 0 := by
  induction frames with
  | nil => simp
  | cons frame frames induction =>
      obtain ⟨hframe, hframes⟩ := List.forall_mem_cons.mp alerts
      rw [List.map_cons, List.sum_cons, hframe, induction hframes,
        List.countP_cons]
      cases redline with
      | true =>
          simp only [Bool.true_and, if_true]
          omega
      | false => simp

/-- `can_rx` raises one alert for each `ENGINE_DATA` frame that it reads while
`can_tx` runs with `--redline`, and none without it. -/
theorem bridge_alerts {hz : K} {redline : Bool} {now : Timespec}
    {events : List (BridgeEvent K)} {bridge : Bridge}
    (run : (bridgeSystem hz redline now).Run events bridge)
    (quiet : Quiet events) :
    bridge.session.rx = (received events).length ∧
      bridge.session.alerts =
        if redline then
          (received events).countP fun frame => (receive frame).isEngine
        else 0 := by
  rw [run_session run, Session.after_rx, Session.after_alerts]
  refine ⟨rfl, sum_alerts ?_⟩
  intro frame hframe
  by_cases hdecoded : Decoded frame
  · have hmember : frame ∈ decoded (received events) :=
      List.mem_filter.mpr ⟨hframe, by simpa using hdecoded⟩
    exact begun_alerts ((decoded_received run quiet).subset hmember)
  · exact ignored_alerts hdecoded redline

theorem bridge_alerts_firstTick :
    ∃ bridge : Bridge, bridge.session.rx = (received firstTickEvents).length ∧
      bridge.session.alerts =
        if true then
          (received firstTickEvents).countP fun frame =>
            (receive frame).isEngine
        else 0 := by
  obtain ⟨bridge, run⟩ := firstTick_run
  exact ⟨bridge, bridge_alerts run firstTick_quiet⟩

/-- What `can_rx` decodes from the frame at `position` of those that `can_tx`
has built: two for each tick, with the odometer of that tick. -/
structure ShowsTick (hz : K) (redline : Bool) (phases : List (Phase K))
    (position : Nat) (frame : CanFrame) : Prop where
  tick : ∃ phase engine vehicle, phases[position / 2]? = some phase ∧
    receive frame =
      (if position % 2 = 0 then .engine engine else .vehicle vehicle) ∧
    SurvivesWire (signals redline phase)
      (odometerAfter hz 0 (speeds redline (phases.take (position / 2 + 1))))
      engine vehicle

omit [IsStrictOrderedRing K] in
theorem canTx_getElem? (hz : K) (redline : Bool) (odoM : UInt32)
    (phases : List (Phase K)) (index : Nat) :
    (canTx hz redline odoM phases)[index]? =
      phases[index]?.map fun phase => tick hz redline
        (odometerAfter hz odoM (speeds redline (phases.take index))) phase := by
  induction phases generalizing odoM index with
  | nil => rfl
  | cons first phases induction =>
      cases index with
      | zero => rfl
      | succ index => exact induction _ index

theorem flatMap_frames_getElem? (broadcasts : List Broadcast)
    (position : Nat) :
    (broadcasts.flatMap Broadcast.frames)[position]? =
      broadcasts[position / 2]?.map fun broadcast =>
        if position % 2 = 0 then broadcast.engine else broadcast.vehicle := by
  induction broadcasts generalizing position with
  | nil => rfl
  | cons first broadcasts induction =>
      match position with
      | 0 => rfl
      | 1 => rfl
      | position + 2 =>
          have hdiv : (position + 2) / 2 = position / 2 + 1 := by omega
          have hmod : (position + 2) % 2 = position % 2 := by omega
          rw [hdiv, hmod]
          exact induction position

theorem begun_shows {hz : K} {redline : Bool} {phases : List (Phase K)}
    {position : Nat} {frame : CanFrame}
    (built : (begun hz redline phases)[position]? = some frame) :
    ShowsTick hz redline phases position frame := by
  rw [begun, flatMap_frames_getElem?, canTx_getElem?, Option.map_map,
    Option.map_eq_some_iff] at built
  obtain ⟨phase, hphase, rfl⟩ := built
  have htaken : phases.take (position / 2 + 1) =
      phases.take (position / 2) ++ [phase] := by
    rw [List.take_add_one, hphase]
    rfl
  refine ⟨phase, _, _, hphase, ?_, survivesWire_signals redline phase _⟩
  have hodometer : odometerAfter hz 0
      (speeds redline (phases.take (position / 2 + 1))) =
        (tick hz redline (odometerAfter hz 0
          (speeds redline (phases.take (position / 2)))) phase).odoM := by
    rw [htaken, speeds, List.map_append, ← speeds, List.map_singleton,
      odometerAfter_append]
    rfl
  rw [hodometer]
  dsimp only [Function.comp_apply]
  split
  · exact receive_engineFrame _
  · exact receive_vehicleFrame _ _

end Alerts

/-! The odometer on the display. -/

def Reception.metres : Reception → Option Nat
  | .vehicle values => some values.odo.toNat
  | _ => none

def displayed (frames : List CanFrame) : List Nat :=
  frames.filterMap fun frame => (receive frame).metres

theorem displayed_decoded (frames : List CanFrame) :
    displayed (decoded frames) = displayed frames := by
  unfold displayed decoded
  rw [List.filterMap_filter]
  congr 1
  funext frame
  by_cases hdecoded : Decoded frame
  · rw [if_pos (by simpa using hdecoded)]
  · rw [if_neg (by simpa using hdecoded), not_not.mp hdecoded]
    rfl

section Odometer

variable {K : Type u} [Field K] [LinearOrder K] [FloorRing K]

theorem displayed_frames (hz : K) (redline : Bool) (odoM : UInt32)
    (phases : List (Phase K)) :
    displayed ((canTx hz redline odoM phases).flatMap Broadcast.frames) =
      (canTx hz redline odoM phases).map fun broadcast =>
        broadcast.odoM.toNat % 2 ^ 24 := by
  induction phases generalizing odoM with
  | nil => rfl
  | cons phase phases induction =>
      have hfirst : displayed (tick hz redline odoM phase).frames =
          [(tick hz redline odoM phase).odoM.toNat % 2 ^ 24] := by
        simp only [displayed, Broadcast.frames, tick, List.filterMap_cons,
          receive_engineFrame, receive_vehicleFrame, Reception.metres,
          decodeVehicle_odo, List.filterMap_nil]
      rw [canTx, List.flatMap_cons, List.map_cons, ← induction, displayed,
        List.filterMap_append, ← displayed, hfirst]
      rfl

variable [IsStrictOrderedRing K]

theorem rate_rate (hz : K) : rate (rate hz) = rate hz :=
  if_pos (rate_pos hz)

theorem canTx_rate (hz : K) (redline : Bool) (odoM : UInt32)
    (phases : List (Phase K)) :
    canTx hz redline odoM phases = canTx (rate hz) redline odoM phases := by
  induction phases generalizing odoM with
  | nil => rfl
  | cons phase phases induction =>
      have htick : tick (rate hz) redline odoM phase =
          tick hz redline odoM phase := by
        simp only [tick, odometerTick, rate_rate]
      rw [canTx, canTx, htick, induction]

omit [FloorRing K] in
theorem speeds_nonneg (redline : Bool) (phases : List (Phase K)) :
    ∀ speed ∈ speeds redline phases, 0 ≤ speed := by
  intro speed member
  obtain ⟨phase, _, rfl⟩ := List.mem_map.mp member
  exact (signals_speed_mem redline phase).1

/-- The odometer counts up and never past the distance travelled. -/
theorem canTx_climbs {hz : K} (positive : 0 < hz) (redline : Bool)
    {odoM : UInt32} {phases : List (Phase K)}
    (fits : (odoM.toNat : K) + travelled hz (speeds redline phases) <
      2 ^ 32) :
    ((canTx hz redline odoM phases).map
        fun broadcast => broadcast.odoM.toNat).Pairwise (· ≤ ·) ∧
      ∀ broadcast ∈ canTx hz redline odoM phases,
        odoM.toNat ≤ broadcast.odoM.toNat ∧
          (broadcast.odoM.toNat : K) ≤
            odoM.toNat + travelled hz (speeds redline phases) := by
  induction phases generalizing odoM with
  | nil => exact ⟨List.Pairwise.nil, nofun⟩
  | cons phase phases induction =>
      have hspeed := (signals_speed_mem redline phase).1
      have hcovered := covered_nonneg positive hspeed
      have hrest := travelled_nonneg positive (speeds_nonneg redline phases)
      have hfloor := Int.floor_le (covered hz (signals redline phase).speed)
      have hsplit : travelled hz (speeds redline (phase :: phases)) =
          covered hz (signals redline phase).speed +
            travelled hz (speeds redline phases) := travelled_cons ..
      rw [hsplit] at fits ⊢
      have hstep := odometer_step positive hspeed odoM (by linarith)
      have hnext : (tick hz redline odoM phase).odoM =
          odoM + odometerTick hz (signals redline phase).speed := rfl
      rw [← hnext] at hstep
      have hclimbs : odoM.toNat ≤ (tick hz redline odoM phase).odoM.toNat := by
        have hwhole : (0 : K) ≤
            ⌊covered hz (signals redline phase).speed⌋ := by
          exact_mod_cast Int.floor_nonneg.mpr hcovered
        have hcast : (odoM.toNat : K) ≤
            (tick hz redline odoM phase).odoM.toNat := by linarith
        exact_mod_cast hcast
      obtain ⟨hsorted, hbounds⟩ :=
        @induction (tick hz redline odoM phase).odoM (by linarith)
      refine ⟨?_, ?_⟩
      · rw [canTx, List.map_cons, List.pairwise_cons]
        refine ⟨?_, hsorted⟩
        intro later hlater
        obtain ⟨broadcast, hbroadcast, rfl⟩ := List.mem_map.mp hlater
        exact (hbounds broadcast hbroadcast).1
      · intro broadcast member
        rcases List.mem_cons.mp member with rfl | later
        · exact ⟨hclimbs, by linarith⟩
        · obtain ⟨hlower, hupper⟩ := hbounds broadcast later
          exact ⟨hclimbs.trans hlower, by linarith⟩

/-- The odometer that `can_rx` shows never runs backwards and never exceeds the
distance travelled, whatever frames are lost. -/
theorem bridge_odometer {hz : K} {redline : Bool} {now : Timespec}
    {events : List (BridgeEvent K)} {bridge : Bridge}
    (run : (bridgeSystem hz redline now).Run events bridge)
    (quiet : Quiet events)
    (near : travelled (rate hz) (speeds redline (phases events)) < 2 ^ 24) :
    (displayed (received events)).Pairwise (· ≤ ·) ∧
      ∀ metres ∈ displayed (received events),
        (metres : K) ≤
          travelled (rate hz) (speeds redline (phases events)) := by
  have hfits : ((0 : UInt32).toNat : K) +
      travelled (rate hz) (speeds redline (phases events)) < 2 ^ 32 := by
    rw [UInt32.toNat_zero, Nat.cast_zero, zero_add]
    exact near.trans (by norm_num)
  obtain ⟨hsorted, hbounds⟩ := canTx_climbs (rate_pos hz) redline hfits
  have hbegun : displayed (begun hz redline (phases events)) =
      (canTx (rate hz) redline 0 (phases events)).map
        fun broadcast => broadcast.odoM.toNat := by
    rw [begun, displayed_frames, canTx_rate]
    apply List.map_congr_left
    intro broadcast member
    have hupper := (hbounds broadcast member).2
    rw [UInt32.toNat_zero, Nat.cast_zero, zero_add] at hupper
    apply Nat.mod_eq_of_lt
    have hcast : (broadcast.odoM.toNat : K) < ((2 ^ 24 : Nat) : K) := by
      exact (hupper.trans_lt near).trans_eq (by norm_num)
    exact_mod_cast hcast
  have hsublist : (displayed (received events)).Sublist
      ((canTx (rate hz) redline 0 (phases events)).map
        fun broadcast => broadcast.odoM.toNat) := by
    rw [← displayed_decoded, ← hbegun]
    exact (decoded_received run quiet).filterMap _
  refine ⟨hsorted.sublist hsublist, ?_⟩
  intro metres member
  obtain ⟨broadcast, hbroadcast, rfl⟩ :=
    List.mem_map.mp (hsublist.subset member)
  have hupper := (hbounds broadcast hbroadcast).2
  rwa [UInt32.toNat_zero, Nat.cast_zero, zero_add] at hupper

theorem bridge_odometer_firstTick :
    (displayed (received firstTickEvents)).Pairwise (· ≤ ·) ∧
      ∀ metres ∈ displayed (received firstTickEvents), (metres : ℚ) ≤
        travelled (rate 10) (speeds true (phases firstTickEvents)) := by
  obtain ⟨bridge, run⟩ := firstTick_run
  have hnear : travelled (rate (10 : ℚ))
      (speeds true (phases firstTickEvents)) < 2 ^ 24 := by
    decide +kernel
  exact bridge_odometer run firstTick_quiet hnear

end Odometer

/-! The deadlines. -/

section Deadlines

variable {K : Type u} [Field K] [LinearOrder K]

def BridgeEvent.completes : BridgeEvent K → Bool
  | .vehicle _ _ => true
  | _ => false

/-- The ticks that have run to their end. -/
def completed (events : List (BridgeEvent K)) : Nat :=
  events.countP BridgeEvent.completes

variable [FloorRing K] [IsStrictOrderedRing K]

/-- How far the deadlines have come. -/
structure Punctual (hz : K) (now : Timespec) (completed : Nat)
    (bridge : Bridge) : Prop where
  period : periodNs hz = some bridge.periodNs
  started : now.tvSec ≤ bridge.next.tvSec
  normal : bridge.next.Normal
  elapsed : bridge.next.nanoseconds =
    now.nanoseconds + completed * bridge.periodNs

theorem run_punctual {hz : K} {redline : Bool} {now : Timespec}
    (normal : now.Normal) {events : List (BridgeEvent K)} {bridge : Bridge}
    (run : (bridgeSystem hz redline now).Run events bridge) :
    Punctual hz now (completed events) bridge := by
  apply run.invariant (motive := fun events bridge =>
    Punctual hz now (completed events) bridge)
  · rintro bridge ⟨period, hperiod, rfl⟩
    exact ⟨hperiod, le_rfl, normal, by simp [Bridge.launched, completed]⟩
  · intro events bridge event next punctual step
    obtain ⟨hperiod, hstarted, hnormal, helapsed⟩ := punctual
    unfold completed at *
    rw [List.countP_append, List.countP_singleton]
    cases step with
    | vehicle _ advanced =>
        have hnonneg : 0 ≤ bridge.periodNs := by
          rw [periodNs_eq hperiod]
          exact floor_period_nonneg hz
        have hnanoseconds := Timespec.advance_nanoseconds advanced
        have hnext := Timespec.advance_normal hnonneg hnormal advanced
        refine ⟨hperiod, ?_, hnext, ?_⟩
        · obtain ⟨hlow, hhigh⟩ := hnext
          obtain ⟨hbefore, _⟩ := hnormal
          unfold Timespec.nanoseconds at hnanoseconds
          simp only
          omega
        · rw [hnanoseconds, helapsed, BridgeEvent.completes, if_pos rfl]
          push_cast
          ring
    | _ => exact ⟨hperiod, hstarted, hnormal, helapsed⟩

end Deadlines

end EmbeddedPortfolio.Telemetry
