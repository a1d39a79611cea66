import EmbeddedPortfolio.Telemetry.KernelFilter
import EmbeddedPortfolio.Telemetry.Schedule
import EmbeddedPortfolio.Transition.Fifo

namespace EmbeddedPortfolio.Telemetry

open EmbeddedPortfolio.Numeric EmbeddedPortfolio.Transition

universe u

/-! The telemetry bridge: `can_tx`, other nodes, the bus and the socket that
`can_rx` reads from. -/

/-- Where `can_tx` stands: at the head of its loop, between its two writes or
behind the loop. -/
inductive TxPlace where
  | looping
  | halfway (vehicle : CanFrame)
  | stopped
deriving DecidableEq, Repr

structure Bridge where
  periodNs : Int
  odoM : UInt32
  next : Timespec
  tx : TxPlace
  socket : List CanFrame
  reading : Bool
  session : Session
deriving DecidableEq, Repr

/-- `room` says whether the receiver's socket can still take a frame. -/
inductive BridgeEvent (K : Type u) [Field K] [LinearOrder K]
  | engine (phase : Phase K) (sent : Broadcast) (room : Bool)
  | vehicle (frame : CanFrame) (room : Bool)
  | writeFailed
  | txSignal
  | foreign (frame : CanFrame) (room : Bool)
  | read (frame : CanFrame)
  | short
  | rxStopped

/-- What of a frame on the bus gets into the socket. -/
def accepted (frame : CanFrame) (room : Bool) : Option CanFrame :=
  if Delivered filt frame.canId ∧ room = true then some frame else none

namespace BridgeEvent

variable {K : Type u} [Field K] [LinearOrder K]

def phase : BridgeEvent K → Option (Phase K)
  | .engine phase _ _ => some phase
  | _ => none

/-- The frame that `can_tx` has written. -/
def sent : BridgeEvent K → Option CanFrame
  | .engine _ sent _ => some sent.engine
  | .vehicle frame _ => some frame
  | _ => none

def onBus : BridgeEvent K → Option CanFrame
  | .foreign frame _ => some frame
  | event => event.sent

def takesIn : BridgeEvent K → Option CanFrame
  | .engine _ sent room => accepted sent.engine room
  | .vehicle frame room => accepted frame room
  | .foreign frame room => accepted frame room
  | _ => none

def received : BridgeEvent K → Option CanFrame
  | .read frame => some frame
  | _ => none

end BridgeEvent

section Code

variable {K : Type u} [Field K] [LinearOrder K] [FloorRing K]

inductive BridgeStep (hz : K) (redline : Bool) :
    Bridge → BridgeEvent K → Bridge → Prop
  | engine {bridge : Bridge} {phase : Phase K} {room : Bool} :
      bridge.tx = .looping →
        BridgeStep hz redline bridge
          (.engine phase (tick hz redline bridge.odoM phase) room)
          { bridge with
            odoM := (tick hz redline bridge.odoM phase).odoM
            tx := .halfway (tick hz redline bridge.odoM phase).vehicle
            socket := bridge.socket ++
              (accepted (tick hz redline bridge.odoM phase).engine
                room).toList }
  | vehicle {bridge : Bridge} {frame : CanFrame} {room : Bool}
      {next : Timespec} :
      bridge.tx = .halfway frame →
      bridge.next.advance bridge.periodNs = some next →
        BridgeStep hz redline bridge (.vehicle frame room)
          { bridge with
            next
            tx := .looping
            socket := bridge.socket ++ (accepted frame room).toList }
  -- `odo_m` is not read again.
  | writeFailed {bridge : Bridge} :
      bridge.tx ≠ .stopped →
        BridgeStep hz redline bridge .writeFailed
          { bridge with tx := .stopped }
  | txSignal {bridge : Bridge} :
      bridge.tx = .looping →
        BridgeStep hz redline bridge .txSignal { bridge with tx := .stopped }
  | foreign {bridge : Bridge} {frame : CanFrame} {room : Bool} :
      BridgeStep hz redline bridge (.foreign frame room)
        { bridge with
          socket := bridge.socket ++ (accepted frame room).toList }
  | read {bridge : Bridge} {frame : CanFrame} {rest : List CanFrame} :
      bridge.reading = true →
      bridge.socket = frame :: rest →
        BridgeStep hz redline bridge (.read frame)
          { bridge with
            socket := rest
            session := bridge.session.handle frame }
  | short {bridge : Bridge} :
      bridge.reading = true → BridgeStep hz redline bridge .short bridge
  | rxStopped {bridge : Bridge} :
      bridge.reading = true →
        BridgeStep hz redline bridge .rxStopped
          { bridge with reading := false }

def Bridge.launched (periodNs : Int) (now : Timespec) : Bridge where
  periodNs
  odoM := 0
  next := now
  tx := .looping
  socket := []
  reading := true
  session := Session.initial

def bridgeSystem (hz : K) (redline : Bool) (now : Timespec) :
    System Bridge (BridgeEvent K) where
  initial bridge := ∃ period, periodNs hz = some period ∧
    bridge = Bridge.launched period now
  step := BridgeStep hz redline

/-- The socket is a queue. -/
def socketFifo (hz : K) (redline : Bool) (now : Timespec) :
    Fifo (bridgeSystem hz redline now) CanFrame where
  contents := Bridge.socket
  takesIn := BridgeEvent.takesIn
  givesUp := BridgeEvent.received
  empty := by
    rintro bridge ⟨period, _, rfl⟩
    rfl
  conserve := by
    intro bridge event next step
    cases step with
    | read _ hsocket =>
        rw [hsocket]
        simp [BridgeEvent.takesIn, BridgeEvent.received]
    | engine _ | vehicle _ _ | foreign => rfl
    | _ => exact List.append_nil _

end Code

/-! What the receiver counts is what it has read. -/

section Counted

variable {K : Type u} [Field K] [LinearOrder K] [FloorRing K]

/-- The session of a receiver that has read the frames. -/
def Session.after (frames : List CanFrame) : Session :=
  frames.foldl Session.handle Session.initial

theorem run_session {hz : K} {redline : Bool} {now : Timespec}
    {events : List (BridgeEvent K)} {bridge : Bridge}
    (run : (bridgeSystem hz redline now).Run events bridge) :
    bridge.session = .after (yielded BridgeEvent.received events) := by
  apply run.invariant (motive := fun events bridge =>
    bridge.session = .after (yielded BridgeEvent.received events))
  · rintro bridge ⟨period, _, rfl⟩
    rfl
  · intro events bridge event next hsession step
    rw [yielded_append, yielded_singleton]
    cases step with
    | read _ _ =>
        simp [BridgeEvent.received, Session.after, hsession, List.foldl_append]
    | _ => simpa [BridgeEvent.received] using hsession

theorem Session.after_append (frames : List CanFrame) (frame : CanFrame) :
    Session.after (frames ++ [frame]) =
      (Session.after frames).handle frame := by
  simp [Session.after]

theorem Session.after_rx (frames : List CanFrame) :
    (Session.after frames).rx = frames.length := by
  induction frames using List.reverseRecOn with
  | nil => rfl
  | append_singleton frames frame induction =>
      rw [after_append, List.length_append, List.length_singleton, ← induction]
      rfl

theorem Session.after_alerts (frames : List CanFrame) :
    (Session.after frames).alerts =
      (frames.map fun frame => (receive frame).alerts.length).sum := by
  induction frames using List.reverseRecOn with
  | nil => rfl
  | append_singleton frames frame induction =>
      rw [after_append, List.map_append, List.sum_append, ← induction]
      simp [Session.handle]

end Counted

end EmbeddedPortfolio.Telemetry
