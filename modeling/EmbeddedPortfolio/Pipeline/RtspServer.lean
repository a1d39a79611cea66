import Mathlib.Data.Int.Notation
import EmbeddedPortfolio.Transition.System
import EmbeddedPortfolio.Transition.Locations

namespace EmbeddedPortfolio.Pipeline

open EmbeddedPortfolio.Transition

/-! The RTSP server: the feeder thread, the gst-rtsp-server callbacks and
`shutdown`, one step for each access to what they share. -/

structure EncodedFrame where
  data : List UInt8
  ptsNs : UInt64
  captureMonoNs : UInt64
  keyframe : Bool
  deriving Repr, DecidableEq

structure RtspConfig where
  service : String
  mount : String
  fps : Int
  deriving Repr, DecidableEq

inductive FlowReturn
  | ok
  | flushing
  | error
  deriving Repr, DecidableEq

structure GstBuffer where
  data : List UInt8
  pts : UInt64
  dts : UInt64
  duration : UInt64
  deltaUnit : Bool
  deriving Repr, DecidableEq

def clockTimeNone : UInt64 := 0xFFFFFFFFFFFFFFFF

def gstSecond : Nat := 1000000000

def latchBase (basePts : UInt64) (item : EncodedFrame) : UInt64 :=
  if basePts = clockTimeNone then item.ptsNs else basePts

/-- `elapsed` is the steady clock's distance from `t0` in nanoseconds. -/
def rebasePts (basePts elapsed : UInt64) (item : EncodedFrame) : UInt64 :=
  if basePts ≤ item.ptsNs then item.ptsNs - basePts else elapsed

def makeBuffer (cfg : RtspConfig) (basePts elapsed : UInt64)
    (item : EncodedFrame) : GstBuffer where
  data := item.data
  pts := rebasePts (latchBase basePts item) elapsed item
  dts := rebasePts (latchBase basePts item) elapsed item
  duration := UInt64.ofNat (gstSecond / (max 1 cfg.fps).toNat)
  deltaUnit := !item.keyframe

/-- Each constructed media brings its own `vsrc` element, so an appsrc is named
by the media it was configured for. -/
abbrev AppSrc := Nat

/-- How far `on_media_configure` has got for one media. -/
inductive ConfigureStage
  | unborn
  | located
  | installed
  | fed
  | finished
  deriving Repr, DecidableEq

inductive FeederLocation
  | top
  | popping
  | gating (item : EncodedFrame)
  | fetching (item : EncodedFrame)
  | emitting (item : EncodedFrame) (src : AppSrc)
  | releasing (src : AppSrc) (flow : FlowReturn)
  | exited
  deriving Repr, DecidableEq

inductive ShutdownStage
  | notCalled
  | joining
  | joined
  | finished
  deriving Repr, DecidableEq

/-- `refs` counts the references the server holds on each appsrc, `buffers` the
buffers it has allocated and not yet unreffed. -/
structure RtspServer where
  running : Bool
  feeding : Bool
  appsrc : Option AppSrc
  basePts : UInt64
  served : UInt64
  feeder : FeederLocation
  stage : AppSrc → ConfigureStage
  shutdown : ShutdownStage
  refs : AppSrc → Int
  buffers : Int

namespace RtspServer

def attached : RtspServer where
  running := true
  feeding := false
  appsrc := none
  basePts := clockTimeNone
  served := 0
  feeder := .top
  stage := fun _ => .unborn
  shutdown := .notCalled
  refs := fun _ => 0
  buffers := 0

def ref (refs : AppSrc → Int) (src : AppSrc) : AppSrc → Int :=
  Function.update refs src (refs src + 1)

def unref (refs : AppSrc → Int) (src : AppSrc) : AppSrc → Int :=
  Function.update refs src (refs src - 1)

def unrefOption (refs : AppSrc → Int) : Option AppSrc → AppSrc → Int
  | none => refs
  | some src => unref refs src

/-- The back-pressure gate of `feeder_loop`; a frame it holds back is skipped. -/
def passesGate (feeding : Bool) (item : EncodedFrame) : Bool :=
  feeding || item.keyframe

end RtspServer

inductive RtspEvent
  | enter
  | leave
  | pop (item : EncodedFrame)
  | drained
  | skip (item : EncodedFrame) (configured : Option AppSrc)
  | letThrough (item : EncodedFrame)
  | fetch (item : EncodedFrame) (src : Option AppSrc)
  | push (item : EncodedFrame) (src : AppSrc) (buffer : GstBuffer)
  | release (src : AppSrc) (flow : FlowReturn)
  | vsrcNotFound
  | locate (src : AppSrc)
  | install (src : AppSrc)
  | feed (src : AppSrc)
  | finish (src : AppSrc)
  | needData
  | enoughData
  | shutdownStop
  | shutdownJoin
  | shutdownRelease
  deriving Repr, DecidableEq

open Locations RtspServer in
inductive RtspStep (cfg : RtspConfig) :
    RtspServer → RtspEvent → RtspServer → Prop
  | enter {server : RtspServer} :
      server.feeder = .top → server.running = true →
        RtspStep cfg server .enter { server with feeder := .popping }
  | leave {server : RtspServer} :
      server.feeder = .top → server.running = false →
        RtspStep cfg server .leave { server with feeder := .exited }
  | pop {server : RtspServer} {item : EncodedFrame} :
      server.feeder = .popping →
        RtspStep cfg server (.pop item) { server with feeder := .gating item }
  | drained {server : RtspServer} :
      server.feeder = .popping →
        RtspStep cfg server .drained { server with feeder := .exited }
  | skip {server : RtspServer} {item : EncodedFrame} :
      server.feeder = .gating item →
      passesGate server.feeding item = false →
        RtspStep cfg server (.skip item server.appsrc)
          { server with feeder := .top }
  | letThrough {server : RtspServer} {item : EncodedFrame} :
      server.feeder = .gating item →
      passesGate server.feeding item = true →
        RtspStep cfg server (.letThrough item)
          { server with feeder := .fetching item }
  | fetchNone {server : RtspServer} {item : EncodedFrame} :
      server.feeder = .fetching item → server.appsrc = none →
        RtspStep cfg server (.fetch item none) { server with feeder := .top }
  | fetchSome {server : RtspServer} {item : EncodedFrame} {src : AppSrc} :
      server.feeder = .fetching item → server.appsrc = some src →
        RtspStep cfg server (.fetch item (some src))
          { server with
            feeder := .emitting item src
            refs := ref server.refs src }
  | push {server : RtspServer} {item : EncodedFrame} {src : AppSrc}
      {elapsed : UInt64} {flow : FlowReturn} :
      server.feeder = .emitting item src →
        RtspStep cfg server
          (.push item src (makeBuffer cfg server.basePts elapsed item))
          { server with
            feeder := .releasing src flow
            basePts := latchBase server.basePts item
            buffers := server.buffers + 1 }
  | release {server : RtspServer} {src : AppSrc} {flow : FlowReturn} :
      server.feeder = .releasing src flow →
        RtspStep cfg server (.release src flow)
          { server with
            feeder := .top
            refs := unref server.refs src
            buffers := server.buffers - 1
            served := if flow = .ok then server.served + 1
              else server.served }
  | vsrcNotFound {server : RtspServer} :
      RtspStep cfg server .vsrcNotFound server
  | locate {server : RtspServer} {src : AppSrc} :
      server.stage src = .unborn →
        RtspStep cfg server (.locate src)
          { server with
            stage := move server.stage src .located
            refs := ref server.refs src }
  | install {server : RtspServer} {src : AppSrc} :
      server.stage src = .located →
        RtspStep cfg server (.install src)
          { server with
            appsrc := some src
            stage := move server.stage src .installed
            refs := ref (unrefOption server.refs server.appsrc) src }
  | feed {server : RtspServer} {src : AppSrc} :
      server.stage src = .installed →
        RtspStep cfg server (.feed src)
          { server with
            feeding := true
            stage := move server.stage src .fed }
  | finish {server : RtspServer} {src : AppSrc} :
      server.stage src = .fed →
        RtspStep cfg server (.finish src)
          { server with
            stage := move server.stage src .finished
            refs := unref server.refs src }
  | needData {server : RtspServer} :
      RtspStep cfg server .needData { server with feeding := true }
  | enoughData {server : RtspServer} :
      RtspStep cfg server .enoughData { server with feeding := false }
  | shutdownStop {server : RtspServer} :
      server.running = true →
        RtspStep cfg server .shutdownStop
          { server with running := false, shutdown := .joining }
  | shutdownJoin {server : RtspServer} :
      server.shutdown = .joining → server.feeder = .exited →
        RtspStep cfg server .shutdownJoin { server with shutdown := .joined }
  | shutdownRelease {server : RtspServer} :
      server.shutdown = .joined →
        RtspStep cfg server .shutdownRelease
          { server with
            appsrc := none
            shutdown := .finished
            refs := unrefOption server.refs server.appsrc }

def rtspSystem (cfg : RtspConfig) : System RtspServer RtspEvent where
  initial server := server = RtspServer.attached
  step := RtspStep cfg

end EmbeddedPortfolio.Pipeline
