import EmbeddedPortfolio.Pipeline.Appsink
import EmbeddedPortfolio.Program.Exceptional
import EmbeddedPortfolio.Program.Handles

namespace EmbeddedPortfolio.Pipeline

open EmbeddedPortfolio.Program

/-! The `Pipeline` object: how it is built, what its methods and callbacks take
from GStreamer, and what its destructor gives back. -/

inductive Encoder
  | auto
  | v4l2H264
  | x264
  deriving Repr, DecidableEq

structure BuildConfig extends PipelineConfig where
  device : String
  width : Int
  height : Int
  bitrateKbps : Int
  encoder : Encoder

/-- The elements, by their names. -/
inductive Element
  | cam
  | srccaps
  | t
  | encQ
  | encCvt
  | enc
  | encParse
  | encSink
  | rawQ
  | rawCvt
  | rawCaps
  | rawSink
  deriving Repr, DecidableEq

def Element.factory (encoderFactory : String) : Element → String
  | .cam => "v4l2src"
  | .srccaps => "capsfilter"
  | .t => "tee"
  | .encQ => "queue"
  | .encCvt => "videoconvert"
  | .enc => encoderFactory
  | .encParse => "h264parse"
  | .encSink => "appsink"
  | .rawQ => "queue"
  | .rawCvt => "videoconvert"
  | .rawCaps => "capsfilter"
  | .rawSink => "appsink"

/-- In the order in which `build` makes them. -/
def Element.all : List Element :=
  [.cam, .srccaps, .t, .encQ, .encCvt, .enc, .encParse, .encSink, .rawQ,
    .rawCvt, .rawCaps, .rawSink]

/-- The references and allocations.  `active` is a pipeline that has left the
state NULL. -/
inductive GstRef
  | factory
  | pipeline
  | active
  | watch
  | element (element : Element)
  | caps
  | controls
  | teePad (queueHead : Element)
  | queuePad (queueHead : Element)
  | bus
  | sinkPad
  | text
  | gerror
  | debug
  | sample
  | mapping
  | clock
  deriving Repr, DecidableEq

def GstRef.madeFrom : GstRef → GstRef → Bool
  | .active, .pipeline => true
  | .mapping, .sample => true
  | _, _ => false

inductive Property
  | int (value : Int)
  | bool (value : Bool)
  | text (value : String)
  | fraction (numerator denominator : Int)
  | fields (name : String) (fields : List (String × Property))

/-- The members, and the bin behind `pipeline_`: its children, their links and
properties, and the sinks that call back. -/
structure Assembly where
  encoderFactory : String
  pipeline : Bool
  active : Bool
  watch : Bool
  children : List Element
  links : List (Element × Element)
  properties : List (Element × String × Property)
  connected : List Element
  closed : Bool

inductive PipelineFailure
  | noEncoder (factory : String)
  | noPipeline
  | make (element : Element) (factory : String)
  | link (what : String)
  | teeBranch (queueHead : Element) (teePad queuePad : Bool)
  | start
  deriving Repr, DecidableEq

def PipelineFailure.what : PipelineFailure → String
  | .noEncoder factory => "encoder element not available: " ++ factory
  | .noPipeline => "gst_pipeline_new failed"
  | .make _ factory => "gst_element_factory_make failed: " ++ factory
  | .link what => what
  | .teeBranch _ _ _ => "failed to link a tee src pad to a branch queue"
  | .start => "pipeline failed to reach PLAYING"

/-- `script` says of each call whether it gives what it is asked for. -/
structure Builder where
  script : List Bool
  handles : Handles GstRef
  assembly : Assembly

abbrev BuilderM (Value : Type) : Type :=
  Exceptional Builder PipelineFailure Value

namespace Assembly

def new : Assembly where
  encoderFactory := ""
  pipeline := false
  active := false
  watch := false
  children := []
  links := []
  properties := []
  connected := []
  closed := false

def set (element : Element) (properties : List (String × Property))
    (assembly : Assembly) : Assembly :=
  { assembly with
    properties := assembly.properties ++ properties.map (element, ·) }

def link (first second : Element) (assembly : Assembly) : Assembly :=
  { assembly with links := assembly.links ++ [(first, second)] }

end Assembly

namespace Builder

def fresh (script : List Bool) : Builder where
  script := script
  handles := .empty
  assembly := .new

def acquire (resource : GstRef) (builder : Builder) : Builder :=
  { builder with handles := builder.handles.acquire resource }

def free (resource : GstRef) (builder : Builder) : Builder :=
  { builder with handles := builder.handles.free GstRef.madeFrom resource }

def assemble (change : Assembly → Assembly) (builder : Builder) : Builder :=
  { builder with assembly := change builder.assembly }

/-! What is asked of GStreamer. -/

def invoke (uses : List GstRef) : BuilderM Bool :=
  Exceptional.call fun builder =>
    (builder.script.headD true,
      { builder with
        script := builder.script.tail
        handles := builder.handles.use uses })

/-- A call whose result is not looked at. -/
def touch (uses : List GstRef) (change : Assembly → Assembly) : BuilderM Unit :=
  Exceptional.update fun builder =>
    { builder.assemble change with handles := builder.handles.use uses }

/-- A call that hands out a resource or a null pointer. -/
def fetch (uses : List GstRef) (resource : GstRef) : BuilderM Bool := do
  let found ← invoke uses
  if found then do
    Exceptional.update (acquire resource)
    pure true
  else pure false

def giveBack (found : Bool) (resource : GstRef) : BuilderM Unit :=
  if found then Exceptional.update (free resource) else pure ()

/-- What is done with a resource that is there, until it is given back. -/
def borrow (uses : List GstRef) (resource : GstRef) (body : BuilderM Unit) :
    BuilderM Bool := do
  let found ← fetch uses resource
  if found then do
    body
    Exceptional.update (free resource)
    pure true
  else pure false

/-! The methods. -/

def factoryExists : BuilderM Bool :=
  borrow [] .factory (pure ())

def make (element : Element) : BuilderM Unit := do
  let factory ← Exceptional.observe fun builder =>
    element.factory builder.assembly.encoderFactory
  let found ← invoke []
  if found then Exceptional.update (acquire (.element element))
  else Exceptional.fail (.make element factory)

def chooseEncoder : Encoder → BuilderM String
  | .v4l2H264 => pure "v4l2h264enc"
  | .x264 => pure "x264enc"
  | .auto => do
      let found ← factoryExists
      pure (if found then "v4l2h264enc" else "x264enc")

def selectEncoder (encoder : Encoder) : BuilderM Unit := do
  let factory ← chooseEncoder encoder
  Exceptional.update (assemble fun assembly =>
    { assembly with encoderFactory := factory })
  let found ← factoryExists
  if found then pure () else Exceptional.fail (.noEncoder factory)

def newPipeline : BuilderM Unit := do
  let found ← invoke []
  if found then
    Exceptional.update fun builder =>
      (builder.acquire .pipeline).assemble fun assembly =>
        { assembly with pipeline := true }
  else Exceptional.fail .noPipeline

def set (element : Element) (properties : List (String × Property)) :
    BuilderM Unit :=
  touch [.element element] (Assembly.set element properties)

/-- Caps, or the structure of controls, that are handed to an element and
unreffed. -/
def setFrom (resource : GstRef) (element : Element)
    (properties : List (String × Property)) : BuilderM Unit := do
  Exceptional.update (acquire resource)
  touch [.element element, resource] (Assembly.set element properties)
  Exceptional.update (free resource)

def connect (sink : Element) : BuilderM Unit :=
  touch [.element sink] fun assembly =>
    { assembly with connected := assembly.connected ++ [sink] }

def addMany (elements : List Element) : BuilderM Unit :=
  touch (.pipeline :: elements.map .element) fun assembly =>
    { assembly with children := assembly.children ++ elements }

def linkPairs (what : String) : List (Element × Element) → BuilderM Unit :=
  Exceptional.forEach fun pair => do
    let linked ← invoke [.element pair.1, .element pair.2]
    if linked then
      Exceptional.update (assemble (Assembly.link pair.1 pair.2))
    else Exceptional.fail (.link what)

def pairs (chain : List Element) : List (Element × Element) :=
  chain.zip chain.tail

def linkMany (what : String) (chain : List Element) : BuilderM Unit :=
  linkPairs what (pairs chain)

def padsLink (queueHead : Element) (teePad queuePad : Bool) : BuilderM Bool :=
  if teePad && queuePad then invoke [.teePad queueHead, .queuePad queueHead]
  else pure false

def linkTeeBranch (queueHead : Element) : BuilderM Unit := do
  let teePad ← fetch [.element .t] (.teePad queueHead)
  let queuePad ← fetch [.element queueHead] (.queuePad queueHead)
  let linked ← padsLink queueHead teePad queuePad
  if linked then do
    Exceptional.update (assemble (Assembly.link .t queueHead))
    Exceptional.update (free (.queuePad queueHead))
    Exceptional.update (free (.teePad queueHead))
  else Exceptional.fail (.teeBranch queueHead teePad queuePad)

/-- An id of zero is no watch. -/
def addWatch : BuilderM Unit := do
  touch [.pipeline] id
  Exceptional.update (acquire .bus)
  let added ← invoke [.bus]
  Exceptional.update fun builder =>
    if added then (builder.acquire .watch).assemble fun assembly =>
      { assembly with watch := true }
    else builder
  Exceptional.update (free .bus)

def queueProperties (maxSizeBuffers : Int) : List (String × Property) :=
  [("leaky", .int 2), ("max-size-buffers", .int maxSizeBuffers),
    ("max-size-time", .int 0), ("max-size-bytes", .int 0)]

def sinkProperties (drop : Bool) (maxBuffers : Int) :
    List (String × Property) :=
  [("emit-signals", .bool true), ("sync", .bool false), ("drop", .bool drop),
    ("max-buffers", .int maxBuffers)]

def encoderProperties (cfg : BuildConfig) (encoderFactory : String) :
    List (String × Property) :=
  if encoderFactory = "x264enc" then
    [("tune", .int 4), ("speed-preset", .int 1),
      ("key-int-max", .int (cfg.fps * 2)), ("bitrate", .int cfg.bitrateKbps)]
  else
    [("extra-controls", .fields "controls"
      [("video_bitrate", .int (cfg.bitrateKbps * 1000)),
        ("h264_i_frame_period", .int (cfg.fps * 2))])]

def setEncoder (cfg : BuildConfig) : BuilderM Unit := do
  let encoderFactory ← Exceptional.observe fun builder =>
    builder.assembly.encoderFactory
  let properties := encoderProperties cfg encoderFactory
  if encoderFactory = "x264enc" then set .enc properties
  else setFrom .controls .enc properties

def srcCaps (cfg : BuildConfig) : Property :=
  .fields "video/x-raw"
    [("width", .int cfg.width), ("height", .int cfg.height),
      ("framerate", .fraction cfg.fps 1)]

def encCaps : Property :=
  .fields "video/x-h264"
    [("stream-format", .text "byte-stream"), ("alignment", .text "au")]

def rawCaps : Property :=
  .fields "video/x-raw" [("format", .text "NV12")]

def buildSource (cfg : BuildConfig) : BuilderM Unit := do
  Exceptional.forEach make [.cam, .srccaps, .t]
  set .cam [("device", .text cfg.device), ("io-mode", .int 2)]
  setFrom .caps .srccaps [("caps", srcCaps cfg)]

def buildEncoderBranch (cfg : BuildConfig) : BuilderM Unit := do
  Exceptional.forEach make [.encQ, .encCvt, .enc, .encParse, .encSink]
  set .encQ (queueProperties 8)
  setEncoder cfg
  set .encParse [("config-interval", .int (-1))]
  set .encSink (sinkProperties false 8)
  setFrom .caps .encSink [("caps", encCaps)]
  connect .encSink

def buildRawBranch : BuilderM Unit := do
  Exceptional.forEach make [.rawQ, .rawCvt, .rawCaps, .rawSink]
  set .rawQ (queueProperties 4)
  setFrom .caps .rawCaps [("caps", rawCaps)]
  set .rawSink (sinkProperties true 2)
  connect .rawSink

def linkAll : BuilderM Unit := do
  linkMany "link v4l2src -> capsfilter -> tee failed" [.cam, .srccaps, .t]
  linkMany "link encoder branch failed"
    [.encQ, .encCvt, .enc, .encParse, .encSink]
  linkMany "link raw branch failed" [.rawQ, .rawCvt, .rawCaps, .rawSink]
  linkTeeBranch .encQ
  linkTeeBranch .rawQ

def build (cfg : BuildConfig) : BuilderM Unit := do
  selectEncoder cfg.encoder
  newPipeline
  buildSource cfg
  buildEncoderBranch cfg
  buildRawBranch
  addMany Element.all
  linkAll
  addWatch

def start : BuilderM Unit := do
  Exceptional.update fun builder =>
    if builder.assembly.active then builder
    else (builder.acquire .active).assemble fun assembly =>
      { assembly with active := true }
  let playing ← invoke [.pipeline]
  if playing then pure () else Exceptional.fail .start

def stop : BuilderM Unit :=
  Exceptional.update fun builder =>
    if builder.assembly.pipeline then
      let used := { builder with handles := builder.handles.use [.pipeline] }
      let null := if builder.assembly.active then used.free .active else used
      null.assemble fun assembly =>
        { assembly with active := false, closed := true }
    else builder

def encoderCaps : BuilderM Unit := do
  let _ ← borrow [.element .encSink] .sinkPad do
    let _ ← borrow [.sinkPad] .caps do
      let _ ← borrow [.caps] .text (pure ())
      pure ()
    pure ()
  pure ()

def onNewEncodedSample : BuilderM Unit := do
  let _ ← borrow [.element .encSink] .sample do
    let _ ← borrow [.sample] .mapping do
      let _ ← borrow [.pipeline, .mapping] .clock (pure ())
      pure ()
    pure ()
  pure ()

def onNewRawSample : BuilderM Unit := do
  let _ ← borrow [.element .rawSink] .sample do
    let _ ← borrow [.sample] .mapping (pure ())
    pure ()
  pure ()

/-- Only an error and a warning hand something out. -/
def onBusMessage (parsed : Bool) : BuilderM Unit :=
  if parsed then do
    let err ← fetch [] .gerror
    let dbg ← fetch [] .debug
    giveBack err .gerror
    giveBack dbg .debug
  else pure ()

/-- The last reference: the children go with the bin. -/
def unrefPipeline : BuilderM Unit := do
  let children ← Exceptional.observe fun builder => builder.assembly.children
  Exceptional.forEach
    (fun element => Exceptional.update (free (.element element))) children
  Exceptional.update (free .pipeline)

def destruct : BuilderM Unit := do
  stop
  let assembly ← Exceptional.observe Builder.assembly
  giveBack assembly.watch .watch
  if assembly.pipeline then unrefPipeline else pure ()

end Builder

inductive PipelineUse
  | start
  | stop
  | encoderCaps
  | encodedSample
  | rawSample
  | busMessage (parsed : Bool)
  deriving Repr, DecidableEq

def PipelineUse.run : PipelineUse → BuilderM Unit
  | .start => Builder.start
  | .stop => Builder.stop
  | .encoderCaps => Builder.encoderCaps
  | .encodedSample => Builder.onNewEncodedSample
  | .rawSample => Builder.onNewRawSample
  | .busMessage parsed => Builder.onBusMessage parsed

/-- The object from its construction to its end.  An exception ends it. -/
def pipelineLifetime (cfg : BuildConfig) (uses : List PipelineUse) :
    BuilderM Unit :=
  Exceptional.ensuring
    (do
      Builder.build cfg
      Exceptional.forEach PipelineUse.run uses)
    Builder.destruct

end EmbeddedPortfolio.Pipeline
