import EmbeddedPortfolio.Detector.CanReassembly
import EmbeddedPortfolio.Detector.ReadBounds
import EmbeddedPortfolio.Detector.Worker

namespace EmbeddedPortfolio.Detector

open EmbeddedPortfolio.Program EmbeddedPortfolio.Telemetry FloatConversions

/-! One valid frame in the loop of the node, from its bytes to what is
published about it. -/

structure Header where
  stamp : Nat
  frameId : String
deriving DecidableEq, Repr

structure BoundingBox2D (Real : Type) where
  centerX : Real
  centerY : Real
  sizeX : Real
  sizeY : Real

structure Detection2D (Real : Type) where
  header : Header
  bbox : BoundingBox2D Real
  id : String
  score : Real

structure Detection2DArray (Real : Type) where
  header : Header
  detections : List (Detection2D Real)

/-- What a turn of the loop computes, with the offsets it reads. -/
structure Perceived (Real : Type) where
  letterboxed : Letterboxed Real
  frameReads : List Int
  copies : Copies
  outputReads : List Int
  message : Detection2DArray Real
  canFrames : List CanFrame

/-- The open socket, and which of its writes succeed. -/
structure CanSink where
  publisher : SocketCanPublisher
  write : Nat → Bool
  opened : 0 ≤ publisher.fd

section Code

variable {Real : Type}
variable [Add Real] [Sub Real] [Mul Real] [Div Real] [Zero Real] [One Real]
variable [LT Real] [DecidableLT Real] [IntCast Real] [OfScientific Real]
variable [FloatConversions Real]

def detection2D (header : Header) (d : Detection Real) : Detection2D Real where
  header := header
  bbox := ⟨d.x + d.w * 0.5, d.y + d.h * 0.5, d.w, d.h⟩
  id := toString d.classId
  score := d.score

def publish (header : Header) (dets : List (Detection Real)) :
    Detection2DArray Real where
  header := header
  detections := dets.map (detection2D header)

/-- The rows and columns are those of the first output. -/
def decodeOutputs (sort : List (Detection Real) → List (Detection Real))
    (outputs : List BoundTensor) (lb : LetterboxInfo Real)
    (pp : PostProcessConfig Real) : Reading Real (List (Detection Real)) :=
  match outputs with
  | [] => pure []
  | output :: _ => decodeYolo sort output.rows output.cols lb pp

/-- `bgr` is the mapped memory of the frame, and `network` what the inference
leaves in the host buffer of the first output. -/
def perceived (sort : List (Detection Real) → List (Detection Real))
    (settings : Settings) (pp : PostProcessConfig Real) (header : Header)
    (can : Option CanSink) (outputs : List BoundTensor) (frame : Frame)
    (bgr : Int → UInt8) (network : Int → Real) (copies : Copies) :
    Perceived Real :=
  let letterbox := letterboxBgrToNchw frame.width frame.height frame.stride
    settings.inputW.toInt settings.inputH.toInt
  let letterboxed := letterbox.value bgr
  let decode := decodeOutputs sort outputs letterboxed.info pp
  let dets := decode.value network
  { letterboxed
    frameReads := letterbox.reads bgr
    copies
    outputReads := decode.reads network
    message := publish header dets
    canFrames := match can with
      | none => []
      | some sink => (sink.publisher.publish
          ⟨dets, frame.width, frame.height, sink.write⟩).frames }

def processFrame (sort : List (Detection Real) → List (Detection Real))
    (settings : Settings) (pp : PostProcessConfig Real) (header : Header)
    (can : Option CanSink) (engine : TrtEngine) (frame : Frame)
    (bgr : Int → UInt8) (network : Int → Real) :
    Except Fault (Perceived Real) := do
  let copies ← infer engine settings.blobSize
  pure (perceived sort settings pp header can engine.outputs frame bgr network
    copies)

end Code

/-! What the parameters and the camera have to provide. -/

/-- One batch of three planes of the letterbox size. -/
def TakesBlob (cfg : InferConfig) (tensor : IoTensor) : Prop :=
  resolveInputDims cfg tensor.shape =
    [1, 3, cfg.inputH.toInt64, cfg.inputW.toInt64]

/-- The parameters of the node suit the tensors of its engine. -/
structure Suits (settings : Settings) (pp : PostProcessConfig ℚ)
    (engine : TrtEngine) : Prop where
  inputW : 1 ≤ settings.inputW.toInt
  inputH : 1 ≤ settings.inputH.toInt
  inputs : ∀ tensor ∈ settings.tensors, tensor.isInput →
    TakesBlob settings.icfg.toInferConfig tensor
  outputs : ∀ output, engine.outputs.head? = some output →
    HoldsCandidates pp output.toTensorBinding
  maxDetections : 1 ≤ pp.maxDetections
  numClasses : pp.numClasses ≤ 256

/-- The buffer holds all pixels that the caps promise. -/
structure Frame.Whole (frame : Frame) : Prop where
  valid : frame.valid
  width : 1 ≤ frame.width
  height : 1 ≤ frame.height
  size : 3 * frame.width * frame.height ≤ frame.size

/-! The blob and the input tensor. -/

theorem size_nonneg {size : Int32} (positive : 1 ≤ size.toInt) :
    0 ≤ size.toInt64 := by
  rw [Int64.le_iff_toInt_le, Int32.toInt_toInt64]
  exact Int.le_of_lt positive

theorem size_toNat {size : Int32} (positive : 1 ≤ size.toInt) :
    (size.toInt64.toUInt64.toNat : Int) = size.toInt := by
  have hwide : size.toInt64.toInt = size.toInt := Int32.toInt_toInt64 size
  rw [Int64.toNat_toUInt64_of_le (size_nonneg positive), ← Int64.toNat_toInt,
    hwide]
  omega

section Blob

variable {settings : Settings}

theorem blobSize_toNat (inputW : 1 ≤ settings.inputW.toInt)
    (inputH : 1 ≤ settings.inputH.toInt) :
    (settings.blobSize.toNat : Int) =
      3 * settings.inputW.toInt * settings.inputH.toInt := by
  have hwidth := size_toNat inputW
  have hheight := size_toNat inputH
  have hwmax := settings.inputW.toInt_lt
  have hhmax := settings.inputH.toInt_lt
  have hthree : (3 : UInt64).toNat = 3 := rfl
  have hplanes : 3 * settings.inputW.toInt64.toUInt64.toNat < 2 ^ 64 := by
    omega
  have hproduct : settings.inputW.toInt64.toUInt64.toNat *
      settings.inputH.toInt64.toUInt64.toNat < 2 ^ 31 * 2 ^ 31 :=
    Nat.mul_lt_mul'' (by omega) (by omega)
  unfold Settings.blobSize
  rw [UInt64.toNat_mul, UInt64.toNat_mul, ← hwidth, ← hheight, hthree,
    Nat.mod_eq_of_lt hplanes, mul_assoc, Nat.mod_eq_of_lt (by omega)]
  push_cast
  ring

theorem input_bytes (inputW : 1 ≤ settings.inputW.toInt)
    (inputH : 1 ≤ settings.inputH.toInt) {tensor : IoTensor}
    (isInput : tensor.isInput = true)
    (takes : TakesBlob settings.icfg.toInferConfig tensor) :
    (allocateBinding settings.icfg.toInferConfig tensor).bytes =
      settings.blobSize * dtypeSize tensor.dtype := by
  have hvolume : volume [1, 3, settings.inputH.toInt64,
      settings.inputW.toInt64] = settings.blobSize := by
    have hwidth := Int64.not_lt.mpr (size_nonneg inputW)
    have hheight := Int64.not_lt.mpr (size_nonneg inputH)
    simp only [volume, List.foldl_cons, List.foldl_nil, if_neg hwidth,
      if_neg hheight]
    unfold Settings.blobSize
    change 3 * settings.inputH.toInt64.toUInt64 *
      settings.inputW.toInt64.toUInt64 = _
    rw [UInt64.mul_assoc, UInt64.mul_comm settings.inputH.toInt64.toUInt64,
      ← UInt64.mul_assoc]
  unfold TakesBlob at takes
  simp only [allocateBinding, isInput, if_true, takes]
  rw [← hvolume]
  rfl

theorem dtypeSize_le (dtype : DataType) : (dtypeSize dtype).toNat ≤ 4 := by
  cases dtype <;> decide

/-- The copy to the device stays in the blob. -/
theorem input_reads (inputW : 1 ≤ settings.inputW.toInt)
    (inputH : 1 ≤ settings.inputH.toInt) {tensor : IoTensor}
    (isInput : tensor.isInput = true)
    (takes : TakesBlob settings.icfg.toInferConfig tensor) :
    (allocateBinding settings.icfg.toInferConfig tensor).bytes.toNat ≤
      settings.blobSize.toNat * 4 := by
  rw [input_bytes inputW inputH isInput takes, UInt64.toNat_mul]
  exact (Nat.mod_le _ _).trans
    (Nat.mul_le_mul_left _ (dtypeSize_le tensor.dtype))

end Blob

/-- The input that `allocate_bindings` chooses is one of the tensors. -/
theorem allocateBindings_input {cfg : InferConfig} {inputName : String}
    {tensors : List IoTensor} {engine : TrtEngine} {input : BoundTensor}
    (allocated : allocateBindings cfg inputName tensors = .ok engine)
    (chosen : engine.bindings[engine.inputIdx]? = some input) :
    ∃ tensor ∈ tensors, tensor.isInput = true ∧
      input.toTensorBinding = allocateBinding cfg tensor := by
  unfold allocateBindings at allocated
  dsimp only at allocated
  split at allocated
  · cases allocated
  · next found =>
      cases allocated
      obtain ⟨hinside, hfound⟩ := List.findIdx?_eq_some_iff_getElem.mp found
      obtain ⟨hbound, rfl⟩ := List.getElem?_eq_some_iff.mp chosen
      have hisInput := (Bool.and_eq_true _ _ ▸ hfound.1).1
      rw [List.getElem_mapIdx] at hisInput ⊢
      exact ⟨_, List.getElem_mem _, hisInput, rfl⟩

/-! The frame. -/

theorem ofSample_stride {nowMonoNs : UInt64} {sample : GstSample}
    (valid : (Frame.ofSample nowMonoNs sample).1.valid)
    (height : 1 ≤ (Frame.ofSample nowMonoNs sample).1.height) :
    (Frame.ofSample nowMonoNs sample).1.stride =
      (Frame.ofSample nowMonoNs sample).1.size /
        (Frame.ofSample nowMonoNs sample).1.height := by
  unfold Frame.ofSample at valid height ⊢
  cases hbuffer : sample.buffer with
  | none => simp [hbuffer, Frame.valid, Frame.empty] at valid
  | some buf =>
      cases hcaps : sample.caps with
      | none => simp [hbuffer, hcaps, Frame.valid, Frame.empty] at valid
      | some caps =>
          cases hmapping : buf.mapping with
          | none =>
              simp [hbuffer, hcaps, hmapping, Frame.valid, Frame.empty] at valid
          | some map =>
              simp only [hbuffer, hcaps, hmapping] at height ⊢
              exact if_pos height

theorem Frame.Whole.sizes {frame : Frame} (whole : frame.Whole)
    {dstW dstH : Int} (width : 1 ≤ dstW) (height : 1 ≤ dstH) :
    Sizes frame.width frame.height dstW dstH :=
  ⟨whole.width, whole.height, width, height⟩

/-- The rows of a whole frame hold its pixels, and fit its buffer. -/
theorem Frame.Whole.rows {frame : Frame} (whole : frame.Whole)
    (stride : frame.stride = frame.size / frame.height) :
    3 * frame.width ≤ frame.stride ∧
      frame.height * frame.stride ≤ frame.size := by
  have hheight : 0 < frame.height := whole.height
  rw [stride]
  exact ⟨Int.le_ediv_of_mul_le hheight whole.size,
    Int.mul_ediv_self_le (by omega)⟩

theorem placement_valid {srcW srcH dstW dstH : Int}
    (sizes : Sizes srcW srcH dstW dstH) :
    (placement srcW srcH dstW dstH : Placement ℚ).toLetterboxInfo.Valid :=
  ⟨sizes.scale_pos, sizes.srcW, sizes.srcH⟩

/-! The detections. -/

section Decoding

variable {rows cols : Int} {lb : LetterboxInfo ℚ} {pp : PostProcessConfig ℚ}
variable {memory : Int → ℚ} {det : Detection ℚ}

/-- What each detection is like, wherever it comes from. -/
structure Presentable (lb : LetterboxInfo ℚ) (pp : PostProcessConfig ℚ)
    (det : Detection ℚ) : Prop where
  inFrame : det.InFrame lb
  confident : pp.confThreshold ≤ det.score
  known : 0 ≤ det.classId
  labelled : det.classId < pp.numClasses

theorem decodeYolo_presentable (scoreSort : ScoreSort ℚ) (valid : lb.Valid)
    (member : det ∈ (decodeYolo scoreSort.sort rows cols lb pp).value memory) :
    Presentable lb pp det := by
  simp only [decodeYolo, Reading.value_bind, Reading.value_pure,
    decodeRaw_value] at member
  have hraw := (scoreSort.permutes _).subset
    ((nms_sublist scoreSort _ pp.iouThreshold pp.maxDetections).subset member)
  obtain ⟨box, _, hbox⟩ := List.mem_filterMap.mp hraw
  obtain ⟨hframe, hscore, hlow, hhigh⟩ := decodeCandidate_some valid hbox
  exact ⟨hframe, hscore, hlow, hhigh⟩

theorem decodeYolo_length (scoreSort : ScoreSort ℚ)
    (positive : 1 ≤ pp.maxDetections) :
    (((decodeYolo scoreSort.sort rows cols lb pp).value memory).length : Int) ≤
      pp.maxDetections := by
  simp only [decodeYolo, Reading.value_bind, Reading.value_pure]
  exact nms_length scoreSort _ _ positive

end Decoding

/-! What is published. -/

structure BoundingBox2D.Inside (bbox : BoundingBox2D ℚ) (frame : Frame) :
    Prop where
  sizeX : 0 ≤ bbox.sizeX
  sizeY : 0 ≤ bbox.sizeY
  left : 0 ≤ bbox.centerX - bbox.sizeX / 2
  top : 0 ≤ bbox.centerY - bbox.sizeY / 2
  right : bbox.centerX + bbox.sizeX / 2 ≤ frame.width
  bottom : bbox.centerY + bbox.sizeY / 2 ≤ frame.height

/-- Frame `index` on the bus tells of detection `index` of the message. -/
structure Shows (frame : Frame) (message : Detection2DArray ℚ) (index : Nat)
    (received : ReceivedDetection) : Prop where
  position : received.index = index
  total : received.total = min message.detections.length 255
  shown : ∃ detection, message.detections[index]? = some detection ∧
    toString received.classId = detection.id ∧
    WithinBelow (1 / 65535) (detection.bbox.centerX / frame.width)
      received.centerX ∧
    WithinBelow (1 / 65535) (detection.bbox.centerY / frame.height)
      received.centerY

section Publishing

variable {frame : Frame} {lb : LetterboxInfo ℚ} {det : Detection ℚ}

theorem detection2D_inside (header : Header) (srcW : lb.srcW = frame.width)
    (srcH : lb.srcH = frame.height) (inFrame : det.InFrame lb) :
    (detection2D header det).bbox.Inside frame := by
  obtain ⟨hx, hy, hw, hh, hright, hbottom⟩ := inFrame
  rw [srcW] at hright
  rw [srcH] at hbottom
  constructor
  · exact hw
  · exact hh
  · simp only [detection2D]
    linarith
  · simp only [detection2D]
    linarith
  · simp only [detection2D]
    linarith
  · simp only [detection2D]
    linarith

/-- Inside the frame the clamp of a centre changes nothing. -/
theorem centre_clamp {start span : ℚ} {extent : Int} (positive : 1 ≤ extent)
    (low : 0 ≤ start) (nonneg : 0 ≤ span) (high : start + span ≤ extent) :
    stdClamp ((start + span / 2) / extent) 0 1 =
      (start + span * 0.5) / extent := by
  have hextent : (0 : ℚ) < extent := by
    exact_mod_cast positive
  have hlow : 0 ≤ (start + span / 2) / extent :=
    div_nonneg (by linarith) hextent.le
  have hhigh : (start + span / 2) / extent ≤ 1 :=
    (div_le_one hextent).mpr (by linarith)
  rw [stdClamp, if_neg (not_lt.mpr hlow), if_neg (not_lt.mpr hhigh)]
  congr 2
  norm_num
  ring

theorem publish_shows {publisher : SocketCanPublisher}
    {call : Publication ℚ} {pp : PostProcessConfig ℚ} (header : Header)
    (opened : 0 ≤ publisher.fd) (width : 1 ≤ call.frameW)
    (height : 1 ≤ call.frameH) (frameW : call.frameW = frame.width)
    (frameH : call.frameH = frame.height) (srcW : lb.srcW = frame.width)
    (srcH : lb.srcH = frame.height)
    (presentable : ∀ det ∈ call.dets, Presentable lb pp det)
    (numClasses : pp.numClasses ≤ 256) {index : Nat} {fr : CanFrame}
    (sent : (publisher.publish call).frames[index]? = some fr) :
    Shows frame (publish header call.dets) index (readFrame fr) := by
  have hclasses : ∀ d ∈ call.dets, 0 ≤ d.classId ∧ d.classId ≤ 255 := by
    intro d hd
    have hlabel := (presentable d hd).labelled
    exact ⟨(presentable d hd).known, by omega⟩
  have hprefix := publishFrom_prefix call.write (publisher.frameFor call) 0
    call.announced
  rw [← SocketCanPublisher.publish_open opened width height] at hprefix
  obtain ⟨hsent, rfl⟩ := List.getElem?_eq_some_iff.mp sent
  obtain ⟨hknown, describes⟩ := publishFrom_describes hclasses hprefix hsent
  obtain ⟨hx, hy, hw, hh, hright, hbottom⟩ :=
    (presentable _ (List.getElem_mem hknown)).inFrame
  rw [srcW, ← frameW] at hright
  rw [srcH, ← frameH] at hbottom
  have hcenterX := describes.centerX
  have hcenterY := describes.centerY
  rw [centre_clamp width hx hw hright, frameW] at hcenterX
  rw [centre_clamp height hy hh hbottom, frameH] at hcenterY
  constructor
  · exact describes.index
  · simpa [publish] using describes.total
  · refine ⟨detection2D header call.dets[index], ?_, ?_, hcenterX, hcenterY⟩
    · simp [publish, List.getElem?_eq_getElem hknown]
    · exact congrArg toString describes.classId

end Publishing

/-! A turn of the loop. -/

/-- The turn stays in every buffer, and what it publishes is in the frame. -/
structure Served (settings : Settings) (pp : PostProcessConfig ℚ)
    (engine : TrtEngine) (frame : Frame) (perceived : Perceived ℚ) :
    Prop where
  frameReads : ∀ offset ∈ perceived.frameReads,
    0 ≤ offset ∧ offset < frame.size
  blobWrites : ∀ store ∈ perceived.letterboxed.stores,
    0 ≤ store.index ∧ store.index < settings.blobSize.toNat
  copies : InBounds engine settings.blobSize perceived.copies
  outputReads : ∀ output, engine.outputs.head? = some output →
    ∀ index ∈ perceived.outputReads, Readable output.hostSize.toNat index
  boxes : ∀ detection ∈ perceived.message.detections,
    detection.bbox.Inside frame
  confident : ∀ detection ∈ perceived.message.detections,
    pp.confThreshold ≤ detection.score
  bounded : (perceived.message.detections.length : Int) ≤ pp.maxDetections
  canFrames : ∀ index fr, perceived.canFrames[index]? = some fr →
    Shows frame perceived.message index (readFrame fr)

section Turn

variable {settings : Settings} {pp : PostProcessConfig ℚ}
variable {engine : TrtEngine} {frame : Frame}

theorem decodeOutputs_presentable (scoreSort : ScoreSort ℚ)
    {outputs : List BoundTensor} {lb : LetterboxInfo ℚ} (valid : lb.Valid)
    {network : Int → ℚ} :
    ∀ det ∈ (decodeOutputs scoreSort.sort outputs lb pp).value network,
      Presentable lb pp det := by
  cases outputs with
  | nil => simp [decodeOutputs]
  | cons output rest => exact fun _ => decodeYolo_presentable scoreSort valid

theorem decodeOutputs_length (scoreSort : ScoreSort ℚ)
    (outputs : List BoundTensor) (lb : LetterboxInfo ℚ)
    (positive : 1 ≤ pp.maxDetections) (network : Int → ℚ) :
    (((decodeOutputs scoreSort.sort outputs lb pp).value network).length :
      Int) ≤ pp.maxDetections := by
  cases outputs with
  | nil =>
      simp only [decodeOutputs, Reading.value_pure, List.length_nil]
      omega
  | cons output rest => exact decodeYolo_length scoreSort positive

theorem Suits.infer (suits : Suits settings pp engine)
    (allocated : allocateBindings settings.icfg.toInferConfig
      settings.icfg.inputName settings.tensors = .ok engine) :
    ∃ copies, infer engine settings.blobSize = .ok copies ∧
      InBounds engine settings.blobSize copies := by
  obtain ⟨input, loaded⟩ := allocateBindings_loaded allocated
  obtain ⟨tensor, htensor, hisInput, hinput⟩ :=
    allocateBindings_input allocated loaded.input
  have hreads : input.bytes.toNat ≤ settings.blobSize.toNat * 4 := by
    rw [hinput]
    exact input_reads suits.inputW suits.inputH hisInput
      (suits.inputs tensor htensor hisInput)
  have henough : ¬ settings.blobSize < input.bytes / 4 := by
    rw [UInt64.not_lt, UInt64.le_iff_toNat_le, UInt64.toNat_div]
    change input.bytes.toNat / 4 ≤ settings.blobSize.toNat
    omega
  refine ⟨_, ?_, loaded.inBounds hreads⟩
  rw [loaded.infer_eq, if_neg henough]

theorem letterbox_bounded (suits : Suits settings pp engine)
    (whole : frame.Whole) (stride : frame.stride = frame.size / frame.height)
    (bgr : Int → UInt8) :
    let letterbox : Reading UInt8 (Letterboxed ℚ) :=
      letterboxBgrToNchw frame.width frame.height frame.stride
        settings.inputW.toInt settings.inputH.toInt
    (∀ offset ∈ letterbox.reads bgr, 0 ≤ offset ∧ offset < frame.size) ∧
      ∀ store ∈ (letterbox.value bgr).stores,
        0 ≤ store.index ∧ store.index < settings.blobSize.toNat := by
  intro letterbox
  have hsizes := whole.sizes suits.inputW suits.inputH
  obtain ⟨hwide, hfits⟩ := whole.rows stride
  constructor
  · intro offset hoffset
    obtain ⟨y, x, channel, _, hchannel, rfl⟩ := mem_letterbox_reads.mp hoffset
    obtain ⟨hrow, hcol⟩ := hsizes.sample_mem _ y x
    obtain ⟨hlow, hhigh⟩ := frameOffset_mem hrow hcol hchannel hwide
    exact ⟨hlow, hhigh.trans_le hfits⟩
  · intro store hstore
    obtain ⟨y, x, plane, holds, hplane, rfl⟩ := mem_letterbox_stores.mp hstore
    rw [blobSize_toNat suits.inputW suits.inputH, mul_assoc]
    exact hsizes.pixelStore_mem bgr holds hplane

/-- In exact arithmetic, whatever the camera's bytes and the network's output
are: a turn with a whole frame stays in the frame's buffer, the blob, the device
buffers and the host buffers.  Every box of its message lies in the frame, and
the frames on the bus tell of the first of them. -/
theorem processFrame_served {nowMonoNs : UInt64} {sample : GstSample}
    (scoreSort : ScoreSort ℚ) (header : Header) (can : Option CanSink)
    (bgr : Int → UInt8) (network : Int → ℚ)
    (allocated : allocateBindings settings.icfg.toInferConfig
      settings.icfg.inputName settings.tensors = .ok engine)
    (suits : Suits settings pp engine)
    (whole : (Frame.ofSample nowMonoNs sample).1.Whole) :
    ∃ perceived, processFrame scoreSort.sort settings pp header can engine
        (Frame.ofSample nowMonoNs sample).1 bgr network = .ok perceived ∧
      Served settings pp engine (Frame.ofSample nowMonoNs sample).1
        perceived := by
  have hstride := ofSample_stride whole.valid whole.height
  generalize (Frame.ofSample nowMonoNs sample).1 = frame at whole hstride ⊢
  obtain ⟨copies, hcopies, hbounds⟩ := suits.infer allocated
  obtain ⟨hframeReads, hblobWrites⟩ :=
    letterbox_bounded suits whole hstride bgr
  have hvalid :=
    placement_valid (whole.sizes suits.inputW suits.inputH)
  have hpresentable := @decodeOutputs_presentable pp scoreSort engine.outputs
    _ hvalid network
  refine ⟨perceived scoreSort.sort settings pp header can engine.outputs frame
    bgr network copies, ?_, ?_⟩
  · unfold processFrame
    rw [hcopies]
    rfl
  constructor
  · exact hframeReads
  · exact hblobWrites
  · exact hbounds
  · intro output houtput index hindex
    obtain ⟨rest, houtputs⟩ := List.head?_eq_some_iff.mp houtput
    simp only [perceived, houtputs, decodeOutputs] at hindex
    exact readsInside_of_holdsCandidates scoreSort.sort _
      (suits.outputs output houtput) network index hindex
  · intro detection hdetection
    obtain ⟨det, hdet, rfl⟩ := List.mem_map.mp hdetection
    exact detection2D_inside header rfl rfl (hpresentable det hdet).inFrame
  · intro detection hdetection
    obtain ⟨det, hdet, rfl⟩ := List.mem_map.mp hdetection
    exact (hpresentable det hdet).confident
  · simp only [perceived, publish, List.length_map]
    exact decodeOutputs_length scoreSort _ _ suits.maxDetections network
  · intro index fr hsent
    cases can with
    | none => simp [perceived] at hsent
    | some sink =>
        exact publish_shows header sink.opened whole.width whole.height rfl rfl
          rfl rfl hpresentable suits.numClasses hsent

end Turn

/-! Four by two pixels, for an engine that takes four by four. -/

def smallSettings : Settings where
  enginePath := "model_int8.engine"
  inputW := 4
  inputH := 4
  publishCan := true
  tensors := [⟨"images", true, .kFLOAT, [1, 3, -1, -1]⟩,
    ⟨"output0", false, .kFLOAT, [1, 6, 8]⟩]

def smallConfig : PostProcessConfig ℚ :=
  ⟨2, 1 / 4, 9 / 20, 300, true⟩

def smallSink : CanSink where
  publisher := ⟨0x300, 3⟩
  write index := index = 0
  opened := by decide

def smallSample : GstSample :=
  ⟨0, some ⟨some 40, some ⟨65536, 24⟩⟩, some ⟨some 4, some 2⟩⟩

theorem small_whole : (Frame.ofSample 7 smallSample).1.Whole :=
  ⟨by decide, by decide, by decide, by decide⟩

theorem processFrame_served_small :
    ∃ engine, allocateBindings smallSettings.icfg.toInferConfig
        smallSettings.icfg.inputName smallSettings.tensors = .ok engine ∧
      ∃ perceived, processFrame insertionSort.sort smallSettings smallConfig
          ⟨0, "camera_optical"⟩ (some smallSink) engine
          (Frame.ofSample 7 smallSample).1 ramp (fun cell => cell / 4) =
            .ok perceived ∧
        Served smallSettings smallConfig engine
          (Frame.ofSample 7 smallSample).1 perceived := by
  have hinputs : ∀ tensor ∈ smallSettings.tensors, tensor.isInput →
      TakesBlob smallSettings.icfg.toInferConfig tensor := by
    intro tensor htensor hisInput
    rcases List.mem_cons.mp htensor with rfl | hrest
    · exact rfl
    · cases List.mem_singleton.mp hrest
      cases hisInput
  refine ⟨_, rfl, processFrame_served insertionSort _ _ _ _ rfl
    ⟨by decide, by decide, hinputs, ?_, by decide, by decide⟩ small_whole⟩
  intro output houtput
  cases houtput
  exact Or.inr (by decide)

end EmbeddedPortfolio.Detector
