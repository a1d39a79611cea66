import EmbeddedPortfolio.Detector.Nms
import EmbeddedPortfolio.Program.Reading

namespace EmbeddedPortfolio.Detector

open EmbeddedPortfolio.Program

/-! Decoding of the output tensor.  `int` arithmetic is exact: an index that an
`int` cannot hold lies outside every buffer. -/

/-- Where `at(box, attr)` reads. -/
def cellIndex (transposed : Bool) (stride box attr : Int) : Int :=
  if transposed then attr * stride + box else box * stride + attr

def numBoxes (rows cols : Int) (transposed : Bool) : Int :=
  if transposed then cols else rows

def attrCount (rows cols : Int) (transposed : Bool) : Int :=
  if transposed then rows else cols

def classOffset (hasObj : Bool) : Int :=
  if hasObj then 5 else 4

section Argmax

variable {Real : Type} [Zero Real] [LT Real] [DecidableLT Real]

def bestClass (readAttr : Int → Reading Real Real) (clsOff numClasses : Int) :
    Reading Real (Real × Int) :=
  (List.range numClasses.toNat).foldlM
    (fun best (c : Nat) => do
      let s ← readAttr (clsOff + c)
      pure (if best.1 < s then (s, (c : Int)) else best))
    (0, -1)

theorem bestClass_value (readAttr : Int → Reading Real Real)
    (clsOff numClasses : Int) (memory : Int → Real) :
    (bestClass readAttr clsOff numClasses).value memory =
      (List.range numClasses.toNat).foldl
        (fun best (c : Nat) =>
          let s := (readAttr (clsOff + c)).value memory
          if best.1 < s then (s, (c : Int)) else best)
        (0, -1) := by
  simp [bestClass]

theorem bestClass_noClass (readAttr : Int → Reading Real Real) (clsOff : Int)
    {numClasses : Int} (noClass : numClasses ≤ 0) (memory : Int → Real) :
    (bestClass readAttr clsOff numClasses).value memory = (0, -1) := by
  rw [bestClass_value, Int.toNat_of_nonpos noClass]
  rfl

end Argmax

section Code

variable {Real : Type}
variable [Add Real] [Sub Real] [Mul Real] [Div Real] [Zero Real] [One Real]
variable [LT Real] [DecidableLT Real] [IntCast Real] [OfScientific Real]

def hasObjectness (rows cols : Int) (cfg : PostProcessConfig Real) : Bool :=
  attrCount rows cols cfg.transposed = cfg.numClasses + 5

def objectness (readAttr : Int → Reading Real Real) (hasObj : Bool) :
    Reading Real Real :=
  if hasObj then readAttr 4 else pure 1

def decodeCandidate (readAttr : Int → Reading Real Real) (hasObj : Bool)
    (clsOff : Int) (lb : LetterboxInfo Real) (cfg : PostProcessConfig Real) :
    Reading Real (Option (Detection Real)) := do
  let cx ← readAttr 0
  let cy ← readAttr 1
  let bw ← readAttr 2
  let bh ← readAttr 3
  let obj ← objectness readAttr hasObj
  if obj < cfg.confThreshold * 0.5 ∧ hasObj then
    pure none
  else do
    let best ← bestClass readAttr clsOff cfg.numClasses
    let score := best.1 * obj
    if best.2 < 0 ∨ score < cfg.confThreshold then
      pure none
    else
      pure (some { unletterbox cx cy bw bh lb with
        score := score
        classId := best.2 })

def decodeRaw (rows cols : Int) (lb : LetterboxInfo Real)
    (cfg : PostProcessConfig Real) : Reading Real (List (Detection Real)) :=
  let hasObj := hasObjectness rows cols cfg
  Reading.collect
    (fun (box : Nat) => decodeCandidate
      (fun attr => Reading.read (cellIndex cfg.transposed cols box attr))
      hasObj (classOffset hasObj) lb cfg)
    (List.range (numBoxes rows cols cfg.transposed).toNat)

def decodeYolo (sort : List (Detection Real) → List (Detection Real))
    (rows cols : Int) (lb : LetterboxInfo Real) (cfg : PostProcessConfig Real) :
    Reading Real (List (Detection Real)) := do
  let raw ← decodeRaw rows cols lb cfg
  pure (nms sort raw cfg.iouThreshold cfg.maxDetections)

end Code

end EmbeddedPortfolio.Detector
