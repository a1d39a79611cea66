import Mathlib.Algebra.Order.Field.Rat
import Mathlib.Tactic.Ring

namespace EmbeddedPortfolio.Detector

universe u

/-! Boxes of the detector, over any number type with the operations the code
applies to `float`. -/

structure Detection (Real : Type u) where
  x : Real
  y : Real
  w : Real
  h : Real
  score : Real
  classId : Int
deriving DecidableEq, Repr

structure LetterboxInfo (Real : Type u) where
  scale : Real
  padX : Int
  padY : Int
  srcW : Int
  srcH : Int
deriving DecidableEq, Repr

structure PostProcessConfig (Real : Type u) where
  numClasses : Int
  confThreshold : Real
  iouThreshold : Real
  maxDetections : Int
  transposed : Bool
deriving DecidableEq, Repr

section StandardLibrary

variable {Real : Type u} [LT Real] [DecidableLT Real]

def stdMax (first second : Real) : Real :=
  if first < second then second else first

def stdMin (first second : Real) : Real :=
  if second < first then second else first

-- The library leaves `high < low` undefined.
def stdClamp (value low high : Real) : Real :=
  if value < low then low else if high < value then high else value

end StandardLibrary

section Boxes

variable {Real : Type u}
variable [Add Real] [Sub Real] [Mul Real] [Div Real] [Zero Real]
variable [LT Real] [DecidableLT Real]

def intersection (a b : Detection Real) : Real :=
  let iw := stdMax 0 (stdMin (a.x + a.w) (b.x + b.w) - stdMax a.x b.x)
  let ih := stdMax 0 (stdMin (a.y + a.h) (b.y + b.h) - stdMax a.y b.y)
  iw * ih

def iou (a b : Detection Real) : Real :=
  let inter := intersection a b
  let uni := a.w * a.h + b.w * b.h - inter
  if 0 < uni then inter / uni else 0

/-- The box with `score` and `class_id` still at zero. -/
def unletterbox [IntCast Real] [OfScientific Real]
    (cx cy bw bh : Real) (lb : LetterboxInfo Real) : Detection Real :=
  let x := (cx - bw * 0.5 - (lb.padX : Real)) / lb.scale
  let y := (cy - bh * 0.5 - (lb.padY : Real)) / lb.scale
  let w := bw / lb.scale
  let h := bh / lb.scale
  let x := stdClamp x 0 ((lb.srcW - 1 : Int) : Real)
  let y := stdClamp y 0 ((lb.srcH - 1 : Int) : Real)
  let w := stdClamp w 0 ((lb.srcW : Real) - x)
  let h := stdClamp h 0 ((lb.srcH : Real) - y)
  { x, y, w, h, score := 0, classId := 0 }

end Boxes

theorem stdMax_eq_max (first second : ℚ) :
    stdMax first second = max first second :=
  (max_def_lt first second).symm

theorem stdMin_eq_min (first second : ℚ) :
    stdMin first second = min first second :=
  (min_def_lt second first).symm.trans (min_comm second first)

theorem intersection_comm (a b : Detection ℚ) :
    intersection a b = intersection b a := by
  simp only [intersection, stdMax_eq_max, stdMin_eq_min, max_comm a.x,
    max_comm a.y, min_comm (a.x + a.w), min_comm (a.y + a.h)]

theorem iou_comm (a b : Detection ℚ) : iou a b = iou b a := by
  have harea : a.w * a.h + b.w * b.h = b.w * b.h + a.w * a.h := by ring
  simp only [iou, intersection_comm a b, harea]

end EmbeddedPortfolio.Detector
