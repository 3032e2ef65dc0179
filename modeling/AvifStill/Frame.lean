import AvifStill.Cicp
import AvifStill.Fault
import AvifStill.Grid
import AvifStill.Sample

/-!
# Planar frames

A frame is one image as the AV1 codec sees it: a luma plane, two chroma planes unless it is
monochrome, and the depth, chroma format and sample range they are coded in. Samples are held in 16
bits at every depth.
-/

namespace AvifStill

abbrev Plane := Grid UInt16

structure Frame where
  depth : Nat
  format : ChromaFormat
  range : SampleRange
  /-- The colour description of the sequence header, where the decoder reports one. -/
  cicp : Option Cicp
  luma : Plane
  cb : Option Plane
  cr : Option Plane

namespace Frame

def width (frame : Frame) : Nat := frame.luma.width

def height (frame : Frame) : Nat := frame.luma.height

/-- The largest sample at the frame's depth. -/
def maxValue (frame : Frame) : Nat := Sample.maxValue frame.depth

/-- The depths that can be coded. -/
def IsCodedDepth (depth : Nat) : Prop := depth = 8 ∨ depth = 10 ∨ depth = 12

instance (depth : Nat) : Decidable (IsCodedDepth depth) :=
  inferInstanceAs (Decidable (_ ∨ _ ∨ _))

/-- Whether planes of this size and depth can be made; a plane is addressed with 64 bits. -/
def checkShape (width height depth : Nat) : Except Fault Unit :=
  if width = 0 ∨ height = 0 then .error (.invalidInput .zeroFrame)
  else if ¬IsCodedDepth depth then .error (.invalidInput .codecDepth)
  else if UInt64.size ≤ width * height then .error (.invalidInput .frameOverflow)
  else .ok ()

/-- A frame of zero samples with planes of the right sizes. -/
def blank (width height depth : Nat) (format : ChromaFormat) (range : SampleRange) :
    Except Fault Frame := do
  checkShape width height depth
  let chroma : Option Plane :=
    if format.isMonochrome then none
    else
      let size := format.chromaSize width height
      some (.build size.1 size.2 fun _ _ => 0)
  return {
    depth := depth
    format := format
    range := range
    cicp := none
    luma := .build width height fun _ _ => 0
    cb := chroma
    cr := chroma }

/-- A chroma plane has to be there and to have the size that the format asks for. -/
def checkChroma (expected : Nat × Nat) : Option Plane → Except Fault Unit
  | some plane =>
      if (plane.width, plane.height) = expected then .ok () else .error (.decode .chromaSize)
  | none => .error (.decode .noChroma)

/-- Checks the depth, and unless the frame is monochrome that the planes agree with the format. -/
def validate (frame : Frame) : Except Fault Unit :=
  if ¬IsCodedDepth frame.depth then .error (.decode (.depth frame.depth))
  else if frame.format.isMonochrome then .ok ()
  else do
    let expected := frame.format.chromaSize frame.width frame.height
    checkChroma expected frame.cb
    checkChroma expected frame.cr

end Frame

end AvifStill
