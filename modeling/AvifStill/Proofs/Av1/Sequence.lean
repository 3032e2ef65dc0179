import AvifStill.Av1.Sequence
import AvifStill.Proofs.Av1.Codec

/-!
# What a still says of itself

The record of an encoded still gives the depth and the format of its frame, and its header gives those
code points that it has a value for. An encoder whose payloads are such stills is sound.
-/

namespace AvifStill.Av1

namespace ColorCodes

/-- The numbers of code points, whether or not they can be written. -/
def plain (cicp : Cicp) : ColorCodes :=
  ⟨cicp.primaries.code, cicp.transfer.code, cicp.matrix.code⟩

def toCicp (codes : ColorCodes) (fullRange : Bool) : Cicp :=
  ⟨⟨codes.primaries⟩, ⟨codes.transfer⟩, ⟨codes.matrix⟩, fullRange⟩

theorem toCicp_plain (cicp : Cicp) (fullRange : Bool) :
    (plain cicp).toCicp fullRange = { cicp with fullRange := fullRange } :=
  rfl

/-- Every name is the value of a header for its own number. -/
@[simp]
theorem primariesName_number (name : ColorPrimaries.Name) : primariesName ⟨name.number⟩ = name := by
  cases name <;> rfl

@[simp]
theorem transferName_number (name : TransferCharacteristics.Name) :
    transferName ⟨name.number⟩ = name := by
  cases name <;> rfl

@[simp]
theorem matrixName_number (name : MatrixCoefficients.Name) : matrixName ⟨name.number⟩ = name := by
  cases name <;> rfl

end ColorCodes

/-- Whether a decoded frame is described as its header says. -/
structure Sequence.Describes (header : Sequence) (frame : Frame) : Prop where
  cicp : frame.cicp = header.color.map (·.toCicp header.isFullRange)
  range : frame.range = .ofFull header.isFullRange

namespace EncodedStill

theorem depth_configOf {frame : Frame} (coded : Frame.IsCodedDepth frame.depth) :
    (configOf frame).depth = frame.depth := by
  rcases coded with isDepth | isDepth | isDepth <;> simp [configOf, Config.depth, isDepth]

theorem format_configOf (frame : Frame) : (configOf frame).format = frame.format := by
  unfold configOf Config.format
  cases frame.format <;> rfl

theorem eq_of_ofFrame {frame : Frame} {settings : Settings} {still : EncodedStill}
    (done : ofFrame frame settings = .ok still) :
    still = ⟨configOf frame, sequenceOf frame settings⟩ := by
  unfold ofFrame at done
  split at done
  · cases done
  · cases done
  all_goals
    rcases done_of_bind done with ⟨-, -, done⟩
    cases done
    rfl

/-- An encoder whose payloads hold a single byte beside what is known of a still. -/
def encoder : Encoder Unit where
  encode frame settings state :=
    ((ofFrame frame settings).map fun still => ⟨[0], still.config⟩, state)

end EncodedStill

namespace Encoder

/-- Whether an encoder makes stills: payloads with data, and with the record of their frame. -/
def MakesStills {σ : Type} (encoder : Encoder σ) : Prop :=
  ∀ {frame settings state payload next},
    encoder.encode frame settings state = (.ok payload, next) →
      payload.data ≠ [] ∧
        ∃ still, EncodedStill.ofFrame frame settings = .ok still ∧ payload.config = still.config

theorem MakesStills.sound {σ : Type} {encoder : Encoder σ} (makes : encoder.MakesStills) :
    encoder.Sound := by
  intro frame settings state payload next coded answered
  rcases makes answered with ⟨notEmpty, still, isStill, sameConfig⟩
  rw [EncodedStill.eq_of_ofFrame isStill] at sameConfig
  refine ⟨notEmpty, ?_, ?_⟩
  · rw [sameConfig]
    exact EncodedStill.depth_configOf coded
  · rw [sameConfig]
    exact EncodedStill.format_configOf frame

end Encoder

theorem EncodedStill.makesStills_encoder : encoder.MakesStills := by
  intro frame settings state payload next answered
  cases done : ofFrame frame settings with
  | error fault =>
      simp only [encoder, done] at answered
      cases answered
  | ok still =>
      simp only [encoder, done] at answered
      cases answered
      exact ⟨by simp, still, rfl, rfl⟩

end AvifStill.Av1
