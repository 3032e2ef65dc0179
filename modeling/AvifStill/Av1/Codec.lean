import AvifStill.Av1.Config
import AvifStill.Frame

/-!
# The codec's side

Coding and decoding the bitstream is not this library's work. An `Encoder` or a `Decoder` is any
pair of a state and a step, so a codec may remember earlier calls and fail on any of them, and a law
about all codecs quantifies over the steps.
-/

namespace AvifStill.Av1

/-- Which encoder a caller would like. -/
inductive CodecChoice where
  | auto
  | rav1e
  | aom
  | svt
  deriving DecidableEq, Repr

/-- What an encoder is told about one frame. -/
structure Settings where
  leastQuantizer : Nat
  mostQuantizer : Nat
  speed : Nat
  codec : CodecChoice
  threads : Nat
  tileColumnsLog2 : Nat
  tileRowsLog2 : Nat
  timescale : Nat
  cicp : Cicp
  isAlpha : Bool
  deriving DecidableEq, Repr

/-- A coded frame and its configuration record. -/
structure Payload where
  data : List UInt8
  config : Config
  deriving DecidableEq, Repr

/-- A codec that turns frames into payloads, one call at a time. -/
structure Encoder (σ : Type) where
  encode : Frame → Settings → σ → Except Fault Payload × σ

/-- A codec that turns payloads into frames, one call at a time. -/
structure Decoder (σ : Type) where
  decode : List UInt8 → Config → σ → Except Fault Frame × σ

end AvifStill.Av1
