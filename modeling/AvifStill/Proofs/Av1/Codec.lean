import AvifStill.FrameStore
import AvifStill.Proofs.Reading

/-!
# Codecs that can be relied on

What the library may expect of a codec. An encoder is sound when it hands out data and describes each
payload like its frame. A codec is honest when, besides, it gives back every frame that it has coded,
whatever it was asked to code and decode in the meantime. One that writes everything down is honest.
-/

namespace AvifStill

/-- A frame under a colour description. -/
def Frame.withCodePoints (frame : Frame) (cicp : Cicp) : Frame :=
  { frame with cicp := some cicp }

namespace Av1

/-- Whether a payload holds data and is described like the frame it was made of. -/
structure Payload.Suits (payload : Payload) (frame : Frame) : Prop where
  data : payload.data ≠ []
  depth : payload.config.depth = frame.depth
  format : payload.config.format = frame.format

/-- Whether all payloads of an encoder suit their frames. -/
def Encoder.Sound {σ : Type} (encoder : Encoder σ) : Prop :=
  ∀ {frame settings state payload next}, Frame.IsCodedDepth frame.depth →
    encoder.encode frame settings state = (.ok payload, next) → payload.Suits frame

theorem suits_forFrame {frame : Frame} {data : List UInt8} (coded : Frame.IsCodedDepth frame.depth)
    (notEmpty : data ≠ []) :
    (⟨data, .forFrame frame.depth frame.format⟩ : Payload).Suits frame := by
  refine ⟨notEmpty, ?_, ?_⟩
  · rcases coded with isDepth | isDepth | isDepth <;> rw [isDepth] <;> rfl
  · cases frame.format <;> rfl

section Honesty

variable {σ : Type} {encoder : Encoder σ} {decoder : Decoder σ}

/-- A state that calls of the codec, successful or not, lead to. -/
inductive Reaches (encoder : Encoder σ) (decoder : Decoder σ) : σ → σ → Prop where
  | refl (state : σ) : Reaches encoder decoder state state
  | encode {first last : σ} (frame : Frame) (settings : Settings)
      (reaches : Reaches encoder decoder first last) :
      Reaches encoder decoder first (encoder.encode frame settings last).2
  | decode {first last : σ} (data : List UInt8) (config : Config)
      (reaches : Reaches encoder decoder first last) :
      Reaches encoder decoder first (decoder.decode data config last).2

theorem Reaches.trans {first middle last : σ} (earlier : Reaches encoder decoder first middle)
    (later : Reaches encoder decoder middle last) : Reaches encoder decoder first last := by
  induction later with
  | refl => exact earlier
  | encode frame settings _ ih => exact ih.encode frame settings
  | decode data config _ ih => exact ih.decode data config

/-- Whether a codec can be relied on. -/
structure IsHonest (encoder : Encoder σ) (decoder : Decoder σ) : Prop where
  sound : encoder.Sound
  /-- A coded frame is given back with the code points of its settings. -/
  answers : ∀ {frame settings before payload after later}, Frame.IsCodedDepth frame.depth →
    encoder.encode frame settings before = (.ok payload, after) →
    Reaches encoder decoder after later →
    ∀ config : Config, config.depth = frame.depth → config.format = frame.format →
      ∃ fullRange, (decoder.decode payload.data config later).1 =
        .ok (frame.withCodePoints { settings.cicp with fullRange := fullRange })

end Honesty

end Av1

theorem FrameStore.sound_encoder (failingCall : Option Nat) : (encoder failingCall).Sound := by
  intro frame settings state payload next coded answered
  simp only [encoder, keep] at answered
  split at answered
  · cases answered
  · cases answered
    exact Av1.suits_forFrame coded (by simp [payloadData])

/-! ## A codec that writes everything down -/

namespace Ledger

open Av1

/-- The payload of a frame is as long as the number of frames written down with it. -/
def encoder : Encoder (List Frame) where
  encode frame settings frames :=
    (.ok ⟨List.replicate (frames.length + 1) 0, .forFrame frame.depth frame.format⟩,
      frames ++ [frame.withCodePoints settings.cicp])

def decoder : Decoder (List Frame) where
  decode data _ frames :=
    (match frames[data.length - 1]? with
      | some frame => .ok frame
      | none => .error (.decode (.codec "not written down")), frames)

theorem getElem?_of_reaches {before after : List Frame} (reaches : Reaches encoder decoder before after)
    {index : Nat} {frame : Frame} (found : before[index]? = some frame) :
    after[index]? = some frame := by
  induction reaches with
  | refl => exact found
  | @encode last other settings _ ih =>
      have inside := (List.getElem?_eq_some_iff.mp ih).1
      simp only [encoder]
      rw [List.getElem?_append_left inside]
      exact ih
  | decode data config _ ih => exact ih

theorem isHonest : IsHonest encoder decoder where
  sound := by
    intro frame settings state payload next coded answered
    cases answered
    exact suits_forFrame coded (by simp)
  answers := by
    intro frame settings before payload after later coded answered reaches config _ _
    cases answered
    have written : (before ++ [frame.withCodePoints settings.cicp])[before.length]? =
        some (frame.withCodePoints settings.cicp) := by
      simp
    have kept := getElem?_of_reaches reaches written
    refine ⟨settings.cicp.fullRange, ?_⟩
    simp only [decoder, List.length_replicate, Nat.add_sub_cancel, kept]

end Ledger

end AvifStill
