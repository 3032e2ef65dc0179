import AvifStill.Av1.Codec

/-!
# A codec that keeps frames

Stands where an AV1 codec would: encoding keeps the frame and hands out a short payload whose first
byte names its place, decoding looks the place up. It notes what it was asked for, and can be told
to fail on one call. So whole images can be saved and loaded with every step exact but the coding.
-/

namespace AvifStill

structure FrameStore where
  frames : Array Frame
  /-- What encoding was asked for, oldest call first. -/
  requests : List Av1.Settings
  /-- The configuration records that decoding was given, oldest call first. -/
  records : List (List UInt8)

namespace FrameStore

def ofFrames (frames : Array Frame) : FrameStore := ⟨frames, [], []⟩

/-- Forgets the notes on calls, not the frames. -/
def withoutNotes (store : FrameStore) : FrameStore := ofFrames store.frames

/-- The frame as kept: described by the settings, in its own range. -/
def described (frame : Frame) (settings : Av1.Settings) : Frame :=
  { frame with cicp := some { settings.cicp with fullRange := frame.range.isFull } }

/-- One to seven bytes that all name the place of a frame. -/
def payloadData (frame : Frame) (place : Nat) : List UInt8 :=
  List.replicate (1 + frame.width * frame.height % 7) (UInt8.ofNat place)

/-- Keeps a frame, unless this is the call that has to fail. -/
def keep (failingCall : Option Nat) (frame : Frame) (settings : Av1.Settings) (store : FrameStore) :
    Except Fault Av1.Payload × FrameStore :=
  let call := store.requests.length + 1
  let store := { store with requests := store.requests ++ [settings] }
  if failingCall = some call then (.error (.encode s!"encoder failed on call {call}"), store)
  else
    (.ok ⟨payloadData frame store.frames.size, .forFrame frame.depth frame.format⟩,
      { store with frames := store.frames.push (described frame settings) })

/-- The frame that a payload names. -/
def find (store : FrameStore) : List UInt8 → Except Fault Frame
  | [] => .error (.decode (.codec "empty payload"))
  | place :: _ =>
      match store.frames[place.toNat]? with
      | some frame => .ok frame
      | none => .error (.decode (.codec s!"no frame {place}"))

def encoder (failingCall : Option Nat) : Av1.Encoder FrameStore :=
  ⟨keep failingCall⟩

def decoder : Av1.Decoder FrameStore where
  decode data config store :=
    (store.find data, { store with records := store.records ++ [config.toBytes] })

end FrameStore

end AvifStill
