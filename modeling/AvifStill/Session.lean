import AvifStill.FrameStore
import AvifStill.Load
import AvifStill.Save

/-!
# Sessions

A session holds a file, a raster, a container and a store of frames, and works on them step by step:
it saves and loads, takes files apart and puts them together, and damages them on purpose. A step
that fails leaves everything but the frame store as it was.
-/

namespace AvifStill

structure Session where
  file : Bytes
  raster : Option Raster
  container : Option Container
  store : FrameStore

namespace Session

/-- A session at its start. -/
def start (file : Bytes) (frames : Array Frame) : Session :=
  ⟨file, none, none, .ofFrames frames⟩

def currentRaster (session : Session) : Except Fault Raster :=
  session.raster.elim (.error (.invalidInput .noRaster)) .ok

def currentContainer (session : Session) : Except Fault Container :=
  session.container.elim (.error (.invalidInput .noContainer)) .ok

/-- Keeps a value that a step produced. -/
def keeping {α : Type} (session : Session) (update : Session → α → Session) :
    Except Fault α → Except Fault α × Session
  | .ok value => (.ok value, update session value)
  | .error fault => (.error fault, session)

/-! ## Rasters -/

def setRaster (session : Session) (raster : Raster) : Session :=
  { session with raster := some raster }

/-- Replaces the current raster by one computed from it. -/
def mapRaster (session : Session) (change : Raster → Raster) : Except Fault Raster × Session :=
  session.keeping setRaster (session.currentRaster.map change)

/-- Applies transforms to the current raster, and tells which crop was made. -/
def transform (session : Session) (transforms : Transforms) :
    Except Fault (Raster × Option CropRect) × Session :=
  session.keeping (fun session result => session.setRaster result.1)
    (session.currentRaster.map transforms.apply)

/-! ## Files -/

def setFile (session : Session) (file : Bytes) : Session :=
  { session with file := file }

/-- Overwrites bytes from a place on; what would lie beyond the end is left out. -/
def patch (session : Session) (place : Nat) (bytes : Bytes) : Session :=
  let file := session.file
  session.setFile <|
    file.take place ++ (bytes.take (file.length - place) ++ file.drop (place + bytes.length))

/-- Cuts the file to at most so many bytes. -/
def truncate (session : Session) (length : Nat) : Session :=
  session.setFile (session.file.take length)

def append (session : Session) (bytes : Bytes) : Session :=
  session.setFile (session.file ++ bytes)

/-! ## Containers -/

def setContainer (session : Session) (container : Container) : Session :=
  { session with container := some container }

/-- Takes the file apart. -/
def parse (session : Session) : Except Fault Container × Session :=
  session.keeping setContainer (Container.parse session.file)

/-- Replaces the current container by one computed from it. -/
def edit (session : Session) (change : Container → Container) :
    Except Fault Container × Session :=
  session.keeping setContainer (session.currentContainer.map change)

/-- Writes the current container as the file. -/
def serialize (session : Session) : Except Fault Bytes × Session :=
  session.keeping setFile (session.currentContainer.bind (·.serialize))

/-! ## Frames -/

/-- Replaces a frame of the store; nothing happens at a place that has none. -/
def setFrame (session : Session) (place : Nat) (frame : Frame) : Session :=
  let store := { session.store with frames := session.store.frames.setIfInBounds place frame }
  { session with store := store }

/-! ## Saving and loading -/

/-- What a save is given besides the raster. -/
structure SaveRequest where
  color : Color.RasterColor
  options : EncodeOptions
  metadata : Metadata
  /-- The call on which encoding fails. -/
  failingCall : Option Nat

/-- Saves the current raster; the store's notes are those of this save. -/
def save (session : Session) (request : SaveRequest) :
    Except Fault (SavedImage.Run FrameStore) × Session :=
  match session.currentRaster with
  | .error fault => (.error fault, session)
  | .ok raster =>
      let run := SavedImage.save raster request.color request.options request.metadata
        (FrameStore.encoder request.failingCall) session.store.withoutNotes
      let file := (run.result.map (·.file)).toOption.getD session.file
      (.ok run, { session with file := file, store := run.state })

/-- Loads the file, whose raster becomes the current one; the store's notes are of this load. -/
def load (session : Session) (options : DecodeOptions) : Except Fault LoadedImage × Session :=
  let (result, store) := LoadedImage.load options FrameStore.decoder session.file
    session.store.withoutNotes
  { session with store := store }.keeping (fun session image => session.setRaster image.raster)
    result

end Session

end AvifStill
