import AvifStill.Av1.Config
import AvifStill.Bytes
import AvifStill.Transform

/-!
# Containers

What an image file holds: a coded image, perhaps a coded alpha image, its colour description, the
transforms to show it with, and metadata.
-/

namespace AvifStill

/-- A coded image item. -/
structure CodedImage where
  data : Bytes
  config : Av1.Config
  width : UInt32
  height : UInt32
  deriving DecidableEq, Repr

structure Container where
  color : CodedImage
  alpha : Option CodedImage
  cicp : Option Cicp
  icc : Option Bytes
  transforms : Transforms
  /-- The payload of the Exif item, with the offset it starts with. -/
  exifItem : Option Bytes
  xmp : Option Bytes
  /-- Whether colour is stored multiplied by alpha. -/
  premultiplied : Bool
  deriving DecidableEq, Repr

end AvifStill
