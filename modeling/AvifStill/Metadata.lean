import AvifStill.Bytes
import AvifStill.Fault

/-!
# Metadata

Exif and XMP blocks that travel with an image. In a file an Exif block follows a number that says
how many bytes to skip; blocks handed to and from callers are without it.
-/

namespace AvifStill

structure Metadata where
  exif : Option Bytes
  xmp : Option Bytes
  deriving DecidableEq, Repr

namespace Metadata

def isEmpty (metadata : Metadata) : Bool :=
  metadata.exif.isNone && metadata.xmp.isNone

/-- The Exif block of an item: what follows the number of bytes to skip, and those bytes. -/
def exifOfItem (item : Bytes) : Except Fault Bytes :=
  if ¬item.hasAtLeast 4 then .error (.parse .exifTooShort)
  else
    let skipped := Bytes.toNat (item.take 4)
    let rest : Bytes := item.drop 4
    if rest.hasAtLeast skipped then .ok (rest.drop skipped) else .error (.parse .exifOffset)

/-- The item of an Exif block, with nothing to skip; blocks too short for a header have none. -/
def exifToItem? (exif : Bytes) : Option Bytes :=
  if exif.hasAtLeast 4 then some (Bytes.ofNat 4 0 ++ exif) else none

end Metadata

end AvifStill
