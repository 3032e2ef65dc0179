import AvifStill.Item.Location
import AvifStill.Payload.Window

/-!
# Media boxes

Where the data of items is taken from. Data in the file itself is found in media boxes; an extent
that is exactly what a media box still holds takes it away, so that it cannot be read again.
-/

namespace AvifStill.Payload

open Item

/-- A media box: where its content starts in the file, and what it still holds. -/
structure Media where
  offset : Nat
  content : Bytes

namespace Media

/-- Whether an extent is exactly what a media box holds. -/
def isMatch (media : Media) (start length : Nat) : Bool :=
  media.offset == start && (length == 0 || media.content.length == length)

/-- Whether an extent starts in what a media box holds. -/
def holdsStart (media : Media) (start : Nat) : Bool :=
  media.offset ≤ start && start < media.offset + media.content.length

/-- Reads an extent from the first media box that matches it or holds its start. -/
def readExtent (start length : Nat) : List Media → Except Fault (Bytes × List Media)
  | [] => .error .container
  | media :: others =>
      if media.isMatch start length then .ok (media.content, { media with content := [] } :: others)
      else if media.holdsStart start then
        let first := start - media.offset
        let stop := if length = 0 then media.content.length else first + length
        match media.content.slice? first stop with
        | some bytes => .ok (bytes, media :: others)
        | none => .error .container
      else do
        let (bytes, others) ← readExtent start length others
        return (bytes, media :: others)

end Media

/-- Reads an extent of the directory's own data. -/
def readItemData (itemData : Option Bytes) (start length : Nat) : Except Fault Bytes :=
  match itemData with
  | none => .error .container
  | some content =>
      if length = 0 then
        if start < content.length then .ok (content.drop start) else .error .container
      else
        match content.slice? start (start + length) with
        | some bytes => .ok bytes
        | none => .error .container

/-- Reads all extents of a location. -/
def readLocation (itemData : Option Bytes) (location : Location) (media : List Media) :
    Except Fault (Bytes × List Media) :=
  location.extents.foldlM
    (fun (bytes, media) extent => do
      let start := location.baseOffset + extent.offset
      match location.source with
      | .file =>
          let (more, media) ← Media.readExtent start extent.length media
          return (bytes ++ more, media)
      | .itemData => return (bytes ++ (← readItemData itemData start extent.length), media))
    ([], media)

end AvifStill.Payload
