import AvifStill.Container.Basic
import AvifStill.Payload.Reader

/-!
# Reading containers

A file is read twice: the item directory with its properties, transforms and metadata leniently, the
payloads strictly. What the two readings say about alpha has to agree, or the file is read without.
-/

namespace AvifStill

open Item Payload

namespace CodedImage

/-- The last codec configuration among properties. -/
def lastConfig? (properties : List Property) : Option Av1.Config :=
  properties.foldl
    (fun found property =>
      match property with
      | .config config => some config
      | _ => found)
    none

/-- The last image size among properties. -/
def lastExtent? (properties : List Property) : Option (UInt32 × UInt32) :=
  properties.foldl
    (fun found property =>
      match property with
      | .extent width height => some (width, height)
      | _ => found)
    none

/-- Data with the configuration and size that an item's properties give. -/
def ofProperties (properties : List Property) (data : Bytes) : Except Fault CodedImage :=
  match lastConfig? properties, lastExtent? properties with
  | none, _ => .error (.parse .noConfig)
  | some _, none => .error (.parse .noExtent)
  | some config, some (width, height) => .ok ⟨data, config, width, height⟩

end CodedImage

namespace Container

/-- The first code points among properties. -/
def firstCodePoints? (properties : List Property) : Option Cicp :=
  properties.findSome? fun property =>
    match property with
    | .codePoints cicp => some cicp
    | _ => none

/-- The first profile among properties. -/
def firstProfile? (properties : List Property) : Option Bytes :=
  properties.findSome? fun property =>
    match property with
    | .profile icc => some icc
    | _ => none

/-- The transforms among properties; of each kind the last one counts. -/
def lastTransforms (properties : List Property) : Transforms :=
  properties.foldl
    (fun transforms property =>
      match property with
      | .clap clap => { transforms with clap := some clap }
      | .rotation turns => { transforms with rotation := some turns }
      | .mirror axis => { transforms with mirror := some axis }
      | _ => transforms)
    .none

/-- The alpha image, if both readings of the file found one. -/
def readAlpha (directory : Directory) (payloads : Payloads) : Except Fault (Option CodedImage) :=
  match directory.alphaItem? directory.primary, payloads.alpha with
  | some item, some data =>
      (CodedImage.ofProperties (directory.table.ofItem item) data).map some
  | _, _ => .ok none

/-- Only images coded on their own are read. -/
def checkPrimary (directory : Directory) : Except Fault Unit :=
  match directory.entry? directory.primary with
  | none => .error (.parse .noPrimaryItem)
  | some entry =>
      if entry.kind = .av01 then .ok ()
      else if entry.kind = .grid then .error (.unsupported .gridImage)
      else .error (.unsupported .primaryItemKind)

/-- Reads a file. Metadata that cannot be read is left out. -/
def parse (file : Bytes) : Except Fault Container := do
  let directory ← Directory.ofFile file
  checkPrimary directory
  let payloads ← Payloads.read file
  let properties := directory.table.ofItem directory.primary
  let color ← CodedImage.ofProperties properties payloads.primary
  let alpha ← readAlpha directory payloads
  return {
    color := color
    alpha := alpha
    cicp := firstCodePoints? properties
    icc := firstProfile? properties
    transforms := lastTransforms properties
    exifItem := directory.metadata? file directory.primary fun entry => entry.kind == .exif
    xmp := directory.metadata? file directory.primary fun entry =>
      entry.kind == .mime && entry.contentType == xmpContentType
    premultiplied := alpha.isSome && payloads.premultiplied }

end Container

end AvifStill
