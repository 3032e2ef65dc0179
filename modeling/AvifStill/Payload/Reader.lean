import AvifStill.Item.Directory
import AvifStill.Payload.Layout

/-!
# Payloads

The strict reading of a file, which yields the coded data of its image and of its alpha image. What
else belongs to the image (metadata, a gain map, a depth image) has to be readable but is not kept.
-/

namespace AvifStill.Payload

open Window Item

/-- What a strict reading yields. -/
structure Payloads where
  primary : Bytes
  alpha : Option Bytes
  premultiplied : Bool
  deriving DecidableEq, Repr

/-- The name of depth images. -/
def depthName : Bytes := .ofText "urn:mpeg:mpegB:cicp:systems:auxiliary:depth"

/-- An older name of depth images. -/
def olderDepthName : Bytes := .ofText "urn:mpeg:hevc:2015:auxid:2"

namespace Table

/-- The names of auxiliary images that an item is linked to. -/
def namesOf (table : Table) (item : Nat) : List Bytes :=
  (table.links.filter fun link => link.item == item).filterMap fun link =>
    (table.properties[link.index - 1]?).join

/-- The sources of references of a kind to an item, in order. -/
def sourcesOf (table : Table) (kind : FourCC) (target : Nat) : List Nat :=
  (table.references.filter fun reference =>
    reference.kind == kind && reference.target == target).map (·.source)

def alphaItem? (table : Table) (primary : Nat) : Option Nat :=
  (table.sourcesOf .auxl primary).find? fun source =>
    source != primary && (table.namesOf source).contains alphaName

def depthItem? (table : Table) (primary : Nat) (alpha : Option Nat) : Option Nat :=
  (table.sourcesOf .auxl primary).find? fun source =>
    source != primary && some source != alpha &&
      ((table.namesOf source).any fun name => name == depthName || name == olderDepthName)

/-- What an item is derived from, in order. -/
def inputsOf (table : Table) (item : Nat) : List Nat :=
  (table.references.filter fun reference =>
    reference.kind == .dimg && reference.source == item).map (·.target)

/-- The first tone mapping of the primary item, with its gain map, the second of its inputs. -/
def toneMapping? (table : Table) (entries : List Entry) (primary : Nat) : Option (Nat × Nat) :=
  entries.findSome? fun entry =>
    if entry.kind = .tmap then
      match table.inputsOf entry.item with
      | base :: gainMap :: _ => if base = primary then some (entry.item, gainMap) else none
      | _ => none
    else none

end Table

/-- A tone mapping: the headrooms of both images and five fractions for each channel. -/
def scanToneMapping : Scan Unit := do
  require ((← nat 1) == 0)
  require ((← nat 2) == 0)
  skip 2
  let flags ← nat 1
  skip 16
  skip (if flags / 128 = 1 then 120 else 40)

/-- What has been taken out of the media boxes so far. -/
structure Gathered where
  primary : Bytes
  alpha : Option Bytes
  media : List Media

/-- Takes out the data of a location if it belongs to the image or its alpha image. -/
def Gathered.step (itemData : Option Bytes) (primary : Nat) (alpha : Option Nat)
    (gathered : Gathered) (location : Location) : Except Fault Gathered :=
  if location.item = primary then do
    let (bytes, media) ← readLocation itemData location gathered.media
    return { gathered with primary := gathered.primary ++ bytes, media }
  else if some location.item = alpha then do
    let (bytes, media) ← readLocation itemData location gathered.media
    return { gathered with alpha := some (gathered.alpha.getD [] ++ bytes), media }
  else .ok gathered

/-- Takes out the data of an item that nothing is kept of; an item without location has none. -/
def discard (table : Table) (locations : List Location) (item : Nat) (media : List Media) :
    Except Fault (Option Bytes × List Media) :=
  match locations.find? fun location => location.item == item with
  | some location => do
      let (bytes, media) ← readLocation table.itemData location media
      return (some bytes, media)
  | none => return (none, media)

/-- Blocks of metadata about the primary item, in order. -/
def metadataItems (table : Table) (entries : List Entry) (primary : Nat) : List Nat :=
  (table.sourcesOf .cdsc primary).filter fun source =>
    (entries.find? fun entry => entry.item == source).any fun entry =>
      entry.kind == .exif || entry.kind == .mime

/-- Takes out what a tone mapping and its gain map hold; the mapping itself has to be readable. -/
def checkToneMapping (table : Table) (locations : List Location) (mapping gainMap : Nat)
    (media : List Media) : Except Fault (List Media) := do
  let (content, media) ← discard table locations mapping media
  if let some content := content then
    let _ ← scanToneMapping content
  return (← discard table locations gainMap media).2

/-- Takes out all that belongs to an image beside its payloads, which has to be readable. -/
def checkCompanions (table : Table) (entries : List Entry) (locations : List Location)
    (primary : Nat) (alpha : Option Nat) (media : List Media) : Except Fault Unit := do
  let media ← (metadataItems table entries primary).foldlM
    (fun media item => return (← discard table locations item media).2) media
  let media ← match table.toneMapping? entries primary with
    | some (mapping, gainMap) => checkToneMapping table locations mapping gainMap media
    | none => pure media
  if let some depth := table.depthItem? primary alpha then
    let _ ← discard table locations depth media

/-- Reads the payloads of a file. -/
def Payloads.read (file : Bytes) : Except Fault Payloads := do
  let layout ← Layout.ofFile file
  let some table := layout.table | throw .container
  let some primary := table.primary | throw .container
  let some entries := table.entries | throw .container
  let some locations := table.locations | throw .container
  let some entry := entries.find? fun entry => entry.item == primary | throw .container
  if entry.kind ≠ .av01 ∧ entry.kind ≠ .grid then throw .container
  let alpha := table.alphaItem? primary
  let gathered ← locations.foldlM (Gathered.step table.itemData primary alpha)
    ⟨[], none, layout.media⟩
  checkCompanions table entries locations primary alpha gathered.media
  let premultiplied := alpha.any fun item =>
    table.references.any fun reference =>
      reference.kind == .prem && reference.source == primary && reference.target == item
  return ⟨gathered.primary, gathered.alpha, premultiplied⟩

end AvifStill.Payload
