import AvifStill.Proofs.Container.Payloads

/-!
# Reading a written file

A file that was written from a container is read as this container again, with what the writer
normalizes: the codec configuration is rebuilt from depth and format, the alpha image is said to have
the size of the image, and code points are left out where a profile or a default stands in for them.
This takes every item to have data and a clean aperture to have denominators.
-/

namespace AvifStill.Container

open Item Payload

/-- The code points that are read back, which are those that are written. -/
def readCodePoints? (container : Container) : Option Cicp :=
  match container.icc, container.cicp with
  | none, some cicp => if isWritable cicp ∧ cicp ≠ impliedCodePoints then some cicp else none
  | _, _ => none

/-- The transforms that are read back. -/
def readTransforms (container : Container) : Transforms where
  rotation := container.transforms.rotation.map (· &&& 3)
  mirror := container.transforms.mirror.map (· &&& 1)
  clap := container.transforms.clap

/-- What a written file is read as if the strict reader finds some payloads in it. -/
def readWith (container : Container) (payloads : Payloads) : Container where
  color := ⟨payloads.primary, container.colorRecord.packed, container.color.width,
    container.color.height⟩
  alpha :=
    if container.alpha.isSome then
      payloads.alpha.map fun data =>
        ⟨data, container.alphaRecord.packed, container.color.width, container.color.height⟩
    else none
  cicp := container.readCodePoints?
  icc := container.icc
  transforms := container.readTransforms
  exifItem := container.exifItem.map fun exif => readData ⟨3, exif⟩ container.behindExif
  xmp := container.xmp.map fun xmp => readData ⟨container.xmpItem, xmp⟩ container.behindXmp
  premultiplied := container.alpha.isSome && payloads.alpha.isSome && payloads.premultiplied

/-! ## The properties of the image -/

theorem property_describeColor? (container : Container) :
    container.describeColor?.map (·.property) =
      (container.icc.map Property.profile).or (container.readCodePoints?.map .codePoints) := by
  unfold describeColor? readCodePoints?
  rcases container.icc with _ | icc
  · rcases container.cicp with _ | cicp
    · rfl
    · simp only
      split <;> rfl
  · rfl

/-- Code points are not written beside a profile. -/
theorem readCodePoints?_of_icc {container : Container} {icc : Bytes}
    (isSome : container.icc = some icc) : container.readCodePoints? = none := by
  simp [readCodePoints?, isSome]

theorem properties_color (container : Container) :
    container.colorDescribed.map (·.property) =
      [.extent container.color.width container.color.height, .config container.colorRecord.packed,
        .other] ++
      ((container.icc.map Property.profile).or (container.readCodePoints?.map .codePoints)).toList ++
      (container.readTransforms.rotation.map .rotation).toList ++
      (container.readTransforms.mirror.map .mirror).toList ++
      (container.readTransforms.clap.map .clap).toList := by
  rw [← property_describeColor?]
  unfold colorDescribed readTransforms
  cases container.describeColor? <;> cases container.transforms.rotation <;>
    cases container.transforms.mirror <;> cases container.transforms.clap <;> rfl

theorem ofProperties_color (container : Container) (data : Bytes) :
    CodedImage.ofProperties (container.colorDescribed.map (·.property)) data =
      .ok ⟨data, container.colorRecord.packed, container.color.width, container.color.height⟩ := by
  rw [properties_color]
  cases container.icc <;> cases container.readCodePoints? <;>
    cases container.readTransforms.rotation <;> cases container.readTransforms.mirror <;>
    cases container.readTransforms.clap <;> rfl

theorem firstProfile?_color (container : Container) :
    firstProfile? (container.colorDescribed.map (·.property)) = container.icc := by
  rw [properties_color]
  cases container.icc <;> cases container.readCodePoints? <;>
    cases container.readTransforms.rotation <;> cases container.readTransforms.mirror <;>
    cases container.readTransforms.clap <;> rfl

theorem firstCodePoints?_color (container : Container) :
    firstCodePoints? (container.colorDescribed.map (·.property)) = container.readCodePoints? := by
  rw [properties_color]
  have without := @readCodePoints?_of_icc container
  cases isIcc : container.icc with
  | none =>
      cases container.readCodePoints? <;> cases container.readTransforms.rotation <;>
        cases container.readTransforms.mirror <;> cases container.readTransforms.clap <;> rfl
  | some icc =>
      rw [without isIcc]
      cases container.readTransforms.rotation <;> cases container.readTransforms.mirror <;>
        cases container.readTransforms.clap <;> rfl

theorem lastTransforms_color (container : Container) :
    lastTransforms (container.colorDescribed.map (·.property)) = container.readTransforms := by
  rw [properties_color]
  rcases container.readTransforms with ⟨clap, rotation, mirror⟩
  cases container.icc <;> cases container.readCodePoints? <;> cases rotation <;> cases mirror <;>
    cases clap <;> rfl

/-! ## The whole file -/

theorem readAlpha_directory (container : Container) (payloads : Payloads) :
    readAlpha container.directory payloads = .ok (container.readWith payloads).alpha := by
  have item : container.directory.alphaItem? container.directory.primary =
      container.alpha.map fun _ => 2 := container.alphaItem?_directory
  rw [readAlpha, item, readWith]
  cases isAlpha : container.alpha with
  | none => rfl
  | some alpha =>
      have isSome : container.alpha.isSome = true := by rw [isAlpha]; rfl
      have properties : container.directory.table.ofItem 2 =
          [.extent container.color.width container.color.height,
            .config container.alphaRecord.packed, .auxiliary alphaName, .other] :=
        ofItem_alpha isSome
      cases payloads.alpha with
      | none => rfl
      | some data =>
          simp only [Option.map_some, properties]
          rfl

/-- A written file is read as far as the strict reader finds its payloads. -/
theorem parse_eq {container : Container} (fits : container.toBytes.IsAddressable) :
    parse container.toBytes = (Payloads.read container.toBytes).map container.readWith := by
  have properties : container.directory.table.ofItem container.directory.primary =
      container.colorDescribed.map (·.property) := container.ofItem_color
  rw [parse, bind_of_done (ofFile_toBytes fits), bind_of_done (checkPrimary_directory container)]
  cases found : Payloads.read container.toBytes with
  | error fault => rfl
  | ok payloads =>
      have exif := metadata?_exif fits
      have xmp := metadata?_xmp fits
      have primary : container.directory.primary = 1 := rfl
      rw [bind_of_done rfl, properties, bind_of_done (ofProperties_color container _),
        bind_of_done (readAlpha_directory container payloads), firstProfile?_color,
        firstCodePoints?_color, lastTransforms_color, primary, exif, xmp]
      cases isAlpha : container.alpha <;> cases alphaData : payloads.alpha <;>
        simp [readWith, isAlpha, alphaData, pure, Except.pure, Except.map]

/-- What a written file is read as if every item has data. -/
def readBack (container : Container) : Container where
  color := ⟨container.color.data, container.colorRecord.packed, container.color.width,
    container.color.height⟩
  alpha := container.alpha.map fun alpha =>
    ⟨alpha.data, container.alphaRecord.packed, container.color.width, container.color.height⟩
  cicp := container.readCodePoints?
  icc := container.icc
  transforms := container.readTransforms
  exifItem := container.exifItem
  xmp := container.xmp
  premultiplied := container.alpha.isSome && container.premultiplied

theorem Full.exif {container : Container} (full : container.Full) {exif : Bytes}
    (isExif : container.exifItem = some exif) : exif ≠ [] :=
  full ⟨3, exif⟩ (by simp [storedItems, isExif])

theorem Full.xmp {container : Container} (full : container.Full) {xmp : Bytes}
    (isXmp : container.xmp = some xmp) : xmp ≠ [] :=
  full ⟨container.xmpItem, xmp⟩ (by simp [storedItems, isXmp, xmpItem])

theorem Full.readWith {container : Container} (full : container.Full) :
    container.readWith ⟨container.color.data, container.alpha.map (·.data),
      container.alpha.isSome && container.premultiplied⟩ = container.readBack := by
  have exif : (container.exifItem.map fun exif => readData ⟨3, exif⟩ container.behindExif) =
      container.exifItem := by
    cases isExif : container.exifItem with
    | none => rfl
    | some exif => simp [readData, full.exif isExif]
  have xmp : (container.xmp.map fun xmp =>
      readData ⟨container.xmpItem, xmp⟩ container.behindXmp) = container.xmp := by
    cases isXmp : container.xmp with
    | none => rfl
    | some xmp => simp [readData, full.xmp isXmp]
  rw [Container.readWith, exif, xmp, readBack]
  cases container.alpha <;> simp

/-- A container that is written is read again, up to what the writer normalizes. -/
theorem parse_toBytes {container : Container} (fits : container.toBytes.IsAddressable)
    (pixels : container.HasPixels) (has : container.HasDenominators) (full : container.Full) :
    parse container.toBytes = .ok container.readBack := by
  rw [parse_eq fits, payloads_full fits pixels has full, ← full.readWith]
  rfl

end AvifStill.Container
