import AvifStill.Proofs.Container.SecondReading

/-!
# Writing what was read from a written file

Reading a written file and writing it again gives the same bytes, as far as the file can be read at
all: what the writer normalizes is seen by the reader as it is written. With data in every item only
a clean aperture without a denominator stands in the way, which the writer takes over from files in
which the strict reader does not get to see it.
-/

namespace AvifStill.Container

open Item Payload

/-- The profile that is written is not raised again when it has been cut to its width. -/
theorem max_least : ∀ profile : Fin 256, ∀ least ∈ [(0 : UInt8), 2],
    UInt8.ofFin profile &&& 7 = UInt8.ofFin profile →
      max (max (UInt8.ofFin profile) least &&& 7) least = max (UInt8.ofFin profile) least := by
  decide +kernel

theorem leastProfile_mem (depth : Nat) : leastProfile depth ∈ [(0 : UInt8), 2] := by
  unfold leastProfile
  split
  · decide
  · decide

section ReadBack

variable {container : Container}

theorem depth_readBack (container : Container) :
    container.readBack.color.config.depth = container.color.config.depth :=
  container.depth_colorRecord

/-- The codec configuration that is written for what is read is the one that was written. -/
theorem colorRecord_readBack (packed : container.color.config.packed = container.color.config) :
    container.readBack.colorRecord = container.colorRecord := by
  have profile : container.color.config.profile &&& 7 = container.color.config.profile :=
    congrArg Av1.Config.profile packed
  have kept := max_least container.color.config.profile.toFin
    _ (leastProfile_mem container.color.config.depth)
  rw [UInt8.ofFin_toFin] at kept
  simp only [colorRecord, depth_readBack]
  exact congrArg (record _ · _ _ _) (kept profile)

theorem alphaRecord_readBack (container : Container) :
    container.readBack.alphaRecord = container.alphaRecord := by
  unfold alphaRecord
  rw [depth_readBack]

/-- Code points that are left out are not missed. -/
theorem describeColor?_readBack (container : Container) :
    container.readBack.describeColor? = container.describeColor? := by
  have icc : container.readBack.icc = container.icc := rfl
  have cicp : container.readBack.cicp = container.readCodePoints? := rfl
  unfold describeColor?
  rw [icc, cicp, readCodePoints?]
  cases isIcc : container.icc with
  | some icc => rfl
  | none =>
      cases isCicp : container.cicp with
      | none => rfl
      | some cicp =>
          by_cases written : isWritable cicp ∧ cicp ≠ impliedCodePoints
          · simp only [if_pos written]
          · simp only [if_neg written]

theorem describeRotation_and (turns : UInt8) :
    describeRotation (turns &&& 3) = describeRotation turns := by
  have same : turns &&& 3 &&& 3 = turns &&& 3 := UInt8.and_assoc ..
  rw [describeRotation, same]
  rfl

theorem describeMirror_and (axis : UInt8) :
    describeMirror (axis &&& 1) = describeMirror axis := by
  have same : axis &&& 1 &&& 1 = axis &&& 1 := UInt8.and_assoc ..
  rw [describeMirror, same]
  rfl

theorem colorDescribed_readBack
    (packed : container.color.config.packed = container.color.config) :
    container.readBack.colorDescribed = container.colorDescribed := by
  have rotation : container.readBack.transforms.rotation.map describeRotation =
      container.transforms.rotation.map describeRotation := by
    refine (Option.map_map ..).trans ?_
    exact congrArg (Option.map · _) (funext describeRotation_and)
  have mirror : container.readBack.transforms.mirror.map describeMirror =
      container.transforms.mirror.map describeMirror := by
    refine (Option.map_map ..).trans ?_
    exact congrArg (Option.map · _) (funext describeMirror_and)
  unfold colorDescribed
  rw [colorRecord_readBack packed, depth_readBack, describeColor?_readBack, rotation, mirror]
  rfl

theorem alphaDescribed_readBack (container : Container) :
    container.readBack.alphaDescribed = container.alphaDescribed := by
  unfold alphaDescribed
  rw [alphaRecord_readBack, depth_readBack]
  cases isAlpha : container.alpha <;> simp [readBack, isAlpha]

theorem propertiesBox_readBack
    (packed : container.color.config.packed = container.color.config) :
    container.readBack.propertiesBox = container.propertiesBox := by
  have hasAlpha : container.readBack.alpha.isSome = container.alpha.isSome := Option.isSome_map ..
  unfold propertiesBox
  rw [colorProperties_eq, alphaProperties_eq, colorProperties_eq, alphaProperties_eq,
    colorDescribed_readBack packed, alphaDescribed_readBack, hasAlpha]

theorem storedItems_readBack (container : Container) :
    container.readBack.storedItems = container.storedItems := by
  unfold storedItems readBack
  cases container.alpha <;> rfl

theorem entriesBox_readBack (container : Container) :
    container.readBack.entriesBox = container.entriesBox := by
  unfold entriesBox readBack
  cases container.alpha <;> rfl

theorem referencesBox?_readBack (container : Container) :
    container.readBack.referencesBox? = container.referencesBox? := by
  unfold referencesBox? readBack
  cases container.alpha <;> rfl

theorem directoryBox_readBack
    (packed : container.color.config.packed = container.color.config) (start : Nat) :
    container.readBack.directoryBox start = container.directoryBox start := by
  unfold directoryBox
  rw [storedItems_readBack, entriesBox_readBack, referencesBox?_readBack,
    propertiesBox_readBack packed]

/-- What is read from a written file is written as this file. -/
theorem toBytes_readBack (packed : container.color.config.packed = container.color.config) :
    container.readBack.toBytes = container.toBytes := by
  unfold toBytes dataStart
  rw [directoryBox_readBack packed, directoryBox_readBack packed, storedItems_readBack]

theorem alphaFits_readBack (container : Container) : container.readBack.alphaFits = true := by
  unfold alphaFits
  rw [depth_readBack]
  cases isAlpha : container.alpha with
  | none => simp [readBack, isAlpha]
  | some alpha =>
      have depth := container.depth_alphaRecord
      simp [readBack, isAlpha, depth]

theorem serialize_readBack (packed : container.color.config.packed = container.color.config)
    (pixels : container.HasPixels) : serialize container.readBack = .ok container.toBytes := by
  -- The size is written and read as it is, and alpha is read with the size of the image.
  have hasSize : ¬(container.readBack.color.width = 0 ∨ container.readBack.color.height = 0) := by
    rintro (noWidth | noHeight)
    · exact pixels.width noWidth
    · exact pixels.height noHeight
  rw [serialize, alphaFits_readBack, if_neg (fun differs => differs rfl), if_neg hasSize,
    toBytes_readBack packed]

end ReadBack

/-- Without a denominator of a clean aperture the written file cannot be read. -/
theorem parse_toBytes_error {container : Container}
    (fits : container.toBytes.IsAddressable) (pixels : container.HasPixels)
    (lacks : ¬container.HasDenominators) : parse container.toBytes = .error .container := by
  rw [parse_eq fits, payloads_error fits pixels lacks]
  rfl

/--
A file with data in every item that was read and written is written again as the same bytes exactly
if a clean aperture has denominators; otherwise it is not even read again.
-/
theorem canonical_iff {file written : Bytes} {container : Container}
    (parsed : parse file = .ok container) (full : container.Full)
    (serialized : serialize container = .ok written) (fits : written.IsAddressable) :
    ((∃ again, parse written = .ok again ∧ serialize again = .ok written) ↔
      container.HasDenominators) ∧
      (¬container.HasDenominators → parse written = .error .container) := by
  rcases serialized_eq serialized with ⟨rfl, pixels⟩
  have refused := parse_toBytes_error fits pixels
  refine ⟨⟨?_, ?_⟩, refused⟩
  · rintro ⟨again, read, -⟩
    apply Classical.byContradiction
    intro lacks
    cases read.symm.trans (refused lacks)
  · intro has
    exact ⟨container.readBack, parse_toBytes fits pixels has full,
      serialize_readBack (packed_parse parsed) pixels⟩

/-- A container of one pixel in a clean aperture with an offset whose denominator is zero. -/
def bareClap : Container where
  color := ⟨[7], .forFrame 8 .monochrome, 1, 1⟩
  alpha := none
  cicp := none
  icc := none
  transforms := { Transforms.none with clap := some ⟨1, 1, 1, 1, 0, 0, 0, 1⟩ }
  exifItem := none
  xmp := none
  premultiplied := false

/-- The kind of boxes that hold nothing. -/
def freeKind : FourCC := ⟨0x66, 0x72, 0x65, 0x65⟩

/--
The properties of a file with this content. The size of the image ends with the header of a box that
spans the configuration and the aperture, which only the lenient reader passes over.
-/
def bareClapProperties : Box :=
  let list : List Box :=
    [.full .ispe 0 (word 1 ++ word 1 ++ Bytes.ofNat 4 60 ++ freeKind.toBytes),
      ⟨.av1C, (Av1.Config.forFrame 8 .monochrome).toBytes⟩,
      clapBox ⟨1, 1, 1, 1, 0, 0, 0, 1⟩, ⟨freeKind, List.replicate 8 0⟩]
  let links : Box := .full .ipma 0 (Bytes.ofNat 4 1 ++ Bytes.ofNat 2 1 ++ [3, 1, 0x82, 0x83])
  ⟨.iprp, Box.toBytes ⟨.ipco, list.flatMap Box.toBytes⟩ ++ links.toBytes⟩

def bareClapFile : Bytes :=
  brandsBox.toBytes ++ Box.toBytes (.full .metadata 0
    ([handlerBox, primaryBox, locationsBox [⟨1, [7]⟩] 290, bareClap.entriesBox,
      bareClapProperties].flatMap Box.toBytes)) ++ Box.toBytes ⟨.mdat, [7]⟩

/-- The file is read and written, but what is written is not read again. -/
theorem not_canonical_bareClap :
    parse bareClapFile = .ok bareClap ∧ bareClap.Full ∧
      serialize bareClap = .ok bareClap.toBytes ∧ bareClap.toBytes.IsAddressable ∧
      parse bareClap.toBytes = .error .container ∧
      ¬∃ again, parse bareClap.toBytes = .ok again ∧ serialize again = .ok bareClap.toBytes := by
  have parsed : parse bareClapFile = .ok bareClap := ok_of_toOption (by decide +kernel)
  have full : bareClap.Full := by
    intro stored isMember
    rw [List.mem_singleton.mp isMember]
    exact List.cons_ne_nil 7 []
  have serialized : serialize bareClap = .ok bareClap.toBytes := rfl
  have fits : bareClap.toBytes.IsAddressable := by decide +kernel
  have lacks : ¬bareClap.HasDenominators := fun has => (has _ rfl).offsetX rfl
  rcases canonical_iff parsed full serialized fits with ⟨same, refused⟩
  exact ⟨parsed, full, serialized, fits, refused lacks, fun again => lacks (same.mp again)⟩

end AvifStill.Container
