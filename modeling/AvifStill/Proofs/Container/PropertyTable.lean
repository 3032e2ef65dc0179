import AvifStill.Proofs.Container.Properties

/-!
# The written property table

The properties of a written file in order, and their association with the image and its alpha image.
The lenient reader reads the table back in any case; the strict reader does if the image is not empty
and no clean aperture has a zero denominator, and refuses the table if one has.
-/

namespace AvifStill.Container

open Item Scan Payload.Window

/-! ## The list of properties -/

def colorRecord (container : Container) : Av1.Config :=
  let config := container.color.config
  record config.depth (max config.profile (leastProfile config.depth)) config.monochrome
    config.subsamplingX config.subsamplingY

def alphaRecord (container : Container) : Av1.Config :=
  let depth := container.color.config.depth
  record depth (leastProfile depth) true true true

/-- The colour description of a written file, if it has one. -/
def describeColor? (container : Container) : Option Described :=
  match container.icc, container.cicp with
  | some icc, _ => some (describeProfile icc)
  | none, some cicp =>
      if isWritable cicp ∧ cicp ≠ impliedCodePoints then some (describeCodePoints cicp) else none
  | none, none => none

/-- The properties of the colour image. -/
def colorDescribed (container : Container) : List Described :=
  [describeExtent container.color.width container.color.height,
    describeConfig container.colorRecord, describeChannels 3 container.color.config.depth] ++
  container.describeColor?.toList ++
  (container.transforms.rotation.map describeRotation).toList ++
  (container.transforms.mirror.map describeMirror).toList ++
  (container.transforms.clap.map describeClap).toList

/-- The properties that only the alpha image has. -/
def alphaDescribed (container : Container) : List Described :=
  if container.alpha.isSome then
    [describeConfig container.alphaRecord, describeChannels 1 container.color.config.depth,
      describeAlpha]
  else []

/-- All properties of a written file. -/
def described (container : Container) : List Described :=
  container.colorDescribed ++ container.alphaDescribed

/-- The box of a described property. -/
def Described.box (described : Described) : Box :=
  described.written.box

/-! ## Named code points -/

section Named

theorem number_boxPrimaries? {primaries : ColorPrimaries} {name : ColorPrimaries.Name}
    (found : boxPrimaries? primaries = some name) : name.number = primaries.code := by
  rcases primaries with ⟨code⟩
  unfold boxPrimaries? at found
  simp only at found
  split at found <;> cases found <;> rfl

theorem number_boxTransfer? {transfer : TransferCharacteristics}
    {name : TransferCharacteristics.Name} (found : boxTransfer? transfer = some name) :
    name.number = transfer.code := by
  rcases transfer with ⟨code⟩
  unfold boxTransfer? at found
  simp only at found
  split at found <;> cases found <;> rfl

theorem number_boxMatrix? {matrix : MatrixCoefficients} {name : MatrixCoefficients.Name}
    (found : boxMatrix? matrix = some name) : name.number = matrix.code := by
  rcases matrix with ⟨code⟩
  unfold boxMatrix? at found
  simp only at found
  split at found <;> cases found <;> rfl

variable {cicp : Cicp} {codes : NamedCodes}

/-- The values of a colour box have the numbers of the code points. -/
theorem numbers_of_boxCodes? (found : boxCodes? cicp = some codes) :
    codes.primaries.number = cicp.primaries.code ∧ codes.transfer.number = cicp.transfer.code ∧
      codes.matrix.number = cicp.matrix.code := by
  simp only [boxCodes?, Option.bind_eq_bind, Option.bind_eq_some_iff] at found
  rcases found with ⟨primaries, isPrimaries, transfer, isTransfer, matrix, isMatrix, made⟩
  cases made
  exact ⟨number_boxPrimaries? isPrimaries, number_boxTransfer? isTransfer,
    number_boxMatrix? isMatrix⟩

theorem codesBox_eq (found : boxCodes? cicp = some codes) :
    codesBox codes cicp.fullRange = (describeCodePoints cicp).box := by
  rcases numbers_of_boxCodes? found with ⟨primaries, transfer, matrix⟩
  rw [codesBox, primaries, transfer, matrix]
  rfl

end Named

theorem colorBox?_eq (container : Container) :
    (container.colorBox?.map fun box => (⟨box, false⟩ : Written)) =
      container.describeColor?.map (·.written) := by
  unfold colorBox? describeColor? isWritable
  rcases container.icc with _ | icc
  · rcases container.cicp with _ | cicp
    · rfl
    · cases found : boxCodes? cicp with
      | none => simp [found]
      | some codes =>
          simp only [found, codesBox_eq found, Option.isSome_some, true_and]
          split <;> rfl
  · rfl

theorem colorProperties_eq (container : Container) :
    container.colorProperties = container.colorDescribed.map (·.written) := by
  unfold colorProperties colorDescribed
  rw [colorBox?_eq]
  cases container.describeColor? <;> cases container.transforms.rotation <;>
    cases container.transforms.mirror <;> cases container.transforms.clap <;> rfl

theorem alphaProperties_eq (container : Container) :
    container.alphaProperties = container.alphaDescribed.map Described.box := by
  unfold alphaProperties alphaDescribed
  cases container.alpha <;> rfl

theorem boxes_eq (container : Container) :
    container.colorProperties.map (·.box) ++ container.alphaProperties =
      container.described.map Described.box := by
  rw [colorProperties_eq, alphaProperties_eq, described, List.map_append, List.map_map]
  rfl

theorem describeColor?_cases {container : Container} {described : Described}
    (found : container.describeColor? = some described) :
    (∃ icc, described = describeProfile icc) ∨ ∃ cicp, described = describeCodePoints cicp := by
  unfold describeColor? at found
  split at found
  · exact Or.inl ⟨_, (Option.some.inj found).symm⟩
  · split at found
    · exact Or.inr ⟨_, (Option.some.inj found).symm⟩
    · cases found
  · cases found

/-- The kinds of properties that occur in a written file. -/
inductive Occurs (container : Container) : Described → Prop where
  | extent : Occurs container (describeExtent container.color.width container.color.height)
  | config (config : Av1.Config) : Occurs container (describeConfig config)
  | channels (channels depth : Nat) (few : channels ≤ 16) :
      Occurs container (describeChannels channels depth)
  | profile (icc : Bytes) : Occurs container (describeProfile icc)
  | codePoints (cicp : Cicp) : Occurs container (describeCodePoints cicp)
  | rotation (turns : UInt8) : Occurs container (describeRotation turns)
  | mirror (axis : UInt8) : Occurs container (describeMirror axis)
  | clap (clap : CleanAperture) (isSet : container.transforms.clap = some clap) :
      Occurs container (describeClap clap)
  | alpha : Occurs container describeAlpha

theorem occurs_of_mem {container : Container} {described : Described}
    (isMember : described ∈ container.described) : Occurs container described := by
  simp only [Container.described, colorDescribed, alphaDescribed, List.mem_append,
    List.mem_cons, List.not_mem_nil, or_false, Option.mem_toList, Option.map_eq_some_iff]
    at isMember
  rcases isMember with
    ((((isPlain | isColor) | isRotation) | isMirror) | isClap) | isAlpha
  · rcases isPlain with rfl | rfl | rfl
    · exact .extent
    · exact .config _
    · exact .channels 3 _ (by omega)
  · rcases describeColor?_cases isColor with ⟨icc, rfl⟩ | ⟨cicp, rfl⟩
    · exact .profile icc
    · exact .codePoints cicp
  · rcases isRotation with ⟨turns, -, rfl⟩
    exact .rotation turns
  · rcases isMirror with ⟨axis, -, rfl⟩
    exact .mirror axis
  · rcases isClap with ⟨clap, isSet, rfl⟩
    exact .clap clap isSet
  · split at isAlpha
    · simp only [List.mem_cons, List.not_mem_nil, or_false] at isAlpha
      rcases isAlpha with rfl | rfl | rfl
      · exact .config _
      · exact .channels 1 _ (by omega)
      · exact .alpha
    · cases isAlpha

theorem Occurs.isRead {container : Container} {described : Described}
    (occurs : Occurs container described) : described.IsRead := by
  cases occurs with
  | extent => exact isRead_extent _ _
  | config config => exact isRead_config config
  | channels channels depth => exact isRead_channels channels depth
  | profile icc => exact isRead_profile icc
  | codePoints cicp => exact isRead_codePoints cicp
  | rotation turns => exact isRead_rotation turns
  | mirror axis => exact isRead_mirror axis
  | clap clap => exact isRead_clap clap
  | alpha => exact isRead_alpha

theorem Occurs.plain {container : Container} {described : Described}
    (occurs : Occurs container described) : described.box.kind ≠ .uuid := by
  cases occurs with
  | extent => exact (by decide : FourCC.ispe ≠ .uuid)
  | config => exact (by decide : FourCC.av1C ≠ .uuid)
  | channels => exact (by decide : FourCC.pixi ≠ .uuid)
  | profile => exact (by decide : FourCC.colr ≠ .uuid)
  | codePoints => exact (by decide : FourCC.colr ≠ .uuid)
  | rotation => exact (by decide : FourCC.irot ≠ .uuid)
  | mirror => exact (by decide : FourCC.imir ≠ .uuid)
  | clap => exact (by decide : FourCC.clap ≠ .uuid)
  | alpha => exact (by decide : FourCC.auxC ≠ .uuid)

/-- Whether the image has a size. -/
structure HasPixels (container : Container) : Prop where
  width : container.color.width ≠ 0
  height : container.color.height ≠ 0

/-- Whether the clean aperture, if there is one, has denominators. -/
def HasDenominators (container : Container) : Prop :=
  ∀ clap, container.transforms.clap = some clap → clap.HasDenominators

theorem Occurs.isReadStrictly {container : Container} {described : Described}
    (occurs : Occurs container described) (pixels : container.HasPixels)
    (has : container.HasDenominators) : described.IsReadStrictly := by
  cases occurs with
  | extent => exact isReadStrictly_extent pixels.width pixels.height
  | config config => exact isReadStrictly_config config
  | channels channels depth few => exact isReadStrictly_channels few depth
  | profile icc => exact isReadStrictly_profile icc
  | codePoints cicp => exact isReadStrictly_codePoints cicp
  | rotation turns => exact isReadStrictly_rotation turns
  | mirror axis => exact isReadStrictly_mirror axis
  | clap clap isSet => exact isReadStrictly_clap (has clap isSet)
  | alpha => exact isReadStrictly_alpha

/-- The box of all properties. -/
def listBox (container : Container) : Box :=
  ⟨.ipco, (container.described.map Described.box).flatMap Box.toBytes⟩

theorem sound_described {container : Container}
    (fits : container.listBox.content.length < Bytes.capacity 4) :
    Box.Sound (container.described.map Described.box) := by
  refine ⟨?_, fits⟩
  intro box isMember
  rcases List.mem_map.mp isMember with ⟨described, isDescribed, rfl⟩
  exact (occurs_of_mem isDescribed).plain

theorem readProperties_listBox {container : Container}
    (fits : container.listBox.content.length < Bytes.capacity 4) :
    PropertyTable.readProperties container.listBox.content =
      .ok (container.described.map (·.property)) := by
  have gone := Box.foldM_split_map (fun known described => known ++ [described.property])
    (fun properties box => do
      return properties ++ [← (Property.scan box.kind).run' box.content])
    (sound_described fits)
    (fun known described isMember => by
      have isRead := (occurs_of_mem isMember).isRead
      rw [Described.box, isRead]
      rfl) []
  rw [Box.foldl_snoc, List.nil_append] at gone
  exact gone

theorem scanProperties_listBox {container : Container}
    (fits : container.listBox.content.length < Bytes.capacity 4) (pixels : container.HasPixels)
    (has : container.HasDenominators) :
    Payload.Table.scanProperties container.listBox.content =
      .ok (container.described.map (·.name), []) := by
  refine (fold_map (fun known described => known ++ [described.name])
    (sound_described fits) ?_ []).trans ?_
  · intro known described isMember
    exact (bind_of_ok ((occurs_of_mem isMember).isReadStrictly pixels has)).trans rfl
  · rw [Box.foldl_snoc, List.nil_append]

/-- A clean aperture comes last of the properties of the image. -/
theorem described_of_clap {container : Container} {clap : CleanAperture}
    (isSet : container.transforms.clap = some clap) :
    container.described =
      { container with transforms := { container.transforms with clap := none } }.colorDescribed ++
        describeClap clap :: container.alphaDescribed := by
  simp [described, colorDescribed, isSet, describeColor?, colorRecord]

theorem scanProperties_error {container : Container}
    (fits : container.listBox.content.length < Bytes.capacity 4) (pixels : container.HasPixels)
    (lacks : ¬container.HasDenominators) :
    Payload.Table.scanProperties container.listBox.content = .error .container := by
  obtain ⟨clap, isSet, lacks⟩ :
      ∃ clap, container.transforms.clap = some clap ∧ ¬clap.HasDenominators := by
    simpa [HasDenominators] using lacks
  have sound := sound_described fits
  rw [listBox, described_of_clap isSet] at *
  refine fold_map_error (fun known described => known ++ [described.name]) sound ?_ ?_ []
  · intro known described isMember
    have occurs := occurs_of_mem (List.mem_append_left _ isMember)
    have isRead := occurs.isReadStrictly ⟨pixels.width, pixels.height⟩ (by simp [HasDenominators])
    exact (bind_of_ok isRead).trans rfl
  · intro known
    exact bind_of_error (scanProperty_clap_error lacks)

end AvifStill.Container
