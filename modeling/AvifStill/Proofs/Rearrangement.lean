import AvifStill.Proofs.Container.Properties
import AvifStill.Transform
import Mathlib.Data.Set.Function

/-!
# Rearranged pixels

Crop, rotation and mirror copy the pixels of a rectangle, each of them to one place. Positions that
are counted back from the far edge of an axis go wrong outside the raster, so a cautious copy, which
gives up there and at every read outside, is put beside each of them. It never gives up.
-/

namespace AvifStill

/-! ## Positions -/

namespace CropRect

def size (rect : CropRect) : Nat × Nat :=
  (rect.width, rect.height)

/-- A rectangle of some size in the corner. -/
def whole (width height : Nat) : CropRect :=
  ⟨0, 0, width, height⟩

def positions (rect : CropRect) : Set (Nat × Nat) :=
  {position | rect.x ≤ position.1 ∧ position.1 < rect.x + rect.width ∧
    rect.y ≤ position.2 ∧ position.2 < rect.y + rect.height}

theorem mem_positions {rect : CropRect} {position : Nat × Nat} :
    position ∈ rect.positions ↔ rect.x ≤ position.1 ∧ position.1 < rect.x + rect.width ∧
      rect.y ≤ position.2 ∧ position.2 < rect.y + rect.height :=
  Iff.rfl

@[simp]
theorem mem_positions_whole {width height : Nat} {position : Nat × Nat} :
    position ∈ (whole width height).positions ↔ position.1 < width ∧ position.2 < height := by
  simp [mem_positions, whole]

theorem bijOn_shift (rect : CropRect) :
    Set.BijOn (fun position => (position.1 + rect.x, position.2 + rect.y))
      (whole rect.width rect.height).positions rect.positions := by
  have inverse : Set.InvOn (fun position => (position.1 - rect.x, position.2 - rect.y))
      (fun position => (position.1 + rect.x, position.2 + rect.y))
      (whole rect.width rect.height).positions rect.positions := by
    constructor
    · intro position _
      simp
    · intro position inside
      rw [mem_positions] at inside
      apply Prod.ext
      · exact Nat.sub_add_cancel inside.1
      · exact Nat.sub_add_cancel inside.2.2.1
  apply inverse.bijOn
  · intro position inside
    rw [mem_positions_whole] at inside
    simp only [mem_positions]
    omega
  · intro position inside
    rw [mem_positions] at inside
    simp only [mem_positions_whole]
    omega

theorem bijOn_swap (width height : Nat) :
    Set.BijOn Prod.swap (whole height width).positions (whole width height).positions := by
  have inverse : Set.InvOn Prod.swap Prod.swap (whole height width).positions
      (whole width height).positions :=
    ⟨fun _ _ => Prod.swap_swap _, fun _ _ => Prod.swap_swap _⟩
  have into (width height : Nat) :
      Set.MapsTo Prod.swap (whole height width).positions (whole width height).positions := by
    intro position inside
    rw [mem_positions_whole] at inside ⊢
    exact inside.symm
  exact inverse.bijOn (into width height) (into height width)

theorem bijOn_columns (width height : Nat) :
    Set.BijOn (fun position => (width - 1 - position.1, position.2))
      (whole width height).positions (whole width height).positions := by
  have again : Set.LeftInvOn (fun position => (width - 1 - position.1, position.2))
      (fun position => (width - 1 - position.1, position.2)) (whole width height).positions := by
    intro position inside
    rw [mem_positions_whole] at inside
    apply Prod.ext
    · simp only
      omega
    · rfl
  have into : Set.MapsTo (fun position => (width - 1 - position.1, position.2))
      (whole width height).positions (whole width height).positions := by
    intro position inside
    simp only [mem_positions_whole] at inside ⊢
    omega
  exact Set.InvOn.bijOn ⟨again, again⟩ into into

/-- The rows are the columns of the rectangle with exchanged sides. -/
theorem bijOn_rows (width height : Nat) :
    Set.BijOn (fun position => (position.1, height - 1 - position.2))
      (whole width height).positions (whole width height).positions :=
  (bijOn_swap width height).comp ((bijOn_columns height width).comp (bijOn_swap height width))

end CropRect

namespace Raster

/-! ## Copies -/

def size (raster : Raster) : Nat × Nat :=
  (raster.width, raster.height)

def extent (raster : Raster) : CropRect :=
  .whole raster.width raster.height

/-- A raster whose pixels are those of a rectangle of another one, each exactly once. -/
structure Rearranges (result source : Raster) (rect : CropRect) : Prop where
  layout : result.layout = source.layout
  depth : result.depth = source.depth
  pixels : ∃ place : Nat × Nat → Nat × Nat,
    Set.BijOn place result.extent.positions rect.positions ∧
      ∀ position ∈ result.extent.positions, result.samples? position.1 position.2 =
        source.samples? (place position).1 (place position).2

theorem Rearranges.refl (raster : Raster) : raster.Rearranges raster raster.extent :=
  ⟨rfl, rfl, id, Set.bijOn_id _, fun _ _ => rfl⟩

theorem Rearranges.trans {last middle first : Raster} {rect : CropRect}
    (later : last.Rearranges middle middle.extent) (earlier : middle.Rearranges first rect) :
    last.Rearranges first rect := by
  rcases later.pixels with ⟨outer, outerBijective, outerPixels⟩
  rcases earlier.pixels with ⟨inner, innerBijective, innerPixels⟩
  refine ⟨later.layout.trans earlier.layout, later.depth.trans earlier.depth, inner ∘ outer,
    innerBijective.comp outerBijective, ?_⟩
  intro position inside
  have between := innerPixels (outer position) (outerBijective.mapsTo inside)
  exact (outerPixels position inside).trans between

theorem samples?_remap {raster : Raster} {width height : Nat} {place : Nat → Nat → Nat × Nat}
    {column row : Nat} (inside : column < width ∧ row < height)
    (source : (place column row).1 < raster.width ∧ (place column row).2 < raster.height) :
    (raster.remap width height place).samples? column row =
      raster.samples? (place column row).1 (place column row).2 :=
  congrArg (Option.map fun pixel : Pixel raster.layout raster.depth => pixel.toList.map Fin.val)
    (Grid.cell?_remap inside source)

/-- A copy that gives up when a place cannot be counted or lies outside. -/
def remap? (raster : Raster) (width height : Nat) (place? : Nat → Nat → Option (Nat × Nat)) :
    Option Raster :=
  if ∀ column < width, ∀ row < height,
      (place? column row).any fun place => place.1 < raster.width ∧ place.2 < raster.height then
    some (raster.remap width height fun column row => (place? column row).getD (0, 0))
  else none

/-- Places that are one to one with a rectangle of the raster make a rearrangement, with caution. -/
theorem remap_of_bijOn {raster : Raster} {width height : Nat} {place : Nat → Nat → Nat × Nat}
    {place? : Nat → Nat → Option (Nat × Nat)} {rect : CropRect}
    (bijective : Set.BijOn (fun position => place position.1 position.2)
      (CropRect.whole width height).positions rect.positions)
    (inside : rect.positions ⊆ raster.extent.positions)
    (counted : ∀ column < width, ∀ row < height, place? column row = some (place column row)) :
    raster.remap? width height place? = some (raster.remap width height place) ∧
      (raster.remap width height place).Rearranges raster rect := by
  have source : ∀ column < width, ∀ row < height,
      (place column row).1 < raster.width ∧ (place column row).2 < raster.height := by
    intro column inWidth row inHeight
    have within : (column, row) ∈ (CropRect.whole width height).positions := by
      simp [inWidth, inHeight]
    exact CropRect.mem_positions_whole.mp (inside (bijective.mapsTo within))
  constructor
  · have passes : ∀ column < width, ∀ row < height,
        (place? column row).any fun place => place.1 < raster.width ∧ place.2 < raster.height := by
      intro column inWidth row inHeight
      rw [counted column inWidth row inHeight]
      simpa using source column inWidth row inHeight
    rw [remap?, if_pos passes]
    have same : raster.pixels.remap width height
        (fun column row => (place? column row).getD (0, 0)) =
          raster.pixels.remap width height place := by
      apply Grid.build_congr
      intro column inWidth row inHeight
      simp only [counted column inWidth row inHeight, Option.getD_some]
    rw [remap, remap, same]
  · refine ⟨rfl, rfl, _, bijective, ?_⟩
    intro position within
    have within := CropRect.mem_positions_whole.mp within
    exact samples?_remap within (source _ within.1 _ within.2)

/-! ## Steps -/

/-- A position counted back from the far edge of an axis, unless there is none. -/
def fromEdge? (size position : Nat) : Option Nat :=
  if position < size then some (size - 1 - position) else none

theorem fromEdge?_of_lt {size position : Nat} (inside : position < size) :
    fromEdge? size position = some (size - 1 - position) :=
  if_pos inside

/-- A cautious `crop`. -/
def crop? (raster : Raster) (rect : CropRect) : Option Raster :=
  raster.remap? rect.width rect.height fun column row => some (column + rect.x, row + rect.y)

/-- A cautious `rotate`. -/
def rotate? (raster : Raster) (turns : UInt8) : Option Raster :=
  match turns.toNat % 4 with
  | 1 =>
      raster.remap? raster.height raster.width fun column row =>
        (fromEdge? raster.width row).map fun back => (back, column)
  | 2 =>
      raster.remap? raster.width raster.height fun column row =>
        (fromEdge? raster.width column).bind fun across =>
          (fromEdge? raster.height row).map fun down => (across, down)
  | 3 =>
      raster.remap? raster.height raster.width fun column row =>
        (fromEdge? raster.height column).map fun back => (row, back)
  | _ => some raster

/-- A cautious `mirror`. -/
def mirror? (raster : Raster) (axis : UInt8) : Option Raster :=
  match axis.toNat with
  | 0 =>
      raster.remap? raster.width raster.height fun column row =>
        (fromEdge? raster.height row).map fun back => (column, back)
  | 1 =>
      raster.remap? raster.width raster.height fun column row =>
        (fromEdge? raster.width column).map fun back => (back, row)
  | _ => some raster

theorem crop_rearranges {raster : Raster} {rect : CropRect}
    (inWidth : rect.x + rect.width ≤ raster.width)
    (inHeight : rect.y + rect.height ≤ raster.height) :
    raster.crop? rect = some (raster.crop rect) ∧ (raster.crop rect).Rearranges raster rect := by
  apply remap_of_bijOn
  · exact rect.bijOn_shift
  · intro position inside
    rw [CropRect.mem_positions] at inside
    simp only [extent, CropRect.mem_positions_whole]
    omega
  · intro column _ row _
    rfl

theorem quarter_cases (turns : UInt8) : turns.toNat % 4 = 0 ∨ turns.toNat % 4 = 1 ∨
    turns.toNat % 4 = 2 ∨ turns.toNat % 4 = 3 := by
  omega

theorem rotate_rearranges (raster : Raster) (turns : UInt8) :
    raster.rotate? turns = some (raster.rotate turns) ∧
      (raster.rotate turns).Rearranges raster raster.extent := by
  have swapped := CropRect.bijOn_swap raster.width raster.height
  have columns := CropRect.bijOn_columns raster.width raster.height
  have rows := CropRect.bijOn_rows raster.width raster.height
  unfold rotate? rotate
  rcases quarter_cases turns with none | once | twice | thrice
  · rw [none]
    exact ⟨rfl, .refl raster⟩
  · rw [once]
    apply remap_of_bijOn (columns.comp swapped) subset_rfl
    intro column _ row inside
    simp [fromEdge?_of_lt inside]
  · rw [twice]
    apply remap_of_bijOn (columns.comp rows) subset_rfl
    intro column inWidth row inHeight
    simp [fromEdge?_of_lt inWidth, fromEdge?_of_lt inHeight]
  · rw [thrice]
    apply remap_of_bijOn (rows.comp swapped) subset_rfl
    intro column inside row _
    simp [fromEdge?_of_lt inside]

theorem mirror_rearranges (raster : Raster) (axis : UInt8) :
    raster.mirror? axis = some (raster.mirror axis) ∧
      (raster.mirror axis).Rearranges raster raster.extent := by
  unfold mirror? mirror
  generalize axis.toNat = direction
  rcases direction with _ | _ | other
  · apply remap_of_bijOn (CropRect.bijOn_rows raster.width raster.height) subset_rfl
    intro column _ row inside
    simp [fromEdge?_of_lt inside]
  · apply remap_of_bijOn (CropRect.bijOn_columns raster.width raster.height) subset_rfl
    intro column inside row _
    simp [fromEdge?_of_lt inside]
  · exact ⟨rfl, .refl raster⟩

/-- Whether so many quarter turns exchange the sides. -/
def exchangesSides (turns : UInt8) : Bool :=
  turns.toNat % 2 = 1

theorem size_rotate (raster : Raster) (turns : UInt8) : (raster.rotate turns).size =
    if exchangesSides turns then raster.size.swap else raster.size := by
  have parity : turns.toNat % 4 % 2 = turns.toNat % 2 := by
    omega
  unfold rotate exchangesSides
  rw [← parity]
  rcases quarter_cases turns with none | once | twice | thrice
  · rw [none]
    rfl
  · rw [once]
    rfl
  · rw [twice]
    rfl
  · rw [thrice]
    rfl

theorem size_mirror (raster : Raster) (axis : UInt8) : (raster.mirror axis).size = raster.size := by
  unfold mirror
  split <;> rfl

/-! A step is only taken when it is asked for. -/

theorem size_of_crop (raster : Raster) (crop : Option CropRect) :
    (crop.elim raster raster.crop).size = (crop.getD raster.extent).size := by
  cases crop <;> rfl

theorem size_of_rotation (raster : Raster) (rotation : Option UInt8) :
    (rotation.elim raster raster.rotate).size =
      if rotation.any exchangesSides then raster.size.swap else raster.size := by
  cases rotation with
  | none => rfl
  | some turns => exact raster.size_rotate turns

theorem size_of_mirror (raster : Raster) (mirror : Option UInt8) :
    (mirror.elim raster raster.mirror).size = raster.size := by
  cases mirror with
  | none => rfl
  | some axis => exact raster.size_mirror axis

theorem rearranges_of_optional {α : Type} {raster : Raster} {step? : α → Option Raster}
    {step : α → Raster}
    (each : ∀ value, step? value = some (step value) ∧
      (step value).Rearranges raster raster.extent) (choice : Option α) :
    choice.elim (some raster) step? = some (choice.elim raster step) ∧
      (choice.elim raster step).Rearranges raster raster.extent := by
  cases choice with
  | none => exact ⟨rfl, .refl raster⟩
  | some value => exact each value

theorem rearranges_of_crop {raster : Raster} {crop : Option CropRect}
    (inside : ∀ rect, crop = some rect →
      rect.x + rect.width ≤ raster.width ∧ rect.y + rect.height ≤ raster.height) :
    crop.elim (some raster) raster.crop? = some (crop.elim raster raster.crop) ∧
      (crop.elim raster raster.crop).Rearranges raster (crop.getD raster.extent) := by
  cases crop with
  | none => exact ⟨rfl, .refl raster⟩
  | some rect => exact crop_rearranges (inside rect rfl).1 (inside rect rfl).2

end Raster

/-! ## All transforms -/

theorem CleanAperture.cropRect?_eq_none_iff {clap : CleanAperture} {width height : Nat} :
    clap.cropRect? width height = none ↔ ¬clap.HasDenominators ∨
      croppedSize clap.widthNumerator clap.widthDenominator width = 0 ∨
        croppedSize clap.heightNumerator clap.heightDenominator height = 0 := by
  have denominators : clap.HasDenominators ↔ ¬(clap.widthDenominator = 0 ∨
      clap.heightDenominator = 0 ∨ clap.offsetXDenominator = 0 ∨ clap.offsetYDenominator = 0) := by
    simp only [not_or]
    exact ⟨fun has => ⟨has.width, has.height, has.offsetX, has.offsetY⟩,
      fun nonzero => ⟨nonzero.1, nonzero.2.1, nonzero.2.2.1, nonzero.2.2.2⟩⟩
  unfold cropRect?
  simp only
  split
  · rename_i zero
    simp [denominators, zero]
  · rename_i nonzero
    have has := denominators.mpr nonzero
    split
    · rename_i empty
      simp [empty]
    · rename_i empty
      simp [has, empty]

namespace Transforms

/-- A cautious `apply`. -/
def applied? (transforms : Transforms) (raster : Raster) : Option (Raster × Option CropRect) :=
  let rect := transforms.cropRect? raster.width raster.height
  (rect.elim (some raster) raster.crop?).bind fun cropped =>
    (transforms.rotation.elim (some cropped) cropped.rotate?).bind fun turned =>
      (transforms.mirror.elim (some turned) turned.mirror?).map fun mirrored => (mirrored, rect)

/-- What transforms make of a raster. -/
structure Shows (transforms : Transforms) (raster result : Raster) (crop : Option CropRect) :
    Prop where
  /-- No step reads outside the raster that it is given. -/
  cautious : transforms.applied? raster = some (result, crop)
  /-- There is a crop exactly when a clean aperture is well formed and not empty. -/
  uncropped : crop = .none ↔ ∀ clap, transforms.clap = some clap → ¬clap.HasDenominators ∨
    CleanAperture.croppedSize clap.widthNumerator clap.widthDenominator raster.width = 0 ∨
      CleanAperture.croppedSize clap.heightNumerator clap.heightDenominator raster.height = 0
  cropped : ∀ rect, crop = some rect → 1 ≤ rect.width ∧ 1 ≤ rect.height ∧
    rect.x + rect.width ≤ raster.width ∧ rect.y + rect.height ≤ raster.height
  size : result.size =
    if transforms.rotation.any Raster.exchangesSides then (crop.getD raster.extent).size.swap
    else (crop.getD raster.extent).size
  pixels : result.Rearranges raster (crop.getD raster.extent)

theorem cropRect?_eq_none_iff {transforms : Transforms} {width height : Nat} :
    transforms.cropRect? width height = .none ↔ ∀ clap, transforms.clap = some clap →
      ¬clap.HasDenominators ∨
        CleanAperture.croppedSize clap.widthNumerator clap.widthDenominator width = 0 ∨
          CleanAperture.croppedSize clap.heightNumerator clap.heightDenominator height = 0 := by
  simp only [cropRect?, Option.bind_eq_none_iff, CleanAperture.cropRect?_eq_none_iff]

theorem cropRect?_inside {transforms : Transforms} {width height : Nat} {rect : CropRect}
    (found : transforms.cropRect? width height = some rect) :
    1 ≤ rect.width ∧ 1 ≤ rect.height ∧ rect.x + rect.width ≤ width ∧
      rect.y + rect.height ≤ height := by
  rcases Option.bind_eq_some_iff.mp found with ⟨clap, -, found⟩
  exact CleanAperture.cropRect?_inside found

/-- Whatever the transforms, each pixel that the crop leaves is shown at one place. -/
theorem shows_apply (transforms : Transforms) (raster : Raster) :
    transforms.Shows raster (transforms.apply raster).1 (transforms.apply raster).2 := by
  let crop := transforms.cropRect? raster.width raster.height
  let kept := crop.elim raster raster.crop
  let turned := transforms.rotation.elim kept kept.rotate
  have cropping : crop.elim (some raster) raster.crop? = some kept ∧
      kept.Rearranges raster (crop.getD raster.extent) :=
    Raster.rearranges_of_crop fun rect found => (cropRect?_inside found).2.2
  have turning := Raster.rearranges_of_optional kept.rotate_rearranges transforms.rotation
  have mirroring := Raster.rearranges_of_optional turned.mirror_rearranges transforms.mirror
  constructor
  · change (crop.elim (some raster) raster.crop?).bind _ = _
    rw [cropping.1, Option.bind_some, turning.1, Option.bind_some, mirroring.1]
    rfl
  · exact cropRect?_eq_none_iff
  · exact fun rect found => cropRect?_inside found
  · calc
      (transforms.mirror.elim turned turned.mirror).size = turned.size :=
        Raster.size_of_mirror turned transforms.mirror
      _ = if transforms.rotation.any Raster.exchangesSides then kept.size.swap else kept.size :=
        Raster.size_of_rotation kept transforms.rotation
      _ = if transforms.rotation.any Raster.exchangesSides then (crop.getD raster.extent).size.swap
          else (crop.getD raster.extent).size := by
        rw [Raster.size_of_crop]
  · exact mirroring.2.trans (turning.2.trans cropping.2)

end Transforms

end AvifStill
