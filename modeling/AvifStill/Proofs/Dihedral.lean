import AvifStill.Proofs.Rearrangement

/-!
# The laws of turning and mirroring

Quarter turns and mirrorings compose as the symmetries of a rectangle do. Two laws generate the
others: one quarter turn after any turn is the next turn, and a mirroring that is moved past a
quarter turn reverses it. Each of these compares the places that two ways of copying take a pixel
from. All other turns follow by induction on the number of quarter turns.

A raster that was turned has no padding, so it is pictures that are compared: layout, depth, size
and visible pixels.
-/

namespace AvifStill.Raster

/-- The rasters differ in padding at most. -/
structure SamePicture (first second : Raster) : Prop where
  layout : first.layout = second.layout
  depth : first.depth = second.depth
  size : first.size = second.size
  pixels : ∀ column row, first.samples? column row = second.samples? column row

namespace SamePicture

variable {first second third : Raster}

theorem refl (raster : Raster) : raster.SamePicture raster :=
  ⟨rfl, rfl, rfl, fun _ _ => rfl⟩

theorem symm (same : first.SamePicture second) : second.SamePicture first :=
  ⟨same.layout.symm, same.depth.symm, same.size.symm,
    fun column row => (same.pixels column row).symm⟩

theorem trans (same : first.SamePicture second) (other : second.SamePicture third) :
    first.SamePicture third :=
  ⟨same.layout.trans other.layout, same.depth.trans other.depth, same.size.trans other.size,
    fun column row => (same.pixels column row).trans (other.pixels column row)⟩

theorem width (same : first.SamePicture second) : first.width = second.width :=
  congrArg Prod.fst same.size

theorem height (same : first.SamePicture second) : first.height = second.height :=
  congrArg Prod.snd same.size

end SamePicture

/-! ## Copies by place -/

/-- Each pixel of a raster is the one at some place of another. -/
structure IsCopyOf (result source : Raster) (place : Nat → Nat → Nat × Nat) : Prop where
  layout : result.layout = source.layout
  depth : result.depth = source.depth
  inside : ∀ column < result.width, ∀ row < result.height,
    (place column row).1 < source.width ∧ (place column row).2 < source.height
  pixels : ∀ column < result.width, ∀ row < result.height,
    result.samples? column row = source.samples? (place column row).1 (place column row).2

theorem isCopyOf_refl (raster : Raster) : raster.IsCopyOf raster Prod.mk :=
  ⟨rfl, rfl, fun _ inWidth _ inHeight => ⟨inWidth, inHeight⟩, fun _ _ _ _ => rfl⟩

theorem isCopyOf_remap {raster : Raster} {width height : Nat} {place : Nat → Nat → Nat × Nat}
    (inside : ∀ column < width, ∀ row < height,
      (place column row).1 < raster.width ∧ (place column row).2 < raster.height) :
    (raster.remap width height place).IsCopyOf raster place := by
  refine ⟨rfl, rfl, inside, ?_⟩
  intro column inWidth row inHeight
  exact samples?_remap ⟨inWidth, inHeight⟩ (inside column inWidth row inHeight)

namespace IsCopyOf

variable {result middle source other : Raster} {outer inner place : Nat → Nat → Nat × Nat}

theorem trans (later : result.IsCopyOf middle outer) (earlier : middle.IsCopyOf source inner) :
    result.IsCopyOf source fun column row => inner (outer column row).1 (outer column row).2 := by
  refine ⟨later.layout.trans earlier.layout, later.depth.trans earlier.depth, ?_, ?_⟩
  · intro column inWidth row inHeight
    have between := later.inside column inWidth row inHeight
    exact earlier.inside _ between.1 _ between.2
  · intro column inWidth row inHeight
    have between := later.inside column inWidth row inHeight
    rw [later.pixels column inWidth row inHeight]
    exact earlier.pixels _ between.1 _ between.2

/-- Copies of one size that take their pixels from the same places show the same. -/
theorem samePicture (copy : result.IsCopyOf source outer) (another : other.IsCopyOf source inner)
    (size : result.size = other.size)
    (agree : ∀ column < result.width, ∀ row < result.height, outer column row = inner column row) :
    result.SamePicture other := by
  refine ⟨copy.layout.trans another.layout.symm, copy.depth.trans another.depth.symm, size, ?_⟩
  intro column row
  have widths : result.width = other.width := congrArg Prod.fst size
  have heights : result.height = other.height := congrArg Prod.snd size
  by_cases within : column < result.width ∧ row < result.height
  · have here := copy.pixels column within.1 row within.2
    have there := another.pixels column (widths ▸ within.1) row (heights ▸ within.2)
    rw [here, there, agree column within.1 row within.2]
  · have beyond : ¬(column < other.width ∧ row < other.height) := by
      rwa [← widths, ← heights]
    simp only [samples?, (Grid.cell?_eq_none_iff _ _ _).mpr within,
      (Grid.cell?_eq_none_iff _ _ _).mpr beyond, Option.map_none]

/-- A copy of a raster is a copy of every raster with the same picture. -/
theorem of_samePicture (copy : result.IsCopyOf source place) (same : source.SamePicture other) :
    result.IsCopyOf other place := by
  refine ⟨copy.layout.trans same.layout, copy.depth.trans same.depth, ?_, ?_⟩
  · rw [← same.width, ← same.height]
    exact copy.inside
  · intro column inWidth row inHeight
    exact (copy.pixels column inWidth row inHeight).trans (same.pixels _ _)

end IsCopyOf

/-! ## Where turns and mirrorings take their pixels from -/

/-- The place that a turn takes a pixel from. -/
def turnedPlace (turns : UInt8) (raster : Raster) (column row : Nat) : Nat × Nat :=
  match turns.toNat % 4 with
  | 1 => (raster.width - 1 - row, column)
  | 2 => (raster.width - 1 - column, raster.height - 1 - row)
  | 3 => (row, raster.height - 1 - column)
  | _ => (column, row)

/-- The place that a mirroring takes a pixel from. -/
def mirroredPlace (axis : UInt8) (raster : Raster) (column row : Nat) : Nat × Nat :=
  match axis.toNat with
  | 0 => (column, raster.height - 1 - row)
  | 1 => (raster.width - 1 - column, row)
  | _ => (column, row)

variable {raster first second : Raster}

theorem isCopyOf_rotate (raster : Raster) (turns : UInt8) :
    (raster.rotate turns).IsCopyOf raster (turnedPlace turns raster) := by
  unfold rotate turnedPlace
  rcases quarter_cases turns with none | once | twice | thrice
  · simp only [none]
    exact raster.isCopyOf_refl
  · simp only [once]
    apply isCopyOf_remap
    intro column inWidth row inHeight
    exact ⟨by omega, inWidth⟩
  · simp only [twice]
    apply isCopyOf_remap
    intro column inWidth row inHeight
    exact ⟨by omega, by omega⟩
  · simp only [thrice]
    apply isCopyOf_remap
    intro column inWidth row inHeight
    exact ⟨inHeight, by omega⟩

theorem isCopyOf_mirror (raster : Raster) (axis : UInt8) :
    (raster.mirror axis).IsCopyOf raster (mirroredPlace axis raster) := by
  unfold mirror mirroredPlace
  generalize axis.toNat = direction
  rcases direction with _ | _ | other
  · apply isCopyOf_remap
    intro column inWidth row inHeight
    exact ⟨inWidth, by omega⟩
  · apply isCopyOf_remap
    intro column inWidth row inHeight
    exact ⟨by omega, inHeight⟩
  · exact raster.isCopyOf_refl

theorem turnedPlace_congr (turns : UInt8) (size : first.size = second.size) :
    turnedPlace turns first = turnedPlace turns second := by
  have widths : first.width = second.width := congrArg Prod.fst size
  have heights : first.height = second.height := congrArg Prod.snd size
  unfold turnedPlace
  rw [widths, heights]

theorem mirroredPlace_congr (axis : UInt8) (size : first.size = second.size) :
    mirroredPlace axis first = mirroredPlace axis second := by
  have widths : first.width = second.width := congrArg Prod.fst size
  have heights : first.height = second.height := congrArg Prod.snd size
  unfold mirroredPlace
  rw [widths, heights]

theorem SamePicture.rotate (same : first.SamePicture second) (turns : UInt8) :
    (first.rotate turns).SamePicture (second.rotate turns) := by
  have copy := (isCopyOf_rotate first turns).of_samePicture same
  rw [turnedPlace_congr turns same.size] at copy
  apply copy.samePicture (isCopyOf_rotate second turns)
  · rw [size_rotate, size_rotate, same.size]
  · exact fun _ _ _ _ => rfl

theorem SamePicture.mirror (same : first.SamePicture second) (axis : UInt8) :
    (first.mirror axis).SamePicture (second.mirror axis) := by
  have copy := (isCopyOf_mirror first axis).of_samePicture same
  rw [mirroredPlace_congr axis same.size] at copy
  apply copy.samePicture (isCopyOf_mirror second axis)
  · rw [size_mirror, size_mirror, same.size]
  · exact fun _ _ _ _ => rfl

/-! ## The generating laws -/

theorem width_rotate (raster : Raster) (turns : UInt8) : (raster.rotate turns).width =
    if exchangesSides turns then raster.height else raster.width := by
  have sizes := congrArg Prod.fst (size_rotate raster turns)
  rw [apply_ite Prod.fst] at sizes
  exact sizes

theorem exchangesSides_add_one (turns : UInt8) :
    exchangesSides (turns + 1) = !exchangesSides turns := by
  have next : (turns + 1).toNat % 2 = (turns.toNat + 1) % 2 := by
    rw [UInt8.toNat_add, UInt8.toNat_one]
    omega
  unfold exchangesSides
  rw [next]
  rcases Nat.mod_two_eq_zero_or_one turns.toNat with even | odd
  · simp [even, Nat.add_mod]
  · simp [odd, Nat.add_mod]

/-- A quarter turn after some turn is the next turn. -/
theorem rotate_rotate_one (raster : Raster) (turns : UInt8) :
    ((raster.rotate turns).rotate 1).SamePicture (raster.rotate (turns + 1)) := by
  have copy := (isCopyOf_rotate (raster.rotate turns) 1).trans (isCopyOf_rotate raster turns)
  apply copy.samePicture (isCopyOf_rotate raster (turns + 1))
  · rw [size_rotate, size_rotate, size_rotate, exchangesSides_add_one]
    cases exchangesSides turns <;> rfl
  · intro column _ row inHeight
    have inside : row < (raster.rotate turns).width := inHeight
    have next : (turns + 1).toNat % 4 = (turns.toNat % 4 + 1) % 4 := by
      rw [UInt8.toNat_add, UInt8.toNat_one]
      omega
    have one : (1 : UInt8).toNat % 4 = 1 := rfl
    have parity : turns.toNat % 2 = turns.toNat % 4 % 2 := by omega
    simp only [turnedPlace, next, one]
    rw [width_rotate, exchangesSides, parity] at inside ⊢
    -- The turn that was there before decides which axis is counted back a second time, if any.
    rcases quarter_cases turns with none | once | twice | thrice
    · simp [none]
    · simp [once]
    · have inside : row < raster.width := by simpa [twice] using inside
      simp [twice, Nat.sub_sub_self (Nat.le_sub_one_of_lt inside)]
    · have inside : row < raster.height := by simpa [thrice] using inside
      simp [thrice, Nat.sub_sub_self (Nat.le_sub_one_of_lt inside)]

/-- A mirroring after a quarter turn is a quarter turn back after the mirroring. -/
theorem mirror_rotate_one (raster : Raster) {axis : UInt8} (isAxis : axis = 0 ∨ axis = 1) :
    ((raster.rotate 1).mirror axis).SamePicture ((raster.mirror axis).rotate 3) := by
  have copy := (isCopyOf_mirror (raster.rotate 1) axis).trans (isCopyOf_rotate raster 1)
  have other := (isCopyOf_rotate (raster.mirror axis) 3).trans (isCopyOf_mirror raster axis)
  apply copy.samePicture other
  · rw [size_mirror, size_rotate, size_rotate, size_mirror]
    rfl
  · intro column inWidth row inHeight
    rcases isAxis with rfl | rfl
    · have inside : column < raster.height := inWidth
      change (raster.width - 1 - (raster.width - 1 - row), column) =
        (row, raster.height - 1 - (raster.height - 1 - column))
      have inHeight : row < raster.width := inHeight
      rw [Nat.sub_sub_self (Nat.le_sub_one_of_lt inside),
        Nat.sub_sub_self (Nat.le_sub_one_of_lt inHeight)]
    · rfl

/-- Mirroring twice along one axis changes nothing. -/
theorem mirror_mirror (raster : Raster) (axis : UInt8) :
    ((raster.mirror axis).mirror axis).SamePicture raster := by
  have copy := (isCopyOf_mirror (raster.mirror axis) axis).trans (isCopyOf_mirror raster axis)
  have size : ((raster.mirror axis).mirror axis).size = raster.size := by
    rw [size_mirror, size_mirror]
  apply copy.samePicture raster.isCopyOf_refl size
  intro column inWidth row inHeight
  have widths : ((raster.mirror axis).mirror axis).width = raster.width := congrArg Prod.fst size
  have heights : ((raster.mirror axis).mirror axis).height = raster.height := congrArg Prod.snd size
  rw [widths] at inWidth
  rw [heights] at inHeight
  rw [mirroredPlace_congr axis (size_mirror raster axis)]
  unfold mirroredPlace
  generalize axis.toNat = direction
  rcases direction with _ | _ | other
  · exact Prod.ext rfl (Nat.sub_sub_self (Nat.le_sub_one_of_lt inHeight))
  · exact Prod.ext (Nat.sub_sub_self (Nat.le_sub_one_of_lt inWidth)) rfl
  · rfl

/-- Mirroring along both axes is half a turn. -/
theorem mirror_mirror_one (raster : Raster) :
    ((raster.mirror 0).mirror 1).SamePicture (raster.rotate 2) := by
  have copy := (isCopyOf_mirror (raster.mirror 0) 1).trans (isCopyOf_mirror raster 0)
  apply copy.samePicture (isCopyOf_rotate raster 2) rfl
  exact fun _ _ _ _ => rfl

/-! ## All turns -/

/-- So many quarter turns, counted without an upper end. -/
def turn (raster : Raster) (quarters : Nat) : Raster :=
  raster.rotate (UInt8.ofNat quarters)

theorem rotate_congr {turns other : UInt8} (raster : Raster)
    (same : turns.toNat % 4 = other.toNat % 4) : raster.rotate turns = raster.rotate other := by
  unfold rotate
  rw [same]

/-- Whole rounds do not count. -/
theorem turn_congr {quarters other : Nat} (raster : Raster) (same : quarters % 4 = other % 4) :
    raster.turn quarters = raster.turn other := by
  apply rotate_congr
  rw [UInt8.toNat_ofNat', UInt8.toNat_ofNat']
  omega

theorem rotate_eq_turn (raster : Raster) (turns : UInt8) :
    raster.rotate turns = raster.turn turns.toNat := by
  rw [turn, UInt8.ofNat_toNat]

theorem turn_succ (raster : Raster) (quarters : Nat) :
    ((raster.turn quarters).turn 1).SamePicture (raster.turn (quarters + 1)) := by
  have step := rotate_rotate_one raster (UInt8.ofNat quarters)
  rw [← UInt8.ofNat_one, ← UInt8.ofNat_add] at step
  exact step

theorem SamePicture.turn (same : first.SamePicture second) (quarters : Nat) :
    (first.turn quarters).SamePicture (second.turn quarters) :=
  same.rotate (UInt8.ofNat quarters)

/-- Turns add up. -/
theorem turn_turn (raster : Raster) (quarters more : Nat) :
    ((raster.turn quarters).turn more).SamePicture (raster.turn (quarters + more)) := by
  induction more with
  | zero => exact .refl _
  | succ more ih =>
      have last := (turn_succ (raster.turn quarters) more).symm
      exact last.trans ((ih.turn 1).trans (turn_succ raster (quarters + more)))

/-- A mirroring that is moved past turns reverses them: three quarters forth are one back. -/
theorem mirror_turn (raster : Raster) {axis : UInt8} (isAxis : axis = 0 ∨ axis = 1)
    (quarters : Nat) :
    ((raster.turn quarters).mirror axis).SamePicture
      ((raster.mirror axis).turn (3 * quarters)) := by
  induction quarters with
  | zero => exact .refl _
  | succ quarters ih =>
      have last := (turn_succ raster quarters).symm.mirror axis
      have moved := mirror_rotate_one (raster.turn quarters) isAxis
      have added := turn_turn (raster.mirror axis) (3 * quarters) 3
      exact last.trans (moved.trans ((ih.turn 3).trans added))

/-- The laws of turning and mirroring. -/
structure IsDihedral (raster : Raster) : Prop where
  turns : ∀ first second : UInt8, ((raster.rotate first).rotate second).SamePicture
    (raster.rotate (UInt8.ofNat ((first.toNat + second.toNat) % 4)))
  mirrorings : ∀ axis, ((raster.mirror axis).mirror axis).SamePicture raster
  reversal : ∀ turns axis : UInt8, axis = 0 ∨ axis = 1 →
    ((raster.rotate turns).mirror axis).SamePicture
      ((raster.mirror axis).rotate (UInt8.ofNat ((4 - turns.toNat % 4) % 4)))
  half : ((raster.mirror 0).mirror 1).SamePicture (raster.rotate 2)

theorem isDihedral (raster : Raster) : raster.IsDihedral := by
  constructor
  · intro first second
    have sum : raster.turn ((first.toNat + second.toNat) % 4) =
        raster.turn (first.toNat + second.toNat) := raster.turn_congr (Nat.mod_mod _ 4)
    have added := turn_turn raster first.toNat second.toNat
    rw [← sum, ← rotate_eq_turn, ← rotate_eq_turn] at added
    exact added
  · exact raster.mirror_mirror
  · intro turns axis isAxis
    have back : (raster.mirror axis).turn ((4 - turns.toNat % 4) % 4) =
        (raster.mirror axis).turn (3 * turns.toNat) := (raster.mirror axis).turn_congr (by omega)
    have moved := mirror_turn raster isAxis turns.toNat
    rw [← back, ← rotate_eq_turn] at moved
    exact moved
  · exact raster.mirror_mirror_one

end AvifStill.Raster
