import AvifStill.Av1.Config

/-!
# The codec configuration record

Writing a record and reading it back keeps everything but the bits that have no place in it: those of
a profile beyond three, of a level beyond five and of a sample position beyond two.
-/

namespace AvifStill.Av1.Config

/-- A record with the fields that are packed cut to their widths. -/
def packed (config : Config) : Config :=
  { config with
    profile := config.profile &&& 7
    level := config.level &&& 0x1f
    samplePosition := config.samplePosition &&& 3 }

@[simp]
theorem depth_packed (config : Config) : config.packed.depth = config.depth := rfl

@[simp]
theorem format_packed (config : Config) : config.packed.format = config.format := rfl

/-- What the two fields that share the second byte keep of a value. -/
theorem packed_fields : ∀ value : Fin 256,
    (UInt8.ofFin value <<< 5) >>> 5 = UInt8.ofFin value &&& 7 ∧
      (UInt8.ofFin value <<< 5) &&& 0x1f = 0 ∧ (UInt8.ofFin value &&& 0x1f) >>> 5 = 0 := by
  decide +kernel

theorem and_of_or (left right mask : UInt8) :
    (left ||| right) &&& mask = (left &&& mask) ||| (right &&& mask) :=
  UInt8.toBitVec_inj.mp BitVec.and_or_distrib_right

theorem profile_of_levels (profile level : UInt8) :
    ((profile <<< 5) ||| (level &&& 0x1f)) >>> 5 = profile &&& 7 := by
  have ofProfile := (packed_fields profile.toFin).1
  have ofLevel := (packed_fields level.toFin).2.2
  simp only [UInt8.ofFin_toFin] at ofProfile ofLevel
  rw [UInt8.shiftRight_or, ofProfile, ofLevel, UInt8.or_zero]

theorem level_of_levels (profile level : UInt8) :
    ((profile <<< 5) ||| (level &&& 0x1f)) &&& 0x1f = level &&& 0x1f := by
  have ofProfile := (packed_fields profile.toFin).2.1
  simp only [UInt8.ofFin_toFin] at ofProfile
  rw [and_of_or, ofProfile, UInt8.zero_or, UInt8.and_assoc]
  rfl

theorem and_three_cases (value : UInt8) :
    value &&& 3 = 0 ∨ value &&& 3 = 1 ∨ value &&& 3 = 2 ∨ value &&& 3 = 3 := by
  have bound : (value &&& 3).toNat < 4 := by
    have := @Nat.and_le_right value.toNat 3
    simp only [UInt8.toNat_and]
    exact Nat.lt_succ_of_le this
  simp only [← UInt8.toNat_inj]
  change (value &&& 3).toNat = 0 ∨ (value &&& 3).toNat = 1 ∨ (value &&& 3).toNat = 2 ∨
    (value &&& 3).toNat = 3
  omega

theorem flags_of_byte (tier high twelve monochrome x y : Bool) {position : UInt8}
    (small : position = 0 ∨ position = 1 ∨ position = 2 ∨ position = 3) :
    let byte := flag 7 tier ||| flag 6 high ||| flag 5 twelve ||| flag 4 monochrome |||
      flag 3 x ||| flag 2 y ||| position
    testBit byte 0x80 = tier ∧ testBit byte 0x40 = high ∧ testBit byte 0x20 = twelve ∧
      testBit byte 0x10 = monochrome ∧ testBit byte 0x08 = x ∧ testBit byte 0x04 = y ∧
      byte &&& 3 = position := by
  rcases small with rfl | rfl | rfl | rfl <;> revert tier high twelve monochrome x y <;> decide

/-- The upper three bits of a byte fit their field. -/
theorem fits_profile : ∀ levels : Fin 256,
    (UInt8.ofFin levels >>> (5 : UInt8)) &&& 7 = UInt8.ofFin levels >>> (5 : UInt8) := by
  decide +kernel

/-- A record that was read has no bits that it has no place for. -/
theorem packed_of_ofBytes? {bytes : List UInt8} {config : Config}
    (done : ofBytes? bytes = .ok config) : config.packed = config := by
  unfold ofBytes? at done
  split at done
  · rename_i marker levels flags rest
    split at done
    · cases done
      have profile := fits_profile levels.toFin
      rw [UInt8.ofFin_toFin] at profile
      simp only [packed, profile, UInt8.and_assoc, UInt8.and_self]
    · cases done
  · cases done

/-- A written record is read back, cut to the widths of its fields. -/
theorem ofBytes?_toBytes (config : Config) : ofBytes? config.toBytes = .ok config.packed := by
  have flags := flags_of_byte config.tier config.highBitDepth config.twelveBit config.monochrome
    config.subsamplingX config.subsamplingY (and_three_cases config.samplePosition)
  simp only at flags
  simp only [toBytes, ofBytes?, profile_of_levels, level_of_levels, flags, if_true]
  rfl

end AvifStill.Av1.Config
