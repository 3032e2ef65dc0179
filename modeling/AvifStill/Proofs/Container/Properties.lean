import AvifStill.Proofs.Av1.Config
import AvifStill.Proofs.Container.References

/-!
# The written properties

Each property of a written file is paired with what the lenient reader makes of it and with the name
that the strict reader keeps of it. A clean aperture with a zero denominator can be written, and the
lenient reader takes it, but the strict reader refuses it; nothing else that is written is refused,
unless the image is empty.
-/

namespace AvifStill

/-- Whether no denominator of a clean aperture is zero. -/
structure CleanAperture.HasDenominators (clap : CleanAperture) : Prop where
  width : clap.widthDenominator ≠ 0
  height : clap.heightDenominator ≠ 0
  offsetX : clap.offsetXDenominator ≠ 0
  offsetY : clap.offsetYDenominator ≠ 0

namespace Container

open Item Scan Payload.Window

/-- A written property with what the two readers make of it. -/
structure Described where
  written : Written
  property : Property
  /-- The name of an auxiliary image, if the property is one. -/
  name : Option Bytes

namespace Described

/-- The lenient reader makes of the property what is said. -/
def IsRead (described : Described) : Prop :=
  (Property.scan described.written.box.kind).run' described.written.box.content =
    .ok described.property

/-- So does the strict reader, to the end of the box. -/
def IsReadStrictly (described : Described) : Prop :=
  Payload.Table.scanProperty described.written.box.kind described.written.box.content =
    .ok (described.name, [])

end Described

/-! ## Single properties -/

def describeExtent (width height : UInt32) : Described :=
  ⟨⟨.full .ispe 0 (word width ++ word height), false⟩, .extent width height, none⟩

theorem isRead_extent (width height : UInt32) : (describeExtent width height).IsRead := by
  apply Reads.run'
  refine Reads.bind (Reads.natOfBytes truncated (rfl : [(0 : UInt8), 0, 0, 0].length = 4)) ?_
  refine Reads.bind (Reads.word truncated width) ?_
  exact (Reads.word truncated height).bind_pure (Property.extent width)

theorem toNat_word_lt (value : UInt32) : value.toNat < Bytes.capacity 4 := by
  rw [Bytes.capacity_four]
  exact value.toNat_lt

theorem bne_zero {value : UInt32} (positive : value ≠ 0) : (value.toNat != 0) = true := by
  have : value.toNat ≠ 0 := fun isZero => positive (UInt32.toNat_inj.mp isZero)
  simp [this]

/-- The strict reader takes a size if neither side is zero. -/
theorem isReadStrictly_extent {width height : UInt32} (wide : width ≠ 0) (high : height ≠ 0) :
    (describeExtent width height).IsReadStrictly := by
  have both : ((width.toNat != 0) && (height.toNat != 0)) = true := by
    rw [bne_zero wide, bne_zero high]
    rfl
  have reads : Reads Payload.Table.scanExtents
      ([0, 0, 0, 0] ++ (word width ++ word height)) () := by
    refine Reads.bind (reads_skip rfl) ?_
    refine Reads.bind (reads_nat (toNat_word_lt width)) ?_
    rw [← List.append_nil (word height)]
    refine Reads.bind (reads_nat (toNat_word_lt height)) ?_
    exact reads_require both
  exact (reads.bind_pure fun _ => (none : Option Bytes)).apply

/-- The codec configuration of a written file. -/
def record (depth : Nat) (profile : UInt8) (monochrome subsamplingX subsamplingY : Bool) :
    Av1.Config where
  profile := profile
  level := 31
  tier := false
  highBitDepth := decide (10 ≤ depth)
  twelveBit := decide (12 ≤ depth)
  monochrome := monochrome
  subsamplingX := subsamplingX
  subsamplingY := subsamplingY
  samplePosition := 0

def describeConfig (config : Av1.Config) : Described :=
  ⟨⟨⟨.av1C, config.toBytes⟩, true⟩, .config config.packed, none⟩

theorem isRead_config (config : Av1.Config) : (describeConfig config).IsRead := by
  apply Reads.run'
  change Reads _ (config.toBytes ++ []) _
  refine Reads.bind (Reads.bytes truncated rfl) ?_
  apply Reads.map
  intro after
  rw [Av1.Config.ofBytes?_toBytes]
  rfl

theorem isReadStrictly_config (config : Av1.Config) : (describeConfig config).IsReadStrictly :=
  rfl

def describeChannels (channels depth : Nat) : Described :=
  ⟨⟨channelsBox channels depth, false⟩, .other, none⟩

theorem isRead_channels (channels depth : Nat) : (describeChannels channels depth).IsRead :=
  rfl

theorem isReadStrictly_channels {channels : Nat} (few : channels ≤ 16) (depth : Nat) :
    (describeChannels channels depth).IsReadStrictly := by
  have small : channels < 256 := by omega
  have count : Bytes.toNat [UInt8.ofNat channels] = channels := by
    simp [Bytes.toNat, Nat.mod_eq_of_lt small]
  have finishes : Payload.Table.scanChannels
      ([0] ++ ([0, 0, 0] ++ ([UInt8.ofNat channels] ++
        List.replicate channels (UInt8.ofNat depth)))) = .ok ((), []) := by
    refine Reads.bind_rest (reads_natOfBytes rfl) ?_
    refine Reads.bind_nothing_rest (reads_require rfl) ?_
    refine Reads.bind_rest (reads_skip rfl) ?_
    refine Reads.bind_rest (reads_natOfBytes rfl) ?_
    rw [count, Nat.min_eq_left few]
    exact (bind_of_ok (reads_skip List.length_replicate).apply).trans rfl
  exact (bind_of_ok finishes).trans rfl

def describeProfile (icc : Bytes) : Described :=
  ⟨⟨colorBox .prof icc, false⟩, .profile icc, none⟩

theorem isRead_profile (icc : Bytes) : (describeProfile icc).IsRead :=
  rfl

theorem isReadStrictly_profile (icc : Bytes) : (describeProfile icc).IsReadStrictly :=
  rfl

def describeCodePoints (cicp : Cicp) : Described :=
  ⟨⟨colorBox .nclx
      (Bytes.ofNat 2 cicp.primaries.code.toNat ++ Bytes.ofNat 2 cicp.transfer.code.toNat ++
        Bytes.ofNat 2 cicp.matrix.code.toNat ++ [if cicp.fullRange then 0x80 else 0]), false⟩,
    .codePoints cicp, none⟩

theorem reads_code (code : UInt8) : Reads Property.scanCode (Bytes.ofNat 2 code.toNat) code := by
  have bound := code.toNat_lt
  have fits : code.toNat < Bytes.capacity 2 := by
    rw [Bytes.capacity_two]
    omega
  have reads := (Reads.nat truncated fits).bind_pure fun value => UInt8.ofNat (min value 255)
  rw [Nat.min_eq_left (by omega), UInt8.ofNat_toNat] at reads
  exact reads

theorem isRead_codePoints (cicp : Cicp) : (describeCodePoints cicp).IsRead := by
  rcases cicp with ⟨⟨primaries⟩, ⟨transfer⟩, ⟨matrix⟩, fullRange⟩
  have range : Av1.Config.testBit (if fullRange then 0x80 else 0) 0x80 = fullRange := by
    cases fullRange <;> rfl
  have readsRange := (Reads.byte truncated (if fullRange then 0x80 else 0)).bind_pure fun range =>
    Property.codePoints ⟨⟨primaries⟩, ⟨transfer⟩, ⟨matrix⟩, Av1.Config.testBit range 0x80⟩
  rw [range] at readsRange
  apply Reads.run'
  simp only [describeCodePoints, colorBox, List.append_assoc]
  refine Reads.bind (Reads.fourCC truncated .nclx) ?_
  refine Reads.bind (reads_code primaries) ?_
  refine Reads.bind (reads_code transfer) ?_
  exact (reads_code matrix).bind readsRange

theorem isReadStrictly_codePoints (cicp : Cicp) : (describeCodePoints cicp).IsReadStrictly :=
  rfl

def describeRotation (turns : UInt8) : Described :=
  ⟨⟨⟨.irot, [turns &&& 3]⟩, true⟩, .rotation (turns &&& 3), none⟩

theorem isRead_rotation (turns : UInt8) : (describeRotation turns).IsRead := by
  have same : turns &&& 3 &&& 3 = turns &&& 3 := by
    rw [UInt8.and_assoc]
    rfl
  have reads := ((Reads.byte truncated (turns &&& 3)).bind_pure fun value =>
    Property.rotation (value &&& 3)).run'
  rw [same] at reads
  exact reads

theorem isReadStrictly_rotation (turns : UInt8) : (describeRotation turns).IsReadStrictly :=
  rfl

def describeMirror (axis : UInt8) : Described :=
  ⟨⟨⟨.imir, [axis &&& 1]⟩, true⟩, .mirror (axis &&& 1), none⟩

theorem isRead_mirror (axis : UInt8) : (describeMirror axis).IsRead := by
  have same : axis &&& 1 &&& 1 = axis &&& 1 := by
    rw [UInt8.and_assoc]
    rfl
  have reads := ((Reads.byte truncated (axis &&& 1)).bind_pure fun value =>
    Property.mirror (value &&& 1)).run'
  rw [same] at reads
  exact reads

theorem isReadStrictly_mirror (axis : UInt8) : (describeMirror axis).IsReadStrictly :=
  rfl

def describeClap (clap : CleanAperture) : Described :=
  ⟨⟨clapBox clap, true⟩, .clap clap, none⟩

theorem isRead_clap (clap : CleanAperture) : (describeClap clap).IsRead := by
  apply Reads.run'
  simp only [describeClap, clapBox, List.append_assoc]
  refine Reads.bind (Reads.word truncated clap.widthNumerator) ?_
  refine Reads.bind (Reads.word truncated clap.widthDenominator) ?_
  refine Reads.bind (Reads.word truncated clap.heightNumerator) ?_
  refine Reads.bind (Reads.word truncated clap.heightDenominator) ?_
  refine Reads.bind (Reads.word truncated clap.offsetXNumerator) ?_
  refine Reads.bind (Reads.word truncated clap.offsetXDenominator) ?_
  refine Reads.bind (Reads.word truncated clap.offsetYNumerator) ?_
  exact (Reads.word truncated clap.offsetYDenominator).bind_pure fun offsetYDenominator =>
    Property.clap { clap with offsetYDenominator }

/-- One fraction of a clean aperture, as the strict reader checks it. -/
def checkFraction : Scan Unit := do
  skip 4
  let denominator ← Payload.Window.nat 4
  require (denominator != 0)

theorem scanClap_eq :
    Payload.Table.scanClap =
      (do checkFraction; checkFraction; checkFraction; checkFraction; skipRest) := by
  unfold Payload.Table.scanClap
  simp only [List.forIn_cons, List.forIn_nil, bind_assoc, pure_bind, checkFraction]

theorem reads_checkFraction (numerator : UInt32) {denominator : UInt32}
    (nonzero : denominator ≠ 0) :
    Reads checkFraction (word numerator ++ word denominator) () := by
  refine Reads.bind (reads_skip (Bytes.length_ofNat 4 numerator.toNat)) ?_
  rw [← List.append_nil (word denominator)]
  refine Reads.bind (reads_nat (toNat_word_lt denominator)) ?_
  exact reads_require (bne_zero nonzero)

theorem checkFraction_zero (numerator : UInt32) (after : Bytes) :
    checkFraction (word numerator ++ (word 0 ++ after)) = .error .container := by
  refine (bind_of_ok (reads_skip (Bytes.length_ofNat 4 numerator.toNat) _)).trans ?_
  exact bind_of_ok (reads_nat (by decide : 0 < Bytes.capacity 4) after)

theorem content_clapBox (clap : CleanAperture) :
    (clapBox clap).content =
      (word clap.widthNumerator ++ word clap.widthDenominator) ++
      ((word clap.heightNumerator ++ word clap.heightDenominator) ++
      ((word clap.offsetXNumerator ++ word clap.offsetXDenominator) ++
      ((word clap.offsetYNumerator ++ word clap.offsetYDenominator) ++ []))) := by
  simp [clapBox]

theorem isReadStrictly_clap {clap : CleanAperture} (has : clap.HasDenominators) :
    (describeClap clap).IsReadStrictly := by
  have finishes : Payload.Table.scanClap (clapBox clap).content = .ok ((), []) := by
    rw [content_clapBox, scanClap_eq]
    refine Reads.bind_rest (reads_checkFraction _ has.width) ?_
    refine Reads.bind_rest (reads_checkFraction _ has.height) ?_
    refine Reads.bind_rest (reads_checkFraction _ has.offsetX) ?_
    exact Reads.bind_rest (reads_checkFraction _ has.offsetY) rfl
  exact (bind_of_ok finishes).trans rfl

/-- The first fraction without a denominator is a fault. -/
theorem scanClap_error {clap : CleanAperture} (lacks : ¬clap.HasDenominators) :
    Payload.Table.scanClap (clapBox clap).content = .error .container := by
  rw [content_clapBox, scanClap_eq]
  by_cases width : clap.widthDenominator = 0
  · rw [width, List.append_assoc]
    exact bind_of_error (checkFraction_zero _ _)
  rw [bind_of_ok (reads_checkFraction _ width _)]
  by_cases height : clap.heightDenominator = 0
  · rw [height, List.append_assoc]
    exact bind_of_error (checkFraction_zero _ _)
  rw [bind_of_ok (reads_checkFraction _ height _)]
  by_cases offsetX : clap.offsetXDenominator = 0
  · rw [offsetX, List.append_assoc]
    exact bind_of_error (checkFraction_zero _ _)
  rw [bind_of_ok (reads_checkFraction _ offsetX _)]
  by_cases offsetY : clap.offsetYDenominator = 0
  · rw [offsetY, List.append_assoc]
    exact bind_of_error (checkFraction_zero _ _)
  exact absurd ⟨width, height, offsetX, offsetY⟩ lacks

theorem scanProperty_clap_error {clap : CleanAperture} (lacks : ¬clap.HasDenominators) :
    Payload.Table.scanProperty (clapBox clap).kind (clapBox clap).content = .error .container :=
  @bind_of_error _ _ _ (fun _ => pure none) _ _ (scanClap_error lacks)

def describeAlpha : Described :=
  ⟨⟨.full .auxC 0 (alphaName ++ [0]), false⟩, .auxiliary alphaName, some alphaName⟩

theorem isRead_alpha : describeAlpha.IsRead := by
  apply Reads.run'
  refine Reads.bind (Reads.natOfBytes truncated (rfl : [(0 : UInt8), 0, 0, 0].length = 4)) ?_
  exact (reads_text (by decide : (0 : UInt8) ∉ alphaName)).map Property.auxiliary

theorem isReadStrictly_alpha : describeAlpha.IsReadStrictly :=
  rfl

end Container

end AvifStill
