import AvifStill.Proofs.Reload

/-!
# Metadata that comes back

A block of metadata that is asked for and long enough is written as it is, whatever its bytes are,
and comes back when the file is loaded. What a saved image reports is what its file holds: the
number of bytes to skip that stands in front of a written Exif block is always zero, so that no
block is mistaken for one.
-/

namespace AvifStill

namespace Metadata

theorem exifOfItem_append (exif : Bytes) : exifOfItem ([0, 0, 0, 0] ++ exif) = .ok exif := by
  have long : Bytes.hasAtLeast 4 ([0, 0, 0, 0] ++ exif) = true := by
    rw [Bytes.hasAtLeast_iff]
    simp
  have skipped : Bytes.toNat (([0, 0, 0, 0] ++ exif).take 4) = 0 := rfl
  unfold exifOfItem
  rw [if_neg (fun short => short long), skipped]
  rfl

theorem isSome_exifToItem? (exif : Bytes) :
    (exifToItem? exif).isSome = decide (4 ≤ exif.length) := by
  unfold exifToItem?
  by_cases long : 4 ≤ exif.length <;> simp [Bytes.hasAtLeast_iff, long]

end Metadata

namespace EncodeOptions

/-- What is kept of metadata: the blocks that are asked for, unless they are too short. -/
def kept (options : EncodeOptions) (metadata : Metadata) : Metadata where
  exif := if options.savesExif then metadata.exif.filter fun exif => 4 ≤ exif.length else none
  xmp := if options.savesXmp then metadata.xmp.filter fun xmp => xmp ≠ [] else none

theorem kept_validate {options valid : EncodeOptions} (done : options.validate = .ok valid)
    (metadata : Metadata) : valid.kept metadata = options.kept metadata := by
  unfold validate at done
  split at done
  · cases done
  · cases done
    rfl

end EncodeOptions

namespace Container

/-- The metadata of a file; an Exif item that cannot be read counts as none. -/
def metadata (container : Container) : Metadata where
  exif := container.exifItem.bind fun item => (Metadata.exifOfItem item).toOption
  xmp := container.xmp

end Container

/-- A loaded image has the metadata of its file, whatever the decoder does. -/
theorem LoadedImage.metadata_of_load {σ : Type} {options : DecodeOptions}
    {decoder : Av1.Decoder σ} {file : Bytes} {state last : σ} {container : Container}
    {loaded : LoadedImage} (parsed : Container.parse file = .ok container)
    (done : load options decoder file state = (.ok loaded, last)) :
    loaded.metadata = container.metadata := by
  rcases parts_of_load done with ⟨found, frames, opened, -, finished⟩
  cases (parse_of_open? opened).symm.trans parsed
  rcases done_of_bind finished with ⟨decoded, -, finished⟩
  rcases done_of_bind finished with ⟨drawn, -, finished⟩
  cases finished
  rfl

namespace SavedImage

open Av1 Color LoadedImage

/-- The metadata that was written, as it is reported. -/
def metadata (saved : SavedImage) : Metadata :=
  ⟨saved.exif, saved.xmp⟩

theorem written_eq_kept (options : EncodeOptions) (metadata : Metadata) :
    (⟨writtenExif options metadata, writtenXmp options metadata⟩ : Metadata) =
      options.kept metadata := by
  have notEmpty : (fun xmp : Bytes => !xmp.isEmpty) = fun xmp => decide (xmp ≠ []) := by
    funext xmp
    cases xmp <;> rfl
  simp only [writtenExif, writtenXmp, EncodeOptions.kept, Metadata.isSome_exifToItem?, notEmpty]

theorem IsReadAs.metadata {saved : SavedImage} {raster : Raster} {frame : Frame}
    {encodings : Encodings} {container : Container}
    (isReadAs : saved.IsReadAs raster frame encodings container) :
    container.metadata = saved.metadata := by
  unfold Container.metadata SavedImage.metadata
  rw [isReadAs.exifItem, isReadAs.xmp]
  cases saved.exif with
  | none => rfl
  | some exif =>
      rw [Option.map_some, Option.bind_some, Metadata.exifOfItem_append]
      rfl

section Codecs

variable {σ : Type} {encoder : Encoder σ} {decoder : Decoder σ} {raster : Raster}
  {options : EncodeOptions} {color : RasterColor} {metadata : Metadata} {state later : σ}
  {saved : SavedImage}

/-- What is reported does not depend on the codec. -/
theorem metadata_of_save
    (done : (save raster color options metadata encoder state).result = .ok saved) :
    saved.metadata = options.kept metadata := by
  rcases parts_of_save done with ⟨planned, encodings, between, isPlanned, -, assembled⟩
  rcases steps_of_plan isPlanned with ⟨host, matrix, steps⟩
  rcases done_of_bind assembled with ⟨file, -, finished⟩
  cases finished
  exact (written_eq_kept planned.options metadata).trans
    (EncodeOptions.kept_validate steps.valid metadata)

/--
With an honest codec the file of a saved image loads with the metadata that was kept, and this is
the metadata that was reported. No options and no decoder load it with other metadata.
-/
theorem metadata_of_load_save (honest : IsHonest encoder decoder)
    (done : (save raster color options metadata encoder state).result = .ok saved)
    (fits : saved.file.IsAddressable)
    (reaches : Reaches encoder decoder (save raster color options metadata encoder state).state
      later) :
    saved.metadata = options.kept metadata ∧
      (∃ loaded last, load .default decoder saved.file later = (.ok loaded, last) ∧
        loaded.metadata = options.kept metadata) ∧
      ∀ {τ : Type} (choices : DecodeOptions) (other : Decoder τ) (start finish : τ) loaded,
        load choices other saved.file start = (.ok loaded, finish) →
          loaded.metadata = options.kept metadata := by
  have reported := metadata_of_save done
  rcases reading_of_save honest.sound done fits with
    ⟨planned, host, matrix, encodings, between, -, -, -, parsed, isReadAs⟩
  have held := isReadAs.metadata.trans reported
  rcases exists_shows honest done fits reaches with
    ⟨-, -, -, -, -, loaded, last, -, -, -, loads⟩
  refine ⟨reported, ⟨loaded, last, loads, (metadata_of_load parsed loads).trans held⟩, ?_⟩
  intro τ choices other start finish loaded loads
  exact (metadata_of_load parsed loads).trans held

/-- An Exif block that begins like a number of bytes to skip, and an XMP block of a zero byte. -/
def oddMetadata : Metadata :=
  ⟨some [0, 0, 0, 9], some [0]⟩

/-- The save of a gray pair with them. -/
def oddRun : Run (List Frame) :=
  save grayPair .srgb .default oddMetadata Ledger.encoder []

theorem metadata_of_load_oddRun : ∃ saved loaded last, oddRun.result = .ok saved ∧
    load .default Ledger.decoder saved.file oddRun.state = (.ok loaded, last) ∧
      saved.metadata = oddMetadata ∧ loaded.metadata = oddMetadata := by
  rcases Run.exists_saved oddRun (by decide +kernel) with ⟨saved, done, fits⟩
  rcases metadata_of_load_save Ledger.isHonest done fits (.refl _) with
    ⟨reported, ⟨loaded, last, loads, kept⟩, -⟩
  exact ⟨saved, loaded, last, done, loads, reported, kept⟩

end Codecs

end SavedImage

end AvifStill
