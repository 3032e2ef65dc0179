import Mathlib.Data.List.Basic
import AvifStill.Proofs.EncoderCalls

/-!
# Progress and failure of a save

What a save reports tells how far its encoder got, and a fault that it returns is the first one that
occurred. What is wrong with the raster, its colour or the options is found before the encoder is
called and before anything is reported.
-/

namespace AvifStill

open Av1 Color

namespace SavedImage

variable {σ : Type}

/-! ## Refusals -/

/-- The first fault on the way to a plan. -/
inductive Refused (raster : Raster) (color : RasterColor) (options : EncodeOptions) :
    Fault → Prop where
  | options {fault : Fault} (invalid : options.validate = .error fault) :
      Refused raster color options fault
  | size {fault : Fault} {valid : EncodeOptions} (isValid : options.validate = .ok valid)
      (unfit : frameSize raster = .error fault) : Refused raster color options fault
  | color {fault : Fault} {valid : EncodeOptions} {size : UInt32 × UInt32}
      (isValid : options.validate = .ok valid) (isSize : frameSize raster = .ok size)
      (unresolved : Encoded.resolve color raster.isGrayscale valid.savesIcc = .error fault) :
      Refused raster color options fault
  | conversion {fault : Fault} {valid : EncodeOptions} {size : UInt32 × UInt32} {encoded : Encoded}
      (isValid : options.validate = .ok valid) (isSize : frameSize raster = .ok size)
      (isResolved : Encoded.resolve color raster.isGrayscale valid.savesIcc = .ok encoded)
      (unconverted : hostRaster raster valid encoded = .error fault) :
      Refused raster color options fault
  | matrix {fault : Fault} {valid : EncodeOptions} {size : UInt32 × UInt32} {encoded : Encoded}
      {host : Raster} (isValid : options.validate = .ok valid) (isSize : frameSize raster = .ok size)
      (isResolved : Encoded.resolve color raster.isGrayscale valid.savesIcc = .ok encoded)
      (isHost : hostRaster raster valid encoded = .ok host)
      (unsupported :
        YuvMatrix.ofCicp encoded.cicp.matrix encoded.cicp.primaries = .error fault) :
      Refused raster color options fault
  | planes {fault : Fault} {valid : EncodeOptions} {size : UInt32 × UInt32} {encoded : Encoded}
      {host : Raster} {matrix : YuvMatrix} (isValid : options.validate = .ok valid)
      (isSize : frameSize raster = .ok size)
      (isResolved : Encoded.resolve color raster.isGrayscale valid.savesIcc = .ok encoded)
      (isHost : hostRaster raster valid encoded = .ok host)
      (isMatrix : YuvMatrix.ofCicp encoded.cicp.matrix encoded.cicp.primaries = .ok matrix)
      (unmade : (Strategy.ofRaster host).encode host
        ⟨valid.depth, frameFormat raster valid, matrix⟩ = .error fault) :
      Refused raster color options fault

variable {raster : Raster} {color : RasterColor} {options : EncodeOptions} {fault : Fault}

theorem refused_of_plan (failed : plan raster color options = .error fault) :
    Refused raster color options fault := by
  rcases failed_of_bind failed with invalid | ⟨valid, isValid, failed⟩
  · exact .options invalid
  rcases failed_of_bind failed with unfit | ⟨size, isSize, failed⟩
  · exact .size isValid unfit
  rcases failed_of_bind failed with unresolved | ⟨encoded, isResolved, failed⟩
  · exact .color isValid isSize unresolved
  rcases failed_of_bind failed with unconverted | ⟨host, isHost, failed⟩
  · exact .conversion isValid isSize isResolved unconverted
  rcases failed_of_bind failed with unsupported | ⟨matrix, isMatrix, failed⟩
  · exact .matrix isValid isSize isResolved isHost unsupported
  rcases failed_of_bind failed with unmade | ⟨planes, -, finished⟩
  · exact .planes isValid isSize isResolved isHost isMatrix unmade
  · cases finished

theorem plan_of_refused (refused : Refused raster color options fault) :
    plan raster color options = .error fault := by
  unfold plan
  cases refused with
  | options invalid => exact bind_of_failed invalid
  | size isValid unfit => exact (bind_of_done isValid).trans (bind_of_failed unfit)
  | color isValid isSize unresolved =>
      rw [bind_of_done isValid, bind_of_done isSize]
      exact bind_of_failed unresolved
  | conversion isValid isSize isResolved unconverted =>
      rw [bind_of_done isValid, bind_of_done isSize]
      simp only [bind_of_done isResolved]
      exact bind_of_failed unconverted
  | matrix isValid isSize isResolved isHost unsupported =>
      rw [bind_of_done isValid, bind_of_done isSize]
      simp only [bind_of_done isResolved, bind_of_done isHost]
      exact bind_of_failed unsupported
  | planes isValid isSize isResolved isHost isMatrix unmade =>
      rw [bind_of_done isValid, bind_of_done isSize]
      simp only [bind_of_done isResolved, bind_of_done isHost, bind_of_done isMatrix]
      exact bind_of_failed unmade

/-! ## Reports -/

/-- A frame other than alpha has been encoded. -/
def EncodesColor (calls : List Call) : Prop :=
  ∃ call ∈ calls, call.settings.isAlpha = false ∧ call.Succeeds

def EncodesAlpha (calls : List Call) : Prop :=
  ∃ call ∈ calls, call.settings.isAlpha = true ∧ call.Succeeds

/-- The fractions that a run reports, in order. -/
def Run.fractions (run : Run σ) : List Float32 :=
  run.reached.map Milestone.fraction

theorem fraction_injective : Function.Injective Milestone.fraction := by
  intro first second same
  cases first <;> cases second <;> first | rfl | exact absurd same (by decide)

theorem fraction_mem_fractions {run : Run σ} {milestone : Milestone} :
    milestone.fraction ∈ run.fractions ↔ milestone ∈ run.reached :=
  List.mem_map_of_injective fraction_injective

section Reached

variable {result : Except Fault SavedImage}

theorem reachedBy_isPrefix : reachedBy result <+: [.colorEncoded, .alphaEncoded, .assembled] := by
  cases result with
  | error fault => exact ⟨[.assembled], rfl⟩
  | ok saved => exact List.prefix_rfl

theorem colorEncoded_mem_reachedBy : .colorEncoded ∈ reachedBy result := by
  cases result <;> exact List.mem_cons_self

theorem alphaEncoded_mem_reachedBy : .alphaEncoded ∈ reachedBy result := by
  cases result <;> exact List.mem_cons_of_mem _ List.mem_cons_self

theorem assembled_mem_reachedBy :
    .assembled ∈ reachedBy result ↔ ∃ saved, result = .ok saved := by
  cases result <;> simp [reachedBy]

end Reached

section Courses

variable {planned : Plan} {raster host : Raster} {color : RasterColor} {options : EncodeOptions}
  {matrix : YuvMatrix} {metadata : Metadata} {calls : List Call} {result : Except Fault SavedImage}
  {reached : List Milestone}

theorem isPrefix_of_course (course : Course planned metadata calls result reached) :
    reached <+: [.colorEncoded, .alphaEncoded, .assembled] := by
  cases course with
  | colorFails => exact List.nil_prefix
  | alphaFails => exact ⟨[.alphaEncoded, .assembled], rfl⟩
  | isOpaque => exact reachedBy_isPrefix
  | isTransparent => exact reachedBy_isPrefix

theorem assembled_mem_of_course (course : Course planned metadata calls result reached) :
    .assembled ∈ reached ↔ ∃ saved, result = .ok saved := by
  cases course with
  | colorFails => simp
  | alphaFails => simp
  | isOpaque => exact assembled_mem_reachedBy
  | isTransparent => exact assembled_mem_reachedBy

theorem colorEncoded_mem_of_course (steps : planned.Steps raster color options host matrix)
    (course : Course planned metadata calls result reached) :
    .colorEncoded ∈ reached ↔ EncodesColor calls := by
  have forColor := isAlpha_settings steps
  cases course with
  | colorFails => simp [EncodesColor, Call.Succeeds]
  | alphaFails => simp [EncodesColor, Call.Succeeds, forColor]
  | isOpaque => simp [EncodesColor, Call.Succeeds, forColor, colorEncoded_mem_reachedBy]
  | isTransparent => simp [EncodesColor, Call.Succeeds, forColor, colorEncoded_mem_reachedBy]

/-- Without an alpha frame, all is encoded once the colour is. -/
theorem alphaEncoded_mem_of_course (steps : planned.Steps raster color options host matrix)
    (course : Course planned metadata calls result reached) :
    .alphaEncoded ∈ reached ↔
      EncodesColor calls ∧ (raster.hasAlpha = true → EncodesAlpha calls) := by
  have forColor := isAlpha_settings steps
  have hasAlpha := hasAlpha_of_steps steps
  have forAlpha : (alphaSettings planned).isAlpha = true := rfl
  cases course with
  | colorFails => simp [EncodesColor, Call.Succeeds]
  | alphaFails isAlpha =>
      rw [isAlpha] at hasAlpha
      simp [EncodesColor, EncodesAlpha, Call.Succeeds, forColor, ← hasAlpha]
  | isOpaque noAlpha =>
      rw [noAlpha] at hasAlpha
      simp [EncodesColor, Call.Succeeds, forColor, ← hasAlpha, alphaEncoded_mem_reachedBy]
  | isTransparent =>
      simp [EncodesColor, EncodesAlpha, Call.Succeeds, forColor, forAlpha,
        alphaEncoded_mem_reachedBy]

/-- No call follows one that fails, whose fault is the result. -/
theorem result_of_course (course : Course planned metadata calls result reached) {call : Call}
    (isCall : call ∈ calls) {fault : Fault} (failed : call.answer = .error fault) :
    result = .error fault := by
  cases course with
  | colorFails =>
      rcases List.mem_singleton.mp isCall with rfl
      cases failed
      rfl
  | alphaFails =>
      rcases List.mem_pair.mp isCall with rfl | rfl
      · cases failed
      · cases failed
        rfl
  | isOpaque =>
      rcases List.mem_singleton.mp isCall with rfl
      cases failed
  | isTransparent =>
      rcases List.mem_pair.mp isCall with rfl | rfl
      · cases failed
      · cases failed

end Courses

/-- A save is refused before the first call and the first report, with nothing done. -/
theorem refused_iff (encoder : Encoder σ) (raster : Raster) (color : RasterColor)
    (options : EncodeOptions) (metadata : Metadata) (state : σ) (fault : Fault) :
    Refused raster color options fault ↔ calls encoder raster color options state = [] ∧
      save raster color options metadata encoder state = ⟨.error fault, [], state⟩ := by
  constructor
  · intro refused
    have noPlan := plan_of_refused refused
    constructor
    · simp only [calls, noPlan]
    · simp only [save, noPlan]
  · rintro ⟨noCalls, isSaved⟩
    cases isPlan : plan raster color options with
    | error found =>
        simp only [save, isPlan] at isSaved
        cases isSaved
        exact refused_of_plan isPlan
    | ok planned =>
        simp only [calls, isPlan, callsOf] at noCalls
        exact absurd noCalls (List.cons_ne_nil _ _)

/-- What the reports and the result of a save tell. -/
structure Reports (encoder : Encoder σ) (raster : Raster) (color : RasterColor)
    (options : EncodeOptions) (metadata : Metadata) (state : σ) (calls : List Call)
    (run : Run σ) : Prop where
  /-- These are the calls, and noting them changes nothing. -/
  noted : save raster color options metadata encoder.noting ([], state) = run.withNotes calls
  inOrder : run.fractions <+: [0.5, 0.75, 1.0]
  colorDone : 0.5 ∈ run.fractions ↔ EncodesColor calls
  alphaDone : 0.75 ∈ run.fractions ↔
    EncodesColor calls ∧ (raster.hasAlpha = true → EncodesAlpha calls)
  allDone : 1.0 ∈ run.fractions ↔ ∃ saved, run.result = .ok saved
  /-- The fault that the encoder answers is the one that is returned. -/
  returned : ∀ call ∈ calls, ∀ fault, call.answer = .error fault → run.result = .error fault
  /-- Other faults of a plan are found before the first call and the first report. -/
  refused : ∀ fault, Refused raster color options fault ↔
    calls = [] ∧ run = ⟨.error fault, [], state⟩

/-- Reports tell how far every encoder got, and nothing is reported of what is refused. -/
theorem reports_save (encoder : Encoder σ) (raster : Raster) (color : RasterColor)
    (options : EncodeOptions) (metadata : Metadata) (state : σ) :
    Reports encoder raster color options metadata state (calls encoder raster color options state)
      (save raster color options metadata encoder state) := by
  have noted := save_noting encoder raster color options metadata [] state
  have refused := refused_iff encoder raster color options metadata state
  cases isPlan : plan raster color options with
  | error fault =>
      have nothing := (refused fault).mp (refused_of_plan isPlan)
      rw [nothing.1, nothing.2] at noted refused ⊢
      constructor
      · exact noted
      · exact List.nil_prefix
      · simp [Run.fractions, EncodesColor]
      · simp [Run.fractions, EncodesColor]
      · simp [Run.fractions]
      · simp
      · exact refused
  | ok planned =>
      rcases steps_of_plan isPlan with ⟨host, matrix, steps⟩
      have course : Course planned metadata (calls encoder raster color options state)
          (save raster color options metadata encoder state).result
          (save raster color options metadata encoder state).reached := by
        simp only [calls, save, isPlan]
        exact course_execute encoder planned metadata state
      constructor
      · exact noted
      · exact (isPrefix_of_course course).map Milestone.fraction
      · exact fraction_mem_fractions.trans (colorEncoded_mem_of_course steps course)
      · exact fraction_mem_fractions.trans (alphaEncoded_mem_of_course steps course)
      · exact fraction_mem_fractions.trans (assembled_mem_of_course course)
      · intro call isCall fault failed
        exact result_of_course course isCall failed
      · exact refused

end SavedImage

end AvifStill
