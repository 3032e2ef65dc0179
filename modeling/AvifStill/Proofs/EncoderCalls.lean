import AvifStill.Proofs.Color.Description
import AvifStill.Proofs.Save

/-!
# What the encoder is handed

An encoder that notes down its calls answers as before, so the notes tell what every encoder is
handed. A save hands over the colour frame and, once that is encoded, the alpha frame if there is
one. Every frame is valid and fits the raster and the options, and so do the settings. The frames are
made before the first call, which cannot fail for a raster that has pixels.
-/

namespace AvifStill

open Av1 Color

variable {σ : Type}

/-- One call of an encoder and its answer. -/
structure Av1.Call where
  frame : Frame
  settings : Settings
  answer : Except Fault Payload

def Av1.Call.Succeeds (call : Call) : Prop :=
  ∃ payload, call.answer = .ok payload

/-- The same encoder, which also notes down its calls. -/
def Av1.Encoder.noting (encoder : Encoder σ) : Encoder (List Call × σ) where
  encode frame settings state :=
    let (answer, after) := encoder.encode frame settings state.2
    (answer, (state.1 ++ [⟨frame, settings, answer⟩], after))

namespace SavedImage

/-! ## The notes of a save -/

def callOf (encoder : Encoder σ) (frame : Frame) (settings : Settings) (state : σ) : Call :=
  ⟨frame, settings, (encoder.encode frame settings state).1⟩

/-- The calls for the alpha frame of a plan, one at most. -/
def alphaCalls (encoder : Encoder σ) (plan : Plan) (state : σ) : List Call :=
  plan.planes.alpha.toList.map fun alpha => callOf encoder alpha (alphaSettings plan) state

/-- The calls by which a plan is carried out. -/
def callsOf (encoder : Encoder σ) (plan : Plan) (state : σ) : List Call :=
  callOf encoder plan.planes.color plan.settings state ::
    match encoder.encode plan.planes.color plan.settings state with
    | (.error _, _) => []
    | (.ok _, between) => alphaCalls encoder plan between

/-- The calls of a save, which makes none without a plan. -/
def calls (encoder : Encoder σ) (raster : Raster) (color : RasterColor) (options : EncodeOptions)
    (state : σ) : List Call :=
  match plan raster color options with
  | .error _ => []
  | .ok plan => callsOf encoder plan state

/-- The same outcome, with notes in front of the state. -/
def Run.withNotes (run : Run σ) (notes : List Call) : Run (List Call × σ) :=
  ⟨run.result, run.reached, (notes, run.state)⟩

theorem encodeAlpha_noting (encoder : Encoder σ) (planned : Plan) (notes : List Call) (state : σ) :
    encodeAlpha encoder.noting planned (notes, state) =
      ((encodeAlpha encoder planned state).1,
        (notes ++ alphaCalls encoder planned state, (encodeAlpha encoder planned state).2)) := by
  unfold encodeAlpha alphaCalls
  cases planned.planes.alpha with
  | none => simp
  | some alpha => rfl

theorem execute_noting (encoder : Encoder σ) (planned : Plan) (metadata : Metadata)
    (notes : List Call) (state : σ) : execute encoder.noting planned metadata (notes, state) =
      (execute encoder planned metadata state).withNotes (notes ++ callsOf encoder planned state) := by
  have noted : encoder.noting.encode planned.planes.color planned.settings (notes, state) =
      ((encoder.encode planned.planes.color planned.settings state).1,
        (notes ++ [callOf encoder planned.planes.color planned.settings state],
          (encoder.encode planned.planes.color planned.settings state).2)) := rfl
  unfold execute callsOf
  rw [noted]
  rcases encoder.encode planned.planes.color planned.settings state with ⟨answer, between⟩
  cases answer with
  | error fault => rfl
  | ok color =>
      simp only [encodeAlpha_noting, List.append_assoc, List.cons_append, List.nil_append]
      rcases encodeAlpha encoder planned between with ⟨alpha, after⟩
      cases alpha with
      | error fault => rfl
      | ok alpha =>
          simp only
          cases assemble planned metadata ⟨color, alpha⟩ <;> rfl

/-- Noting changes nothing, and what is noted are these calls. -/
theorem save_noting (encoder : Encoder σ) (raster : Raster) (color : RasterColor)
    (options : EncodeOptions) (metadata : Metadata) (notes : List Call) (state : σ) :
    save raster color options metadata encoder.noting (notes, state) =
      (save raster color options metadata encoder state).withNotes
        (notes ++ calls encoder raster color options state) := by
  unfold save calls
  cases plan raster color options with
  | error fault => simp [Run.withNotes]
  | ok planned => exact execute_noting encoder planned metadata notes state

/-! ## The course of a save -/

/-- What is reached once all frames are encoded. -/
def reachedBy : Except Fault SavedImage → List Milestone
  | .error _ => [.colorEncoded, .alphaEncoded]
  | .ok _ => [.colorEncoded, .alphaEncoded, .assembled]

/-- The calls by which a plan is carried out, with what comes of them. -/
inductive Course (plan : Plan) (metadata : Metadata) :
    List Call → Except Fault SavedImage → List Milestone → Prop where
  | colorFails {fault : Fault} :
      Course plan metadata [⟨plan.planes.color, plan.settings, .error fault⟩] (.error fault) []
  | alphaFails {alpha : Frame} {payload : Payload} {fault : Fault}
      (isAlpha : plan.planes.alpha = some alpha) :
      Course plan metadata [⟨plan.planes.color, plan.settings, .ok payload⟩,
        ⟨alpha, alphaSettings plan, .error fault⟩] (.error fault) [.colorEncoded]
  | isOpaque {payload : Payload} (noAlpha : plan.planes.alpha = none) :
      Course plan metadata [⟨plan.planes.color, plan.settings, .ok payload⟩]
        (assemble plan metadata ⟨payload, none⟩) (reachedBy (assemble plan metadata ⟨payload, none⟩))
  | isTransparent {alpha : Frame} {payload other : Payload}
      (isAlpha : plan.planes.alpha = some alpha) :
      Course plan metadata [⟨plan.planes.color, plan.settings, .ok payload⟩,
          ⟨alpha, alphaSettings plan, .ok other⟩]
        (assemble plan metadata ⟨payload, some other⟩)
        (reachedBy (assemble plan metadata ⟨payload, some other⟩))

theorem execute_of_areFrom {encoder : Encoder σ} {planned : Plan} {encodings : Encodings}
    {state between after : σ} (areFrom : encodings.AreFrom encoder planned state between after)
    (metadata : Metadata) :
    (execute encoder planned metadata state).result = assemble planned metadata encodings ∧
      (execute encoder planned metadata state).reached =
        reachedBy (assemble planned metadata encodings) := by
  unfold execute
  simp only [areFrom.color, areFrom.alpha]
  cases assemble planned metadata encodings <;> exact ⟨rfl, rfl⟩

/-- Every encoder takes a plan one of these courses. -/
theorem course_execute (encoder : Encoder σ) (planned : Plan) (metadata : Metadata) (state : σ) :
    Course planned metadata (callsOf encoder planned state)
      (execute encoder planned metadata state).result
      (execute encoder planned metadata state).reached := by
  rcases isColor : encoder.encode planned.planes.color planned.settings state
    with ⟨answer, between⟩
  cases answer with
  | error fault =>
      simp only [callsOf, callOf, execute, isColor]
      exact .colorFails
  | ok payload =>
      cases isAlpha : planned.planes.alpha with
      | none =>
          have areFrom : Encodings.AreFrom ⟨payload, none⟩ encoder planned state between between :=
            ⟨isColor, by simp only [encodeAlpha, isAlpha]⟩
          have ends := execute_of_areFrom areFrom metadata
          rw [ends.1, ends.2]
          simp only [callsOf, callOf, alphaCalls, isColor, isAlpha]
          exact .isOpaque isAlpha
      | some alpha =>
          rcases answered : encoder.encode alpha (alphaSettings planned) between
            with ⟨answer, after⟩
          cases answer with
          | error fault =>
              simp only [callsOf, callOf, alphaCalls, execute, encodeAlpha, isColor, isAlpha,
                Option.toList_some, List.map_cons, List.map_nil, answered, Except.map]
              exact .alphaFails isAlpha
          | ok other =>
              have areFrom :
                  Encodings.AreFrom ⟨payload, some other⟩ encoder planned state between after :=
                ⟨isColor, by simp only [encodeAlpha, isAlpha, answered, Except.map]⟩
              have ends := execute_of_areFrom areFrom metadata
              rw [ends.1, ends.2]
              simp only [callsOf, callOf, alphaCalls, isColor, isAlpha, Option.toList_some,
                List.map_cons, List.map_nil, answered]
              exact .isTransparent isAlpha

/-! ## Frames and settings -/

/-- What holds of every frame that is handed over. -/
structure IsFrameOf (frame : Frame) (raster : Raster) (options : EncodeOptions) : Prop where
  valid : frame.validate = .ok ()
  width : frame.width = raster.width
  height : frame.height = raster.height
  depth : frame.depth = options.depth
  range : frame.range = .full

/-- What holds of all settings that are handed over. -/
structure AreSettingsFor (settings : Settings) (raster : Raster) : Prop where
  quantizers : settings.leastQuantizer ≤ settings.mostQuantizer
  coarsest : settings.mostQuantizer ≤ 63
  speed : settings.speed ≤ 10
  threads : 1 ≤ settings.threads ∧ settings.threads ≤ 64
  tiles : ∃ width height : UInt32, width.toNat = raster.width ∧ height.toNat = raster.height ∧
    Tile.plan width height = ⟨settings.tileColumnsLog2, settings.tileRowsLog2⟩

structure IsForColor (call : Call) (raster : Raster) (options : EncodeOptions) : Prop where
  frame : IsFrameOf call.frame raster options
  format : call.frame.format = if raster.isGrayscale then .monochrome else options.format
  settings : AreSettingsFor call.settings raster
  isAlpha : call.settings.isAlpha = false

/-- The settings of alpha differ from those of colour in three places. -/
structure IsForAlpha (call first : Call) (raster : Raster) (options : EncodeOptions) : Prop where
  frame : IsFrameOf call.frame raster options
  format : call.frame.format = .monochrome
  settings : AreSettingsFor call.settings raster
  changed : call.settings = { first.settings with
    leastQuantizer := 0
    mostQuantizer := min options.alphaQuantizer 63
    isAlpha := true }

/-- The calls of a save, in order. -/
inductive InTurn (raster : Raster) (options : EncodeOptions) : List Call → Prop where
  | nothing : InTurn raster options []
  | colorFails {first : Call} (isForColor : IsForColor first raster options)
      (fails : ¬first.Succeeds) : InTurn raster options [first]
  | isOpaque {first : Call} (isForColor : IsForColor first raster options)
      (succeeds : first.Succeeds) (noAlpha : raster.hasAlpha = false) :
      InTurn raster options [first]
  | isTransparent {first second : Call} (isForColor : IsForColor first raster options)
      (succeeds : first.Succeeds) (hasAlpha : raster.hasAlpha = true)
      (isForAlpha : IsForAlpha second first raster options) :
      InTurn raster options [first, second]

section Steps

variable {planned : Plan} {raster host : Raster} {color : RasterColor} {options : EncodeOptions}
  {matrix : YuvMatrix}

theorem isFrameOf_of_steps (steps : planned.Steps raster color options host matrix) {frame : Frame}
    (isMade : frame.IsMadeOf host.width host.height options.depth) :
    IsFrameOf frame raster options := by
  have size := (layout_hostRaster steps.isHost).2
  constructor
  · exact isMade.valid
  · exact isMade.sizeWidth.trans size.1
  · exact isMade.sizeHeight.trans size.2
  · exact isMade.depth
  · exact isMade.range

theorem areSettingsFor_of_steps (steps : planned.Steps raster color options host matrix) :
    AreSettingsFor planned.settings raster ∧ AreSettingsFor (alphaSettings planned) raster := by
  have size := size_of_frameSize steps.size
  rcases EncodeOptions.ranges_validate steps.valid with
    ⟨quantizers, coarsest, alphaQuantizer, speed, threads⟩
  have forColor : AreSettingsFor planned.settings raster := by
    rw [steps.settings]
    exact ⟨quantizers, coarsest, speed, threads, planned.width, planned.height, size.1, size.2, rfl⟩
  refine ⟨forColor, Nat.zero_le _, ?_, forColor.speed, forColor.threads, forColor.tiles⟩
  refine Nat.le_trans (Nat.le_of_eq alphaQuantizer) ?_
  exact Nat.min_le_right _ _

theorem isAlpha_settings (steps : planned.Steps raster color options host matrix) :
    planned.settings.isAlpha = false := by
  rw [steps.settings]
  rfl

theorem isForColor_of_steps (steps : planned.Steps raster color options host matrix)
    (answer : Except Fault Payload) :
    IsForColor ⟨planned.planes.color, planned.settings, answer⟩ raster options := by
  have made := planes_of_steps steps
  have sameGray : host.isGrayscale = raster.isGrayscale :=
    congrArg ChannelLayout.isGray (layout_hostRaster steps.isHost).1
  have format := (EncodeOptions.color_validate steps.valid).2
  constructor
  · exact isFrameOf_of_steps steps made.color
  · rw [made.format, sameGray, ← format]
    -- A gray raster has no chroma under either rule.
    cases isGray : raster.isGrayscale with
    | true => rfl
    | false => simp [frameFormat, isGray]
  · exact (areSettingsFor_of_steps steps).1
  · exact isAlpha_settings steps

theorem isForAlpha_of_steps (steps : planned.Steps raster color options host matrix)
    {alpha : Frame} (isAlpha : planned.planes.alpha = some alpha)
    (answer first : Except Fault Payload) :
    IsForAlpha ⟨alpha, alphaSettings planned, answer⟩
      ⟨planned.planes.color, planned.settings, first⟩ raster options := by
  have made := (planes_of_steps steps).alpha alpha isAlpha
  constructor
  · exact isFrameOf_of_steps steps made.1
  · exact made.2
  · exact (areSettingsFor_of_steps steps).2
  · rw [← (EncodeOptions.ranges_validate steps.valid).2.2.1]
    rfl

theorem inTurn_of_course (steps : planned.Steps raster color options host matrix)
    {metadata : Metadata} {calls : List Call} {result : Except Fault SavedImage}
    {reached : List Milestone} (course : Course planned metadata calls result reached) :
    InTurn raster options calls := by
  have hasAlpha := hasAlpha_of_steps steps
  cases course with
  | colorFails =>
      apply InTurn.colorFails (isForColor_of_steps steps _)
      rintro ⟨payload, answer⟩
      cases answer
  | alphaFails isAlpha =>
      rw [isAlpha] at hasAlpha
      exact .isTransparent (isForColor_of_steps steps _) ⟨_, rfl⟩ hasAlpha.symm
        (isForAlpha_of_steps steps isAlpha _ _)
  | isOpaque noAlpha =>
      rw [noAlpha] at hasAlpha
      exact .isOpaque (isForColor_of_steps steps _) ⟨_, rfl⟩ hasAlpha.symm
  | isTransparent isAlpha =>
      rw [isAlpha] at hasAlpha
      exact .isTransparent (isForColor_of_steps steps _) ⟨_, rfl⟩ hasAlpha.symm
        (isForAlpha_of_steps steps isAlpha _ _)

end Steps

theorem inTurn_calls (encoder : Encoder σ) (raster : Raster) (color : RasterColor)
    (options : EncodeOptions) (state : σ) :
    InTurn raster options (calls encoder raster color options state) := by
  unfold calls
  cases isPlan : plan raster color options with
  | error fault => exact .nothing
  | ok planned =>
      rcases steps_of_plan isPlan with ⟨host, matrix, steps⟩
      exact inTurn_of_course steps (course_execute encoder planned ⟨none, none⟩ state)

/-! ## Frames can be made -/

/-- The depth class is that of the coded depth, with or without a conversion. -/
theorem depth_hostRaster {raster host : Raster} {options : EncodeOptions} {color : Encoded}
    (done : hostRaster raster options color = .ok host) : host.depth = .ofCoded options.depth := by
  have adapted := raster.depth_adaptDepth options.depth
  unfold hostRaster at done
  simp only at done
  split at done
  · exact (Raster.of_convert done).2.depth.trans adapted
  · cases done
    exact adapted

/-- Colour is never written with a matrix that is unknown or that needs all chroma samples. -/
theorem exists_matrix {color : RasterColor} {isGray savesProfile : Bool} {encoded : Encoded}
    (done : Encoded.resolve color isGray savesProfile = .ok encoded) :
    ∃ matrix, YuvMatrix.ofCicp encoded.cicp.matrix encoded.cicp.primaries = .ok matrix ∧
      matrix.isIdentity = false := by
  rcases (Encoded.codes_of_resolve done).2.1 with code | code
  · rw [code]
    exact ⟨_, rfl, rfl⟩
  · rw [code]
    exact ⟨_, rfl, rfl⟩

/-- A raster with pixels has frames as soon as its colour is converted. -/
theorem exists_planes {raster host : Raster} {color : RasterColor} {options : EncodeOptions}
    {encoded : Encoded} (shape : Frame.HasShape raster.width raster.height options.depth)
    (resolved : Encoded.resolve color raster.isGrayscale options.savesIcc = .ok encoded)
    (isHost : hostRaster raster options encoded = .ok host) :
    ∃ matrix planes, YuvMatrix.ofCicp encoded.cicp.matrix encoded.cicp.primaries = .ok matrix ∧
      (Strategy.ofRaster host).encode host ⟨options.depth, frameFormat raster options, matrix⟩ =
        .ok planes := by
  rcases exists_matrix resolved with ⟨matrix, isMatrix, weighted⟩
  have size := (layout_hostRaster isHost).2
  have suits : matrix.isIdentity = true → frameFormat raster options = .yuv444 := by
    intro isIdentity
    cases weighted.symm.trans isIdentity
  have hostShape : Frame.HasShape host.width host.height options.depth := by
    rw [size.1, size.2]
    exact shape
  have made := @Strategy.exists_encode host ⟨options.depth, frameFormat raster options, matrix⟩
    hostShape suits (depth_hostRaster isHost)
  rcases made with ⟨planes, made⟩
  exact ⟨matrix, planes, isMatrix, made⟩

theorem shape_of_frameSize {raster : Raster} {size : UInt32 × UInt32} {codedDepth : Nat}
    (done : frameSize raster = .ok size) (coded : Frame.IsCodedDepth codedDepth) :
    Frame.HasShape raster.width raster.height codedDepth := by
  unfold frameSize at done
  split at done
  · cases done
  rename_i hasPixels
  split at done
  · cases done
  rename_i small
  simp only [not_or, Nat.not_le] at hasPixels small
  refine ⟨hasPixels.1, hasPixels.2, coded, ?_⟩
  calc raster.width * raster.height
    _ < UInt32.size * UInt32.size := Nat.mul_lt_mul'' small.1 small.2
    _ = UInt64.size := rfl

/-- A plan is made as soon as the colour is converted. -/
theorem exists_plan {raster host : Raster} {color : RasterColor} {options valid : EncodeOptions}
    {size : UInt32 × UInt32} {encoded : Encoded} (isValid : options.validate = .ok valid)
    (isSize : frameSize raster = .ok size)
    (resolved : Encoded.resolve color raster.isGrayscale valid.savesIcc = .ok encoded)
    (isHost : hostRaster raster valid encoded = .ok host) :
    ∃ planned matrix, plan raster color options = .ok planned ∧
      planned.Steps raster color options host matrix := by
  have depth := EncodeOptions.depth_validate isValid
  have coded : Frame.IsCodedDepth valid.depth := by
    rw [depth.1]
    exact depth.2
  rcases exists_planes (shape_of_frameSize isSize coded) resolved isHost with
    ⟨matrix, planes, isMatrix, made⟩
  have isPlan : plan raster color options = .ok {
      options := valid
      width := size.1
      height := size.2
      color := encoded
      planes := planes
      settings := colorSettings valid encoded.cicp (Tile.plan size.1 size.2) } := by
    rw [plan, bind_of_done isValid, bind_of_done isSize]
    simp only [bind_of_done resolved, bind_of_done isHost, bind_of_done isMatrix]
    exact bind_of_done made
  exact ⟨_, matrix, isPlan, isValid, isSize, resolved, isHost, isMatrix, made, rfl⟩

/-- What a save hands to the encoder. -/
structure HandsOver (encoder : Encoder σ) (raster : Raster) (color : RasterColor)
    (options : EncodeOptions) (metadata : Metadata) (state : σ) (calls : List Call) : Prop where
  /-- These are the calls, and noting them changes nothing. -/
  noted : save raster color options metadata encoder.noting ([], state) =
    (save raster color options metadata encoder state).withNotes calls
  inTurn : InTurn raster options calls
  /-- Nothing is refused between the conversion of the colour and the first call. -/
  transcoded : Frame.HasShape raster.width raster.height options.depth → ∀ encoded host,
    Encoded.resolve color raster.isGrayscale options.savesIcc = .ok encoded →
    hostRaster raster options encoded = .ok host →
      ∃ matrix planes, YuvMatrix.ofCicp encoded.cicp.matrix encoded.cicp.primaries = .ok matrix ∧
        (Strategy.ofRaster host).encode host ⟨options.depth, frameFormat raster options, matrix⟩ =
          .ok planes
  /-- So a raster of a size that fits has a plan, which is made of these frames. -/
  planned : ∀ valid size encoded host, options.validate = .ok valid →
    frameSize raster = .ok size →
    Encoded.resolve color raster.isGrayscale valid.savesIcc = .ok encoded →
    hostRaster raster valid encoded = .ok host →
      ∃ planned matrix, plan raster color options = .ok planned ∧
        planned.Steps raster color options host matrix

/-- Every encoder is handed valid frames with settings in range, colour first and then alpha. -/
theorem handsOver_save (encoder : Encoder σ) (raster : Raster) (color : RasterColor)
    (options : EncodeOptions) (metadata : Metadata) (state : σ) :
    HandsOver encoder raster color options metadata state
      (calls encoder raster color options state) := by
  constructor
  · exact save_noting encoder raster color options metadata [] state
  · exact inTurn_calls encoder raster color options state
  · intro shape encoded host resolved isHost
    exact exists_planes shape resolved isHost
  · intro valid size encoded host isValid isSize resolved isHost
    exact exists_plan isValid isSize resolved isHost

end SavedImage

end AvifStill
