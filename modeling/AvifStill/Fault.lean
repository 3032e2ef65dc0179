import AvifStill.Icc.Intent

/-!
# Faults

Everything that can go wrong while an image is loaded or saved, as causes. The wording shown to a
user is computed from the cause in one place, `Fault.message`. Faults found by the strict item
reader and by the file writer carry no wording of their own.
-/

namespace AvifStill

/-- What is wrong with a byte string that should be an image file or a part of one. -/
inductive Malformation where
  | emptyInput
  | notAvif
  | truncatedBox
  | sizeBelowHeader
  | integerTooWide
  | noMeta
  | noHandler
  | handlerNotPicture
  | locationVersion
  | itemEntryVersion
  | foreignItemEntry
  | propertiesNotFirst
  | noLocation
  | offsetOverflow
  | lengthOverflow
  | dataOutOfBounds
  | noConfig
  | noExtent
  | noPrimaryItem
  | truncatedConfig
  | invalidConfig
  | exifTooShort
  | exifOffset
  deriving DecidableEq, Repr

def Malformation.text : Malformation → String
  | emptyInput => "empty input"
  | notAvif => "not an AVIF file"
  | truncatedBox => "truncated box"
  | sizeBelowHeader => "box size smaller than its header"
  | integerTooWide => "integer field wider than 64 bits"
  | noMeta => "missing meta box"
  | noHandler => "meta box has no hdlr"
  | handlerNotPicture => "meta handler is not pict"
  | locationVersion => "unsupported iloc version"
  | itemEntryVersion => "infe version 2 or 3 expected"
  | foreignItemEntry => "non-infe box in iinf"
  | propertiesNotFirst => "first box in iprp is not ipco"
  | noLocation => "item has no location"
  | offsetOverflow => "item offset overflow"
  | lengthOverflow => "item length overflow"
  | dataOutOfBounds => "item data out of bounds"
  | noConfig => "AV1 item without av1C"
  | noExtent => "image item without ispe"
  | noPrimaryItem => "primary item not found"
  | truncatedConfig => "truncated av1C"
  | invalidConfig => "invalid av1C marker or version"
  | exifTooShort => "Exif item shorter than its offset field"
  | exifOffset => "Exif TIFF header offset out of bounds"

/-- Why a decoded frame cannot be used; `codec` is the decoder's own report. -/
inductive DecodeFault where
  | depth (bits : Nat)
  | chromaSize
  | noChroma
  | alphaSize
  | frameSize (width height itemWidth itemHeight : Nat)
  | codec (report : String)
  deriving DecidableEq, Repr

def DecodeFault.text : DecodeFault → String
  | depth bits => s!"unsupported codec depth {bits}"
  | chromaSize => "chroma plane size does not match format"
  | noChroma => "missing chroma plane"
  | alphaSize => "alpha plane size does not match image"
  | frameSize width height itemWidth itemHeight =>
      s!"decoded {width}x{height} frame for a {itemWidth}x{itemHeight} item"
  | codec report => report

/-- Why a colour profile cannot be read, built or used. -/
inductive ProfileFault where
  | invalid
  | dataExhausted
  | curveTooLarge
  | curveCutShort
  | parametricKind
  | parametricCutShort
  | parametricDivision
  | curveKind
  | codePoint
  | noToneCurve
  | layout
  | connection
  | noTable (intent : Icc.RenderingIntent)
  | curveNotUsable
  | unknownIntent
  deriving DecidableEq, Repr

def ProfileFault.text : ProfileFault → String
  | invalid => "Invalid ICC profile"
  | dataExhausted => "Data exhausted"
  | curveTooLarge => "Curve Lut is too large"
  | curveCutShort => "Curve end ends to early"
  | parametricKind => "Parametric curve has unknown entries count"
  | parametricCutShort => "Parametric curve has unknown entries count exhaust data too early"
  | parametricDivision => "Parametric Curve definition causes division by zero"
  | curveKind => "Unknown parametric curve tag"
  | codePoint => "Invalid Code Independent point (CICP) in ICC profile"
  | noToneCurve => "no tone curve for an unknown transfer"
  | layout => "Invalid layout"
  | connection => "Unsupported profile connection"
  | noTable intent => "Can't find LUT for rendering intent: " ++ intent.name
  | curveNotUsable => "Can't reconstruct transfer function"
  | unknownIntent => "Invalid rendering intent"

/-- Well-formed content that is not handled. -/
inductive Feature where
  | constructionMethod
  | imageSequence
  | gridImage
  | primaryItemKind
  | matrixCoefficients
  | aomEncoder
  | svtEncoder
  deriving DecidableEq, Repr

def Feature.text : Feature → String
  | constructionMethod => "item construction method"
  | imageSequence => "image sequences without a primary still item"
  | gridImage => "grid images"
  | primaryItemKind => "primary item is not AV1"
  | matrixCoefficients => "matrix coefficients"
  | aomEncoder => "the aom encoder is not built in"
  | svtEncoder => "the SVT-AV1 encoder is not built in"

/-- How a caller's data is inconsistent. -/
inductive InputFault where
  | zeroFrame
  | codecDepth
  | frameOverflow
  | optionDepth
  | noPixels
  | depthForStrategy
  | noAlphaPlane
  | rasterForStrategy
  | hostDepth
  | identitySubsampled
  | alphaItem
  | noRaster
  | noContainer
  deriving DecidableEq, Repr

def InputFault.text : InputFault → String
  | zeroFrame => "frame dimensions must be non-zero"
  | codecDepth => "codec bit depth must be 8, 10 or 12"
  | frameOverflow => "frame dimensions overflow"
  | optionDepth => "bit depth must be 8, 10 or 12"
  | noPixels => "raster has no pixels"
  | depthForStrategy => "codec depth does not match strategy"
  | noAlphaPlane => "alpha plane missing"
  | rasterForStrategy => "raster does not match strategy"
  | hostDepth => "host depth does not match codec depth"
  | identitySubsampled => "identity matrix requires 4:4:4"
  | alphaItem => "alpha item must match the color item's size and depth"
  | noRaster => "no raster"
  | noContainer => "no container"

inductive Fault where
  | parse (cause : Malformation)
  | container
  | write
  | decode (cause : DecodeFault)
  | encode (report : String)
  | unsupportedTransfer (code : UInt8)
  | profile (cause : ProfileFault)
  | unsupported (feature : Feature)
  | invalidInput (cause : InputFault)
  | imageTooLarge (width height : Nat)
  deriving DecidableEq, Repr

/-- The text shown to a user, for the faults that have one. -/
def Fault.message : Fault → Option String
  | parse cause => some ("AVIF parse error: " ++ cause.text)
  | container => none
  | write => none
  | decode cause => some ("AV1 decode error: " ++ cause.text)
  | encode report => some ("AV1 encode error: " ++ report)
  | unsupportedTransfer code => some s!"Unsupported transfer characteristics: {code}"
  | profile cause => some ("Color profile error: " ++ cause.text)
  | unsupported feature => some ("Unsupported: " ++ feature.text)
  | invalidInput cause => some ("Invalid input: " ++ cause.text)
  | imageTooLarge width height => some s!"Image too large: {width}x{height}"

end AvifStill
