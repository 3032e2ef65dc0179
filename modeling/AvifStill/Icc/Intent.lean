/-!
# Rendering intents

How a profile wants colours to be matched that another device cannot show.
-/

namespace AvifStill.Icc

inductive RenderingIntent where
  | perceptual
  | relativeColorimetric
  | saturation
  | absoluteColorimetric
  deriving DecidableEq, Repr

namespace RenderingIntent

def ofCode? : Nat → Option RenderingIntent
  | 0 => some perceptual
  | 1 => some relativeColorimetric
  | 2 => some saturation
  | 3 => some absoluteColorimetric
  | _ => none

def name : RenderingIntent → String
  | perceptual => "Perceptual"
  | relativeColorimetric => "RelativeColorimetric"
  | saturation => "Saturation"
  | absoluteColorimetric => "AbsoluteColorimetric"

end RenderingIntent

end AvifStill.Icc
