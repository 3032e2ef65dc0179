import AvifStill.Payload.Media
import AvifStill.Payload.Table

/-!
# The outermost boxes

The strict reading of a file from its first box to its last: brands first, then one directory among
media boxes, movies and boxes that are passed over.
-/

namespace AvifStill.Payload

open Window

/-- The outermost boxes of a file, of which the directory may occur once. -/
structure Layout where
  table : Option Table
  media : List Media
  /-- Where the next box starts in the file. -/
  position : Nat

namespace Layout

/-- Moves on behind a box; behind one that runs to the end there is none. -/
def advance (layout : Layout) (head : Head) : Layout :=
  { layout with position := layout.position + head.length + head.claimed.getD 0 }

/-- The header of a movie, whose times may be wide. -/
def scanMovieHeader : Scan Unit := do
  let version ← nat 1
  skip 3
  skip (if version = 1 then 28 else 16)
  skipRest

/-- Boxes of a movie, of which nothing is kept; those of its tracks are gone through as well. -/
def scanMovie : Scan Unit :=
  fold .isNextBox
    (fun _ head =>
      if head.kind = .mvhd then scanMovieHeader
      else if head.kind = .trak then fold .isNextBox (fun _ _ => skipRest) ()
      else skipRest)
    ()

/-- Takes in one outermost box after the first; a media box that claims to be empty is left out. -/
def step (layout : Layout) (head : Head) : Scan Layout := do
  let next := layout.advance head
  if head.kind = .metadata then
    require layout.table.isNone
    return { next with table := some (← Table.scan) }
  else if head.kind = .mdat then
    let content ← Scan.rest
    if head.claimed = some 0 then return next
    else return { next with media := layout.media ++ [⟨layout.position + head.length, content⟩] }
  else if head.kind = .moov then
    scanMovie
    return next
  else
    skipBox head
    return next

/-- The first box: a brand that may come first, and brands of four bytes each. -/
def scanBrands (head : Head) : Scan Unit := do
  require (head.kind == .ftyp)
  let major ← Scan.fourCC .container
  require (major == .avif || major == .avis)
  skip 4
  require (head.claimed.any fun claimed => claimed % 4 == 0)
  skipRest

/-- Goes through the outermost boxes of a file. -/
def ofFile (file : Bytes) : Except Fault Layout := do
  match ← Head.next? file with
  | none => throw .container
  | some (head, rest) =>
      let (_, boxes) ← enter .isFault head file.length (scanBrands head) rest
      return (← fold .isFault step (advance ⟨none, [], 0⟩ head) boxes).1

end Layout

end AvifStill.Payload
