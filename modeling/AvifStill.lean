import AvifStill.Numeric.Binary
import AvifStill.Icc.Intent
import AvifStill.Fault
import AvifStill.Grid
import AvifStill.Cicp
import AvifStill.Sample
import AvifStill.Tile
import AvifStill.Frame
import AvifStill.Av1.Config
import AvifStill.Av1.Codec
import AvifStill.Raster
import AvifStill.Color.Primaries
import AvifStill.Color.CurveTable
import AvifStill.Color.Curve
import AvifStill.Color.YuvMatrix
import AvifStill.Yuv
import AvifStill.Transform
import AvifStill.Transcode
import AvifStill.Bytes
import AvifStill.Scan
import AvifStill.Box.Kind
import AvifStill.Box.Basic
import AvifStill.Item.Location
import AvifStill.Item.Entry
import AvifStill.Item.Property
import AvifStill.Item.Directory
import AvifStill.Payload.Window
import AvifStill.Payload.Table
import AvifStill.Payload.Media
import AvifStill.Payload.Layout
import AvifStill.Payload.Reader
import AvifStill.Container.Basic
import AvifStill.Container.Reader
import AvifStill.Container.Writer
import AvifStill.Color.Adaptation
import AvifStill.Icc.Profile
import AvifStill.Icc.Writer
import AvifStill.Icc.Reader
import AvifStill.Color.Description
import AvifStill.Color.Samples
import AvifStill.Color.ClosedForm
import AvifStill.Color.LightCurve
import AvifStill.Icc.Conversion
import AvifStill.Metadata
import AvifStill.Options
import AvifStill.Load
import AvifStill.Save
import AvifStill.Av1.Sequence
import AvifStill.FrameStore
import AvifStill.Session
import AvifStill.Proofs.Opacity
import AvifStill.Proofs.SizeLimit
import AvifStill.Proofs.Reload
import AvifStill.Proofs.Rearrangement
import AvifStill.Proofs.Progress
import AvifStill.Proofs.TileGrid
import AvifStill.Proofs.KeptMetadata
import AvifStill.Proofs.Container.Truncation
import AvifStill.Proofs.Container.Canonical
import AvifStill.Proofs.TileLimits
import AvifStill.Proofs.Numeric.Exact
import AvifStill.Proofs.PlaneReads
import AvifStill.Proofs.ChromaBlocks
import AvifStill.Proofs.Dihedral
import AvifStill.Proofs.StraightColor
import AvifStill.Proofs.Segments
import AvifStill.Proofs.Container.BoxOrder
import AvifStill.Proofs.Outline
import AvifStill.Proofs.Container.ItemData
import AvifStill.Proofs.Color.Resolution
import AvifStill.Proofs.CodePoints
import AvifStill.Proofs.DepthAdaptation
import AvifStill.Proofs.Padding
import AvifStill.Proofs.Recoding
import AvifStill.Proofs.LimitedRange
import AvifStill.Proofs.LocationTable
import AvifStill.Proofs.AssociationTable
import AvifStill.Proofs.BoxLoops
import AvifStill.Proofs.Color.LumaWeights
import AvifStill.Proofs.Color.Linearity
