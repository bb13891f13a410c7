import MapSheets.Basemap.Address
import MapSheets.Basemap.Download
import MapSheets.Basemap.Image
import MapSheets.Basemap.Tile
import MapSheets.Calendar.Fault
import MapSheets.Calendar.Lexeme
import MapSheets.Calendar.Moment
import MapSheets.Calendar.Note
import MapSheets.Calendar.Stamp
import MapSheets.Calendar.Standard
import MapSheets.Calendar.Written
import MapSheets.Cell.Basic
import MapSheets.Cell.Mdgid
import MapSheets.Cell.Parts
import MapSheets.Cell.Size
import MapSheets.CommandLine.Help
import MapSheets.CommandLine.Program
import MapSheets.CommandLine.Request
import MapSheets.CommandLine.Words
import MapSheets.Conversion
import MapSheets.Drawing.Attribute
import MapSheets.Drawing.Color
import MapSheets.Drawing.Element
import MapSheets.Drawing.GratingMarks
import MapSheets.Drawing.Layers
import MapSheets.Drawing.Markup
import MapSheets.Drawing.TrellisMarks
import MapSheets.Entries
import MapSheets.Exchange.Cell
import MapSheets.Exchange.Digest
import MapSheets.Exchange.Drawing
import MapSheets.Exchange.Geodesy
import MapSheets.Exchange.Number
import MapSheets.Exchange.Plane
import MapSheets.Exchange.Production
import MapSheets.Exchange.Sheet
import MapSheets.Exchange.Source
import MapSheets.Exchange.Trellis
import MapSheets.Failure
import MapSheets.Files
import MapSheets.Geodesy.Dms
import MapSheets.Geodesy.Ellipsoid
import MapSheets.Geodesy.Mercator
import MapSheets.Geodesy.MilitaryGrid
import MapSheets.Geodesy.Reference
import MapSheets.Geodesy.Survey
import MapSheets.Geodesy.TransverseMercator
import MapSheets.Geodesy.Zone
import MapSheets.Grating.Basic
import MapSheets.Grating.Features
import MapSheets.Job.Event
import MapSheets.Json.Access
import MapSheets.Json.Reader
import MapSheets.Json.Value
import MapSheets.Json.Writer
import MapSheets.Main
import MapSheets.Number.Amount
import MapSheets.Number.Binary
import MapSheets.Number.Decimal
import MapSheets.Number.Elementary
import MapSheets.Number.Exact
import MapSheets.Number.Fault
import MapSheets.Number.Logarithm
import MapSheets.Number.Power
import MapSheets.Number.Reading
import MapSheets.Number.Rounding
import MapSheets.Number.Scalar
import MapSheets.Plane.Bounds
import MapSheets.Plane.Clip
import MapSheets.Plane.PixelBox
import MapSheets.Plane.Polygon
import MapSheets.Plane.Shape
import MapSheets.Sheet.Atlas
import MapSheets.Sheet.Composition
import MapSheets.Sheet.Context
import MapSheets.Sheet.Production
import MapSheets.Sheet.Settings
import MapSheets.Source.Feature
import MapSheets.Source.FeatureFile
import MapSheets.Source.Kinds
import MapSheets.Source.Provider
import MapSheets.Source.Registry
import MapSheets.Source.Table
import MapSheets.Template.Gap
import MapSheets.Template.Layout
import MapSheets.Template.Number
import MapSheets.Text.Blank
import MapSheets.Text.Case
import MapSheets.Text.Digit
import MapSheets.Text.Letter
import MapSheets.Text.Parts
import MapSheets.Text.Printable
import MapSheets.Text.Quoted
import MapSheets.Trellis.Basic
import MapSheets.Trellis.Edge
import MapSheets.Trellis.Label
import MapSheets.Trellis.Spacing
import MapSheets.Work
import MapSheets.Proofs.Cell.Tiling
import MapSheets.Proofs.Cell.PartModes
import MapSheets.Proofs.Cell.Filling
import MapSheets.Proofs.Source.PointLookup
import MapSheets.Proofs.Geodesy.Coarse
import MapSheets.Proofs.Geodesy.ZoneBox
import MapSheets.Proofs.Sheet.Margin
import MapSheets.Proofs.Trellis.Edge
import MapSheets.Proofs.Trellis.Family
import MapSheets.Proofs.Plane.VisiblePart
import MapSheets.Proofs.Drawing.Bars
import MapSheets.Proofs.Trellis.Frame
import MapSheets.Proofs.Drawing.LabelledEnds
import MapSheets.Proofs.Drawing.FirstLabels
import MapSheets.Proofs.Trellis.EdgeMarks
import MapSheets.Proofs.Trellis.Place
import MapSheets.Proofs.Trellis.Crossing
import MapSheets.Proofs.Trellis.Northing
import MapSheets.Proofs.Drawing.InnerLabels
import MapSheets.Proofs.Drawing.ShortLabels
import MapSheets.Proofs.Source.NamedLookup
import MapSheets.Proofs.Sheet.Protocol
import MapSheets.Proofs.Basemap.Passes
import MapSheets.Proofs.Basemap.Window
import MapSheets.Proofs.Cell.RoundTrip
import MapSheets.Proofs.Source.Answer
import MapSheets.Proofs.Source.ProperCell
import MapSheets.Proofs.Entries
import MapSheets.Proofs.Json.RoundTrip
import MapSheets.Proofs.Job.EventText
import MapSheets.Proofs.Source.Loading
import MapSheets.Proofs.Source.RegistryCalls
import MapSheets.Proofs.Source.References
import MapSheets.Proofs.Sheet.Configuration
import MapSheets.Proofs.Sheet.BarReading
import MapSheets.Proofs.Sheet.FileName
import MapSheets.Proofs.Sheet.Drawable
import MapSheets.Proofs.CommandLine.Containment
import MapSheets.Proofs.Geodesy.Globe
import MapSheets.Proofs.Geodesy.PrintedDms
import MapSheets.Proofs.Trellis.Digits
import MapSheets.Proofs.Source.StoredName
import MapSheets.Proofs.Plane.Region
import MapSheets.Proofs.Source.FirstMeeting
import MapSheets.Proofs.Grating.RowNumbering
import MapSheets.Proofs.Grating.Label
import MapSheets.Proofs.Grating.Cells
import MapSheets.Proofs.Grating.Division
import MapSheets.Proofs.Grating.Features
import MapSheets.Proofs.Drawing.Layers
import MapSheets.Proofs.Basemap.Stitching
import MapSheets.Proofs.Sheet.PrintedScale
import MapSheets.Proofs.Geodesy.WebMercator
import MapSheets.Proofs.Geodesy.MapEdge
import MapSheets.Proofs.Basemap.PointTile
