import ImportWeb.Layout
import ImportWeb.LogFilter
import ImportWeb.Size
import ImportWeb.Survey
import ImportWeb.Json.Parser
import ImportWeb.Render
import ImportWeb.Style.Registry
import ImportWeb.Style.Entry
import ImportWeb.Settings
import ImportWeb.Main
import ImportWeb.Proofs.Command.Log
import ImportWeb.Proofs.Graph.Index
import ImportWeb.Proofs.Graph.History
import ImportWeb.Proofs.Graph.Requests
import ImportWeb.Proofs.Graph.Identifier
import ImportWeb.Proofs.Graph.Alike
import ImportWeb.Proofs.Graph.Depiction
import ImportWeb.Proofs.Path.Clean
import ImportWeb.Proofs.Path.Key
import ImportWeb.Proofs.Path.Location
import ImportWeb.Proofs.Style.Selection
import ImportWeb.Proofs.Survey.Outcome
import ImportWeb.Proofs.Survey.Files
import ImportWeb.Proofs.Web.Drawing
import ImportWeb.Proofs.Web.Passes
import ImportWeb.Proofs.Web.Edges
import ImportWeb.Proofs.Web.FilePart
import ImportWeb.Proofs.Web.Cut
import ImportWeb.Proofs.Web.Order
import ImportWeb.Proofs.Web.Conservation
import ImportWeb.Proofs.Web.ByKey
import ImportWeb.Proofs.Web.Reference
import ImportWeb.Proofs.Web.Exclusion
import ImportWeb.Proofs.Web.Selection
import ImportWeb.Proofs.Pattern.Run
import ImportWeb.Proofs.Pattern.Match
import ImportWeb.Proofs.Pattern.Reader
import ImportWeb.Proofs.Pattern.Item
import ImportWeb.Proofs.Pattern.Enclosed
import ImportWeb.Proofs.Style.Anchor
import ImportWeb.Proofs.Style.Merge
import ImportWeb.Proofs.Style.Registration
import ImportWeb.Proofs.Style.Python.Form
import ImportWeb.Proofs.Style.Python.Line
import ImportWeb.Proofs.Render.Script
import ImportWeb.Proofs.Json.Spelling
import ImportWeb.Proofs.Json.Written
import ImportWeb.Proofs.Graph.Decoding
import ImportWeb.Proofs.Render.Literal
import ImportWeb.Proofs.Render.Embedding
import ImportWeb.Proofs.Render.Dot.Token
import ImportWeb.Proofs.Render.Dot.Statement
import ImportWeb.Proofs.Render.Mermaid.Entity
import ImportWeb.Proofs.Render.Mermaid.Line
import ImportWeb.Proofs.Render.Mermaid.Reading
import ImportWeb.Proofs.Text.Separator
import ImportWeb.Proofs.Text.Word
import ImportWeb.Proofs.Pattern.Taken
import ImportWeb.Proofs.Path.Climb
import ImportWeb.Proofs.Path.Push
import ImportWeb.Proofs.Path.Extension
import ImportWeb.Proofs.Survey.Wanted
import ImportWeb.Proofs.Survey.Coverage
import ImportWeb.Proofs.Layout.Candidate
import ImportWeb.Proofs.Layout.Below
import ImportWeb.Proofs.Disk.Writing
import ImportWeb.Proofs.Command.Words
import ImportWeb.Proofs.Command.Ending
import ImportWeb.Proofs.Pattern.Captured
import ImportWeb.Proofs.Style.Mention
import ImportWeb.Proofs.Style.Capture
import ImportWeb.Proofs.Style.Include
import ImportWeb.Proofs.Layout.Package
import ImportWeb.Proofs.Style.Yield
import ImportWeb.Proofs.Path.Rooted
import ImportWeb.Proofs.Web.LineEnding
import ImportWeb.Proofs.Style.Token
import ImportWeb.Proofs.Web.Provenance
import ImportWeb.Proofs.Toml.Scalar
import ImportWeb.Proofs.Toml.Value
import ImportWeb.Proofs.Toml.Document
import ImportWeb.Proofs.Toml.Growth
import ImportWeb.Proofs.Toml.Element
import ImportWeb.Proofs.Settings.Marker
