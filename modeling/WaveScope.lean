import WaveScope.Axis.AutoScale
import WaveScope.Axis.Range
import WaveScope.Axis.Viewport
import WaveScope.CommandLine.Options
import WaveScope.CommandLine.Parse
import WaveScope.Files.Path
import WaveScope.Files.Tree
import WaveScope.Files.Disk
import WaveScope.Input.Action
import WaveScope.Input.Bindings
import WaveScope.Input.Event
import WaveScope.Input.Key
import WaveScope.Launch.Run
import WaveScope.LogFile
import WaveScope.Main
import WaveScope.Net.Address
import WaveScope.Net.Endpoint
import WaveScope.Net.Link
import WaveScope.Net.LinkState
import WaveScope.Numeric.Binary64
import WaveScope.Os.Error
import WaveScope.Sample.Backlog
import WaveScope.Sample.Capture
import WaveScope.Sample.Probe
import WaveScope.Sample.Source
import WaveScope.Sample.Window
import WaveScope.Sample.Words
import WaveScope.Screen.Braille
import WaveScope.Screen.Grid
import WaveScope.Screen.Paint
import WaveScope.Screen.Rect
import WaveScope.Session.Basic
import WaveScope.Settings.File
import WaveScope.Settings.Load
import WaveScope.Settings.Values
import WaveScope.Snapshot
import WaveScope.Status.Line
import WaveScope.Status.Throughput
import WaveScope.Terminal.Decode
import WaveScope.Text.Blank
import WaveScope.Text.Decimal
import WaveScope.Text.FloatSyntax
import WaveScope.Text.IntSyntax
import WaveScope.Text.Quoted
import WaveScope.Text.Similarity
import WaveScope.Text.CodeRanges
import WaveScope.Text.Printable
import WaveScope.Text.GraphemeBreak
import WaveScope.Text.Grapheme
import WaveScope.Text.EastAsianWidth
import WaveScope.Text.Emoji
import WaveScope.Text.Width
import WaveScope.Toml.Assembly
import WaveScope.Toml.Reader
import WaveScope.Toml.Scalar
import WaveScope.Toml.Scan
import WaveScope.Toml.Value
import WaveScope.View.App
import WaveScope.View.Frame
import WaveScope.View.Layout
import WaveScope.View.Style
import WaveScope.View.Trace
import WaveScope.Proofs.Window
import WaveScope.Proofs.Words
import WaveScope.Proofs.Capture
import WaveScope.Proofs.SessionRun
import WaveScope.Proofs.Stream
import WaveScope.Proofs.SessionStream
import WaveScope.Proofs.Hover
import WaveScope.Proofs.Reconnect
import WaveScope.Proofs.VerticalScale
import WaveScope.Proofs.Backlog
import WaveScope.Proofs.Trace
import WaveScope.Proofs.Bindings
import WaveScope.Proofs.Writer
import WaveScope.Proofs.Snapshot
import WaveScope.Proofs.Binary64.Encoding
import WaveScope.Proofs.Binary64.Exact
import WaveScope.Proofs.Precedence
import WaveScope.Proofs.Binary64.Arithmetic
import WaveScope.Proofs.Probe
import WaveScope.Proofs.Target
import WaveScope.Proofs.HelpBox
import WaveScope.Proofs.StatusNotice
import WaveScope.Proofs.Binary64.Nearest
import WaveScope.Proofs.Binary64.Extended
import WaveScope.Proofs.ViewportBounds
import WaveScope.Proofs.Throughput
import WaveScope.Proofs.VisibleRun
