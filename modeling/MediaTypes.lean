import MediaTypes.Dictionary
import MediaTypes.FileName
import MediaTypes.Json.Basic
import MediaTypes.Json.Reader
import MediaTypes.Json.Writer
import MediaTypes.Log.Event
import MediaTypes.Log.Factory
import MediaTypes.Log.Level
import MediaTypes.Log.Logger
import MediaTypes.Log.Name
import MediaTypes.Log.Record
import MediaTypes.Log.Trace
import MediaTypes.Lookup
import MediaTypes.MediaType.Basic
import MediaTypes.MediaType.Parameters
import MediaTypes.MediaType.Pattern
import MediaTypes.MediaType.Token
import MediaTypes.Number.Double
import MediaTypes.Number.Numeral
import MediaTypes.Number.Rounding
import MediaTypes.Platform.Basic
import MediaTypes.Platform.BuiltinTypes
import MediaTypes.Platform.Choice
import MediaTypes.Platform.Database
import MediaTypes.Platform.MimeFile
import MediaTypes.Platform.Plugin
import MediaTypes.Platform.Plugin.Attribute
import MediaTypes.Platform.Plugin.Inherent
import MediaTypes.Platform.Plugin.Module
import MediaTypes.Platform.Registry
import MediaTypes.Platform.Source
import MediaTypes.Proofs.Dictionary
import MediaTypes.Proofs.FileName
import MediaTypes.Proofs.Json.Number
import MediaTypes.Proofs.Json.RoundTrip
import MediaTypes.Proofs.Json.Writer
import MediaTypes.Proofs.Log.JsonLine
import MediaTypes.Proofs.Log.Setup
import MediaTypes.Proofs.Log.TimeField
import MediaTypes.Proofs.Log.TraceText
import MediaTypes.Proofs.MediaType.Block
import MediaTypes.Proofs.MediaType.Grammar
import MediaTypes.Proofs.MediaType.Parameters
import MediaTypes.Proofs.MediaType.Parse
import MediaTypes.Proofs.MediaType.Pattern
import MediaTypes.Proofs.MediaType.Preorder
import MediaTypes.Proofs.MediaType.Rearrangement
import MediaTypes.Proofs.MediaType.Segments
import MediaTypes.Proofs.MediaType.Surplus
import MediaTypes.Proofs.Number.Double
import MediaTypes.Proofs.Number.Numeral
import MediaTypes.Proofs.Number.Rounding
import MediaTypes.Proofs.Platform.Choice
import MediaTypes.Proofs.Platform.History
import MediaTypes.Proofs.Platform.Invariant
import MediaTypes.Proofs.Platform.Loading
import MediaTypes.Proofs.Platform.MimeFile
import MediaTypes.Proofs.Platform.Plugin
import MediaTypes.Proofs.Platform.TypeWord
import MediaTypes.Proofs.Resolver.Agreement
import MediaTypes.Proofs.Resolver.CaseVariants
import MediaTypes.Proofs.Resolver.Covering
import MediaTypes.Proofs.Resolver.Fallback
import MediaTypes.Proofs.Resolver.LetterCase
import MediaTypes.Proofs.Resolver.Matching
import MediaTypes.Proofs.Resolver.Precedence
import MediaTypes.Proofs.Resolver.Preferred
import MediaTypes.Proofs.Resolver.Provenance
import MediaTypes.Proofs.Resolver.Reverse
import MediaTypes.Proofs.Resolver.Selection
import MediaTypes.Proofs.Resolver.Tracing
import MediaTypes.Proofs.Session.Build
import MediaTypes.Proofs.Session.Effect
import MediaTypes.Proofs.Session.FailedBuild
import MediaTypes.Proofs.Session.Lifecycle
import MediaTypes.Proofs.Session.LogIndependence
import MediaTypes.Proofs.Session.Run
import MediaTypes.Proofs.Session.Setup
import MediaTypes.Proofs.Session.Streams
import MediaTypes.Proofs.Session.Threshold
import MediaTypes.Proofs.Settings.NormalForm
import MediaTypes.Proofs.Settings.Padding
import MediaTypes.Proofs.Tables.Listing
import MediaTypes.Proofs.Tables.Names
import MediaTypes.Proofs.Text.Ascii
import MediaTypes.Proofs.Text.Blank
import MediaTypes.Proofs.Text.Digit
import MediaTypes.Proofs.Text.Layout
import MediaTypes.Proofs.Text.Lowercase
import MediaTypes.Proofs.Text.Numeral
import MediaTypes.Proofs.Text.Quoted
import MediaTypes.Proofs.Text.Spelling
import MediaTypes.Proofs.Text.Split
import MediaTypes.Proofs.Text.Words
import MediaTypes.Proofs.Time.Calendar
import MediaTypes.Proofs.Time.Clock
import MediaTypes.Proofs.Time.Timestamp
import MediaTypes.Resolver
import MediaTypes.Session.Basic
import MediaTypes.Session.Step
import MediaTypes.Settings
import MediaTypes.Tables.Basic
import MediaTypes.Tables.Standard
import MediaTypes.Text.Ascii
import MediaTypes.Text.Blank
import MediaTypes.Text.CharRange
import MediaTypes.Text.Digit
import MediaTypes.Text.Lowercase
import MediaTypes.Text.Numeral
import MediaTypes.Text.Printable
import MediaTypes.Text.Quoted
import MediaTypes.Text.Split
import MediaTypes.Time.Calendar
import MediaTypes.Time.Clock
import MediaTypes.Time.Timestamp
