import Storyboard.Color.Palette
import Storyboard.Color.Rgba
import Storyboard.Color.Scheme
import Storyboard.Decimal.Binary64
import Storyboard.Decimal.Fixed
import Storyboard.Decimal.Numeral
import Storyboard.Decimal.Shortest
import Storyboard.Geometry.Angle
import Storyboard.Geometry.Bounds
import Storyboard.Geometry.Measure
import Storyboard.Geometry.Point
import Storyboard.Grammar.Expr
import Storyboard.Grammar.Parse
import Storyboard.Grammar.Rule
import Storyboard.Grammar.Rules
import Storyboard.Host.Basic
import Storyboard.Host.ByteText
import Storyboard.Host.Cat
import Storyboard.Host.Characters
import Storyboard.Host.Options
import Storyboard.Host.Path
import Storyboard.Host.Quotation
import Storyboard.Host.Sed.CommandLine
import Storyboard.Host.Sed.Escapes
import Storyboard.Host.Sed.Feed
import Storyboard.Host.Sed.Notation
import Storyboard.Host.Sed.Pattern
import Storyboard.Host.Sed.Reader
import Storyboard.Host.Sed.Run
import Storyboard.Host.Sed.Script
import Storyboard.Host.Sed.Substitution
import Storyboard.Host.Standard
import Storyboard.Host.Tr
import Storyboard.Layout.Dot
import Storyboard.Layout.Graph
import Storyboard.Layout.Spring
import Storyboard.Layout.Tool
import Storyboard.Regex.CharSet
import Storyboard.Regex.Error
import Storyboard.Regex.Expr
import Storyboard.Regex.Match
import Storyboard.Regex.Parser
import Storyboard.Regex.Size
import Storyboard.Scene.Arrange
import Storyboard.Scene.Basic
import Storyboard.Scene.Config
import Storyboard.Scene.Defaults
import Storyboard.Scene.Display
import Storyboard.Scene.Dump
import Storyboard.Scene.Entity
import Storyboard.Scene.Error
import Storyboard.Scene.Hierarchy
import Storyboard.Scene.Motion
import Storyboard.Scene.Placement
import Storyboard.Scene.Recording
import Storyboard.Scene.Shape
import Storyboard.Script.Lexer
import Storyboard.Script.Number
import Storyboard.Script.Options
import Storyboard.Script.Reference
import Storyboard.Script.ShapeKind
import Storyboard.Script.Statement
import Storyboard.Script.Verb
import Storyboard.Session.Action
import Storyboard.Session.Basic
import Storyboard.Session.Blueprint
import Storyboard.Session.Colors
import Storyboard.Session.Diagnostic
import Storyboard.Session.Fault
import Storyboard.Session.Help
import Storyboard.Session.Names
import Storyboard.Session.Operands
import Storyboard.Session.Positions
import Storyboard.Session.Run
import Storyboard.Table
import Storyboard.Text.Alphanumeric
import Storyboard.Text.Blank
import Storyboard.Text.Bytes
import Storyboard.Text.Case
import Storyboard.Text.Edges
import Storyboard.Text.Lines
import Storyboard.Text.Printable
import Storyboard.Text.Quoted
import Storyboard.Proofs.Text
import Storyboard.Proofs.Table
import Storyboard.Proofs.Decimal.Rounding
import Storyboard.Proofs.Decimal.Range
import Storyboard.Proofs.Decimal.Order
import Storyboard.Proofs.Script.Options
import Storyboard.Proofs.Script.Numerals
import Storyboard.Proofs.Script.Offsets
import Storyboard.Proofs.Scene.Forest
import Storyboard.Proofs.Scene.Settling
import Storyboard.Proofs.Scene.Walks
import Storyboard.Proofs.Scene.Worklists
import Storyboard.Proofs.Scene.Ties
import Storyboard.Proofs.Scene.Registry
import Storyboard.Proofs.Scene.Soundness
import Storyboard.Proofs.Scene.Operations
import Storyboard.Proofs.Layout.Graphs
import Storyboard.Proofs.Layout.Moves
import Storyboard.Proofs.Scene.Playback
import Storyboard.Proofs.Scene.Departures
import Storyboard.Proofs.Scene.Assembly
import Storyboard.Proofs.Scene.Ticking
import Storyboard.Proofs.Scene.Rounds
import Storyboard.Proofs.Scene.Frames
import Storyboard.Proofs.Scene.Interchange
import Storyboard.Proofs.Scene.Building
import Storyboard.Proofs.Session.Readers
import Storyboard.Proofs.Session.Stability
import Storyboard.Proofs.Session.Reachable
import Storyboard.Proofs.Session.Displays
import Storyboard.Proofs.Session.Whereabouts
import Storyboard.Proofs.Session.Definitions
import Storyboard.Proofs.Session.Overwriting
import Storyboard.Proofs.Session.Targets
import Storyboard.Proofs.Session.Literals
import Storyboard.Proofs.Session.Removals
import Storyboard.Proofs.Session.Redefinitions
import Storyboard.Proofs.Grammar.Matching
import Storyboard.Proofs.Grammar.Weaving
import Storyboard.Proofs.Grammar.Lines
import Storyboard.Proofs.Script.Scan
import Storyboard.Proofs.Script.Sweep
import Storyboard.Proofs.Script.Failures
import Storyboard.Proofs.Script.Writing
import Storyboard.Proofs.Grammar.Refinement
import Storyboard.Proofs.Grammar.Transcript
import Storyboard.Proofs.Grammar.Runs
import Storyboard.Proofs.Grammar.Prefixes
import Storyboard.Proofs.Grammar.Overruns
import Storyboard.Proofs.Grammar.Scripts
import Storyboard.Proofs.Grammar.Operands
import Storyboard.Proofs.Session.Slots
import Storyboard.Proofs.Session.Arity
import Storyboard.Proofs.Session.Policies
import Storyboard.Proofs.Session.Parts
import Storyboard.Proofs.Session.Edits
import Storyboard.Proofs.Session.Settings
import Storyboard.Proofs.Session.Identifiers
import Storyboard.Proofs.Session.Layouts
import Storyboard.Proofs.Session.Attachments
import Storyboard.Proofs.Layout.Cutting
import Storyboard.Proofs.Layout.Entries
import Storyboard.Proofs.Layout.Tools
import Storyboard.Proofs.Session.Colors
import Storyboard.Proofs.Session.Spans
import Storyboard.Proofs.Session.Priorities
import Storyboard.Proofs.Session.Repetitions
import Storyboard.Proofs.Session.Refusals
import Storyboard.Proofs.Session.Denotations
import Storyboard.Proofs.Session.Palettes
import Storyboard.Proofs.Session.Pieces
import Storyboard.Proofs.Session.LastNames
