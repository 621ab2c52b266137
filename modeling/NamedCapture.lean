import NamedCapture.Main
import NamedCapture.Cli.Run
import NamedCapture.Cli.Process
import NamedCapture.Cli.Help
import NamedCapture.Cli.Directory
import NamedCapture.Cli.Load
import NamedCapture.Cli.Arguments
import NamedCapture.Cli.Request
import NamedCapture.Cli.Command
import NamedCapture.NamedRegex
import NamedCapture.Regex.Basic
import NamedCapture.Regex.Size
import NamedCapture.Regex.Trail
import NamedCapture.Regex.Search
import NamedCapture.Regex.Program
import NamedCapture.Regex.Place
import NamedCapture.Regex.Meaning
import NamedCapture.Regex.Parser
import NamedCapture.Regex.ClassParser
import NamedCapture.Regex.Property
import NamedCapture.Diagnostic.Basic
import NamedCapture.Match.Named
import NamedCapture.Members
import NamedCapture.Pattern.Dump
import NamedCapture.Pattern.Basic
import NamedCapture.Pattern.Cursor
import NamedCapture.Pattern.Occurrence
import NamedCapture.Pattern.Scan
import NamedCapture.Text.Span
import NamedCapture.Text.Quoted
import NamedCapture.Unicode.Blank
import NamedCapture.Unicode.Category
import NamedCapture.Unicode.Script
import NamedCapture.Unicode.BinaryProperty
import NamedCapture.Unicode.Age
import NamedCapture.Unicode.Segmentation
import NamedCapture.Unicode.CaseFold
import NamedCapture.Unicode.Width
import NamedCapture.Proofs.CharSets
import NamedCapture.Proofs.Lexical
import NamedCapture.Proofs.Readers
import NamedCapture.Proofs.Run
import NamedCapture.Proofs.Grammar
import NamedCapture.Proofs.Faults
import NamedCapture.Proofs.Bytes
import NamedCapture.Proofs.NameIndex
import NamedCapture.Proofs.Numbering
import NamedCapture.Proofs.Rewriting
import NamedCapture.Proofs.Lookahead
import NamedCapture.Proofs.Openings
import NamedCapture.Proofs.Recompile
import NamedCapture.Proofs.Concatenation
import NamedCapture.Proofs.CountGuard
import NamedCapture.Proofs.ByteScan
import NamedCapture.Proofs.ByteSafety
import NamedCapture.Proofs.EngineReaders
import NamedCapture.Proofs.EngineText
import NamedCapture.Proofs.EngineTree
import NamedCapture.Proofs.EngineClasses
import NamedCapture.Proofs.EngineBrackets
import NamedCapture.Proofs.EngineItems
import NamedCapture.Proofs.EngineOpenings
import NamedCapture.Proofs.EngineBody
import NamedCapture.Proofs.EngineScan
import NamedCapture.Proofs.Dialect
import NamedCapture.Proofs.Resolution
import NamedCapture.Proofs.Wrapping
import NamedCapture.Proofs.Offsets
import NamedCapture.Proofs.Replacement
import NamedCapture.Proofs.Opacity
import NamedCapture.Proofs.Renaming
import NamedCapture.Proofs.Commands
import NamedCapture.Proofs.CommandLines
import NamedCapture.Proofs.Processes
import NamedCapture.Proofs.ByteGroups
import NamedCapture.Proofs.CharacterScan
import NamedCapture.Proofs.Unopened
import NamedCapture.Proofs.Unterminated
import NamedCapture.Proofs.Directives
import NamedCapture.Proofs.DeclarationOrder
import NamedCapture.Proofs.Noninterference
import NamedCapture.Proofs.Searching
import NamedCapture.Proofs.Trails
import NamedCapture.Proofs.Decoration
import NamedCapture.Proofs.DumpReading
import NamedCapture.Proofs.JsonReading
