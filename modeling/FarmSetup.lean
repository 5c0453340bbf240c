import FarmSetup.ByteSize
import FarmSetup.Channel
import FarmSetup.Clock
import FarmSetup.Command.Arguments
import FarmSetup.Command.Panel
import FarmSetup.Command.Run
import FarmSetup.Config.Store
import FarmSetup.Console.Emoji
import FarmSetup.Console.Layout
import FarmSetup.Console.Lines
import FarmSetup.Console.Markup
import FarmSetup.Console.Style
import FarmSetup.Console.TagLiteral.Escapes
import FarmSetup.Console.TagLiteral.Formatted
import FarmSetup.Console.TagLiteral.Grammar
import FarmSetup.Console.TagLiteral.Names
import FarmSetup.Console.TagLiteral.Read
import FarmSetup.Console.TagLiteral.Scan
import FarmSetup.Console.Width
import FarmSetup.Entry
import FarmSetup.Farm
import FarmSetup.Field
import FarmSetup.Files.Host
import FarmSetup.Files.Image
import FarmSetup.Files.Machine
import FarmSetup.Files.Tree
import FarmSetup.Json.Literal
import FarmSetup.Json.Read
import FarmSetup.Json.Value
import FarmSetup.Json.Write
import FarmSetup.LogLine
import FarmSetup.Main
import FarmSetup.Notice
import FarmSetup.Number.Binary64
import FarmSetup.Number.Fixed
import FarmSetup.Number.Shortest
import FarmSetup.Number.Written
import FarmSetup.Path
import FarmSetup.Proofs.EntryRuns
import FarmSetup.Proofs.ListRuns
import FarmSetup.Proofs.RosterLayout
import FarmSetup.Roster
import FarmSetup.Schedule
import FarmSetup.Text.AsciiForm
import FarmSetup.Text.Blank
import FarmSetup.Text.Case
import FarmSetup.Text.CharacterName
import FarmSetup.Text.Cased
import FarmSetup.Text.Digit
import FarmSetup.Text.Percent
import FarmSetup.Text.Point
import FarmSetup.Text.Ranges
import FarmSetup.Text.Printable
import FarmSetup.Text.Truncate
import FarmSetup.Text.Utf8
import FarmSetup.Proofs.JsonStrings
import FarmSetup.Proofs.ConfigDocument
import FarmSetup.Proofs.PathForm
import FarmSetup.Proofs.FileWrites
import FarmSetup.Proofs.LoadedTexts
import FarmSetup.Proofs.ConfigFile
import FarmSetup.Proofs.FileFrames
import FarmSetup.Proofs.ListBuilding
import FarmSetup.Proofs.LoadOutcomes
import FarmSetup.Proofs.CommandRuns
import FarmSetup.Proofs.PrintedText
import FarmSetup.Proofs.RunReports
import FarmSetup.Proofs.EntryFields
import FarmSetup.Proofs.SizeGrammar
import FarmSetup.Proofs.RoutingCalls
import FarmSetup.Proofs.Lookups
import FarmSetup.Proofs.ChannelFaults
import FarmSetup.Proofs.LogLineShape
import FarmSetup.Proofs.PathTruncation
import FarmSetup.Proofs.ChannelHistory
import FarmSetup.Proofs.FieldHistory
