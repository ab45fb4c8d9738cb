import CsvCleaning.Text.Blank
import CsvCleaning.Text.Bytes
import CsvCleaning.Text.LowerCase
import CsvCleaning.Text.Search
import CsvCleaning.Number.Layout
import CsvCleaning.Json.Printer
import CsvCleaning.Text.Quoted
import CsvCleaning.Json.Shape
import CsvCleaning.FileName
import CsvCleaning.ByteSize
import CsvCleaning.FileId
import CsvCleaning.Notice
import CsvCleaning.Files.SourceFile
import CsvCleaning.Service.Reply
import CsvCleaning.Table.Cell
import CsvCleaning.Table.Result
import CsvCleaning.Run.Progress
import CsvCleaning.Run.Selection
import CsvCleaning.Service.Body
import CsvCleaning.Service.BaseUrl
import CsvCleaning.Service.Health
import CsvCleaning.Table.View
import CsvCleaning.Number.Seconds
import CsvCleaning.Service.Mock
import CsvCleaning.Service.Script
import CsvCleaning.Run.Machine
import CsvCleaning.Run.Timeline
import CsvCleaning.Table.Download
import CsvCleaning.Url.Percent
import CsvCleaning.Url.Form
import CsvCleaning.Url.Host
import CsvCleaning.Url.Basic
import CsvCleaning.Http.Client
import CsvCleaning.Number.Extended
import CsvCleaning.Settings.Variables
import CsvCleaning.Settings.VariableFile
import CsvCleaning.Toml.Document
import CsvCleaning.Settings.Load
import CsvCleaning.Command.Invocation
import CsvCleaning.Command.Complaint
import CsvCleaning.Run.Persist
import CsvCleaning.Command.Execution
import CsvCleaning.Main
import CsvCleaning.Proofs.Run.Raising
import CsvCleaning.Proofs.Run.History
import CsvCleaning.Proofs.Run.Moves
import CsvCleaning.Proofs.Run.Soundness
import CsvCleaning.Proofs.Run.Consistency
import CsvCleaning.Proofs.Run.Protocol
import CsvCleaning.Proofs.Run.Lockstep
import CsvCleaning.Proofs.Run.Settlement
import CsvCleaning.Proofs.Run.Reports
import CsvCleaning.Proofs.Run.Resumption
import CsvCleaning.Proofs.Run.Turns
import CsvCleaning.Proofs.Run.Renumbering
import CsvCleaning.Proofs.Run.Mirroring
import CsvCleaning.Proofs.Flags
import CsvCleaning.Proofs.Run.Orders
import CsvCleaning.Proofs.Run.Isolation
import CsvCleaning.Proofs.Run.Footer
import CsvCleaning.Proofs.Run.Delivery
import CsvCleaning.Proofs.Run.Timekeeping
import CsvCleaning.Proofs.Run.Balance
import CsvCleaning.Proofs.Run.Replay
import CsvCleaning.Proofs.Run.Scheduling
import CsvCleaning.Proofs.Run.Convergence
import CsvCleaning.Proofs.Run.Publication
import CsvCleaning.Proofs.Table.Paging
import CsvCleaning.Proofs.Table.Browsing
import CsvCleaning.Proofs.Http.Outcomes
import CsvCleaning.Proofs.Run.Tally
import CsvCleaning.Proofs.Run.Retrying
import CsvCleaning.Proofs.Command.Running
import CsvCleaning.Proofs.Text.Utf8
import CsvCleaning.Proofs.Text.Splitting
import CsvCleaning.Proofs.Files.Following
import CsvCleaning.Proofs.Table.Saving
import CsvCleaning.Proofs.Url.Escapes
import CsvCleaning.Proofs.Url.Below
import CsvCleaning.Proofs.Http.Addressing
import CsvCleaning.Proofs.Settings.Telling
import CsvCleaning.Proofs.Settings.Layers
import CsvCleaning.Proofs.Text.Casing
import CsvCleaning.Proofs.Table.Searching
import CsvCleaning.Proofs.Run.Amending
import CsvCleaning.Proofs.Text.Numerals
import CsvCleaning.Proofs.Settings.Verbatim
import CsvCleaning.Proofs.Table.Building
import CsvCleaning.Proofs.Service.Rehearsal
import CsvCleaning.Proofs.Run.Rehearsing
import CsvCleaning.Proofs.Run.Directions
import CsvCleaning.Proofs.Files.Creating
import CsvCleaning.Proofs.Run.Selecting
import CsvCleaning.Proofs.Table.Downloading
import CsvCleaning.Proofs.Text.Reading
import CsvCleaning.Proofs.Url.Queries
import CsvCleaning.Proofs.Http.Basing
import CsvCleaning.Proofs.Http.Submitting
import CsvCleaning.Proofs.Table.Accepting
import CsvCleaning.Proofs.Table.Navigating
import CsvCleaning.Proofs.Table.Aligning
import CsvCleaning.Proofs.Json.Printing
import CsvCleaning.Proofs.Table.Lines
import CsvCleaning.Proofs.Number.Rounding
import CsvCleaning.Proofs.Number.Sizes
import CsvCleaning.Proofs.SortedMap
import CsvCleaning.Proofs.Service.Exporting
import CsvCleaning.Proofs.Number.Shortest
import CsvCleaning.Proofs.Json.Tokens
import CsvCleaning.Proofs.Json.Parsing
import CsvCleaning.Proofs.Json.Parts
import CsvCleaning.Proofs.Json.Bodies
import CsvCleaning.Proofs.Json.Restoring
import CsvCleaning.Proofs.Json.Range
import CsvCleaning.Proofs.Json.Members
import CsvCleaning.Proofs.Json.Leniency
import CsvCleaning.Proofs.Json.ReadingBack
import CsvCleaning.Proofs.Service.Reports
import CsvCleaning.Proofs.Service.Forms
import CsvCleaning.Proofs.Service.Replies
import CsvCleaning.Proofs.Files.Naming
import CsvCleaning.Proofs.Table.Showing
