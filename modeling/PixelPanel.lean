import PixelPanel.Address
import PixelPanel.Animation
import PixelPanel.Capture
import PixelPanel.Capture.Arguments
import PixelPanel.Capture.Listing
import PixelPanel.Channel
import PixelPanel.ColourText
import PixelPanel.Command
import PixelPanel.CommandLine.Conversation
import PixelPanel.CommandLine.Given
import PixelPanel.CommandLine.Invocation
import PixelPanel.CommandLine.Parameter
import PixelPanel.CommandLine.Run
import PixelPanel.Config
import PixelPanel.Config.Load
import PixelPanel.Double
import PixelPanel.Double.Digits
import PixelPanel.Double.Text
import PixelPanel.Envelope
import PixelPanel.Envelope.Assembler
import PixelPanel.Envelope.Message
import PixelPanel.Frame
import PixelPanel.Hex
import PixelPanel.Inbox
import PixelPanel.Json.Document
import PixelPanel.Json.Print
import PixelPanel.Json.Token
import PixelPanel.Json.Value
import PixelPanel.Link.Basic
import PixelPanel.Link.Calls
import PixelPanel.Link.Delivery
import PixelPanel.Link.Step
import PixelPanel.Log
import PixelPanel.Main
import PixelPanel.Octets
import PixelPanel.Output
import PixelPanel.Panel
import PixelPanel.Panel.Request
import PixelPanel.Path
import PixelPanel.Picture
import PixelPanel.Proofs.AssemblerRuns
import PixelPanel.Proofs.CleanStream
import PixelPanel.Proofs.EnvelopeForm
import PixelPanel.Proofs.EnvelopeRow
import PixelPanel.Proofs.GreedyScan
import PixelPanel.Proofs.IndexPacking
import PixelPanel.Proofs.IndexStream
import PixelPanel.Proofs.NoisyStream
import PixelPanel.Proofs.PictureCoding
import PixelPanel.Proofs.Words
import PixelPanel.Raster
import PixelPanel.Raster.Indices
import PixelPanel.Report
import PixelPanel.Storage
import PixelPanel.SystemError
import PixelPanel.Text.Blank
import PixelPanel.Text.Digit
import PixelPanel.Text.Lower
import PixelPanel.Text.Number
import PixelPanel.Text.Printable
import PixelPanel.Text.Quoted
import PixelPanel.Text.Similar
import PixelPanel.Text.Stream
import PixelPanel.Text.Upper
import PixelPanel.Text.Utf8
import PixelPanel.Proofs.Link.Listeners
import PixelPanel.Proofs.Link.Turns
import PixelPanel.Proofs.Link.Standing
import PixelPanel.Proofs.Link.Actions
import PixelPanel.Proofs.Link.Reachable
import PixelPanel.Proofs.Link.OneSession
import PixelPanel.Proofs.Link.LateFailure
import PixelPanel.Proofs.Link.FinalDisconnect
import PixelPanel.Proofs.Link.WriteLedger
import PixelPanel.Proofs.Link.SerialWrites
import PixelPanel.Proofs.Link.LostSession
import PixelPanel.Proofs.Link.OwnSession
import PixelPanel.Proofs.Link.Arrivals
import PixelPanel.Proofs.InboxAnswers
import PixelPanel.Proofs.ReportDelivery
import PixelPanel.Proofs.Link.Beginning
import PixelPanel.Proofs.Link.Jobs
import PixelPanel.Proofs.Link.Dispatch
import PixelPanel.Proofs.Link.Bystanders
import PixelPanel.Proofs.Link.Stock
import PixelPanel.Proofs.Link.Conservation
import PixelPanel.Proofs.AnimationPackets
import PixelPanel.Proofs.CaptureModes
import PixelPanel.Proofs.ReportTable
import PixelPanel.Proofs.CommandReading
import PixelPanel.Proofs.FrameReading
import PixelPanel.Proofs.DryRun
import PixelPanel.Proofs.Link.Audience
import PixelPanel.Proofs.Link.Past
import PixelPanel.Proofs.RejectedConnect
import PixelPanel.Proofs.Link.Quiet
import PixelPanel.Proofs.Link.Hearings
import PixelPanel.Proofs.Link.Roster
import PixelPanel.Proofs.Link.FailingListeners
import PixelPanel.Proofs.Link.Attempts
import PixelPanel.Proofs.Link.Mirrors
import PixelPanel.Proofs.Link.Setup
import PixelPanel.Proofs.Link.SameRoster
import PixelPanel.Proofs.PanelSteps
import PixelPanel.Proofs.PairedSessions
import PixelPanel.Proofs.FreshSession
import PixelPanel.Proofs.DamagedEnvelope
import PixelPanel.Proofs.Link.FailedConnect
import PixelPanel.Proofs.LongestRow
import PixelPanel.Proofs.LinksLeft
import PixelPanel.Proofs.FrameLayout
import PixelPanel.Proofs.FailingCallbacks
import PixelPanel.Proofs.CheckedRequests
import PixelPanel.Proofs.HexText
import PixelPanel.Proofs.Link.Openings
import PixelPanel.Proofs.TextEnds
import PixelPanel.Proofs.JsonValues
import PixelPanel.Proofs.PrintedTokens
import PixelPanel.Proofs.PrintedDocuments
import PixelPanel.Proofs.CaptureListings
import PixelPanel.Proofs.AddressForms
import PixelPanel.Proofs.ColourForms
import PixelPanel.Proofs.ConfigReading
import PixelPanel.Proofs.DeviceNames
import PixelPanel.Proofs.Utf8Text
import PixelPanel.Proofs.DocumentLimits
import PixelPanel.Proofs.ConfigLoading
