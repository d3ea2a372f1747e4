import LinkGate.BaseUrl
import LinkGate.Check.Retry
import LinkGate.Check.Schedule
import LinkGate.CommandLine.Help
import LinkGate.CommandLine.Parser
import LinkGate.CommandLine.Refusal
import LinkGate.CommandLine.Switch
import LinkGate.Config
import LinkGate.Context
import LinkGate.Decimal
import LinkGate.Document
import LinkGate.Environment
import LinkGate.Error
import LinkGate.Fetch.Failure
import LinkGate.Fetch.Offline
import LinkGate.Files.Basic
import LinkGate.Files.Tree
import LinkGate.Git.Dialogue
import LinkGate.Git.Program
import LinkGate.Json
import LinkGate.LinkSet
import LinkGate.Main
import LinkGate.Manifest.Decode
import LinkGate.Manifest.Fault
import LinkGate.Manifest.Token
import LinkGate.Markdown.Autolink
import LinkGate.Markdown.Block
import LinkGate.Markdown.Event
import LinkGate.Markdown.Extract
import LinkGate.Markdown.Html
import LinkGate.Markdown.Inline
import LinkGate.Markdown.Line
import LinkGate.Markdown.Link
import LinkGate.Markdown.Node
import LinkGate.Markdown.Reference
import LinkGate.Markdown.Source
import LinkGate.Outcome
import LinkGate.Path
import LinkGate.Proofs.AnchorAddress
import LinkGate.Proofs.AnchorTarget
import LinkGate.Proofs.BaseQuestions
import LinkGate.Proofs.BracketTokens
import LinkGate.Proofs.ByteOrder
import LinkGate.Proofs.ChangedFiles
import LinkGate.Proofs.CheckAlone
import LinkGate.Proofs.CheckAnyOrder
import LinkGate.Proofs.CheckSlots
import LinkGate.Proofs.CheckTimes
import LinkGate.Proofs.CheckTurns
import LinkGate.Proofs.ContextQuestions
import LinkGate.Proofs.DialogueRuns
import LinkGate.Proofs.ExtractedLinks
import LinkGate.Proofs.FailureWords
import LinkGate.Proofs.FatalFaults
import LinkGate.Proofs.FirstRequests
import LinkGate.Proofs.JsonLayout
import LinkGate.Proofs.JsonString
import LinkGate.Proofs.JsonSwitch
import LinkGate.Proofs.JsonText
import LinkGate.Proofs.LineNumbers
import LinkGate.Proofs.LinkByLink
import LinkGate.Proofs.LinkDirectory
import LinkGate.Proofs.LinkHistory
import LinkGate.Proofs.LinkRecords
import LinkGate.Proofs.LinkStarts
import LinkGate.Proofs.ManifestReading
import LinkGate.Proofs.PathComponents
import LinkGate.Proofs.PathContainment
import LinkGate.Proofs.PathSpelling
import LinkGate.Proofs.PausesUnderCap
import LinkGate.Proofs.RemoteAddress
import LinkGate.Proofs.RemotePort
import LinkGate.Proofs.RemoteSpelling
import LinkGate.Proofs.RenderedBase
import LinkGate.Proofs.RepeatedDocuments
import LinkGate.Proofs.ReportReading
import LinkGate.Proofs.RequestFootprint
import LinkGate.Proofs.ScanEffects
import LinkGate.Proofs.ScanFindings
import LinkGate.Proofs.ScopeDivision
import LinkGate.Proofs.SessionOutput
import LinkGate.Proofs.ShortName
import LinkGate.Proofs.TableColumns
import LinkGate.Proofs.TableLines
import LinkGate.Proofs.TargetMeaning
import LinkGate.Proofs.TargetModes
import LinkGate.Proofs.TokenReading
import LinkGate.Proofs.TrimmedLines
import LinkGate.Proofs.Trimming
import LinkGate.Report.Basic
import LinkGate.Report.Failure
import LinkGate.Report.Table
import LinkGate.Report.Verdicts
import LinkGate.Repository
import LinkGate.Run
import LinkGate.Scope
import LinkGate.Session
import LinkGate.Target
import LinkGate.Text.Affix
import LinkGate.Text.Canonical
import LinkGate.Text.CaseFold
import LinkGate.Text.Direction
import LinkGate.Text.Entity
import LinkGate.Text.Joining
import LinkGate.Text.Mark
import LinkGate.Text.Quoted
import LinkGate.Text.RunTable
import LinkGate.Text.Similarity
import LinkGate.Text.Utf8
import LinkGate.Text.Whitespace
import LinkGate.Url.Address
import LinkGate.Url.Basic
import LinkGate.Url.Domain
import LinkGate.Url.DomainMapping
import LinkGate.Url.Parser
import LinkGate.Url.PercentEncoding
import LinkGate.Url.Punycode
