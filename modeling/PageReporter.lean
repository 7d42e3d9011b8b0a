import PageReporter.CommandLine
import PageReporter.Command.Rehearsal
import PageReporter.Browser.Detect
import PageReporter.Rehearsal.Running
import PageReporter.Session
import PageReporter.Main
import PageReporter.Proofs.FeedOrder
import PageReporter.Proofs.CallAnswers
import PageReporter.Proofs.CommandRun
import PageReporter.Proofs.FrameReading
import PageReporter.Proofs.Turns
import PageReporter.Proofs.CommandTable
import PageReporter.Proofs.CleanUp
import PageReporter.Proofs.Bystanders
import PageReporter.Proofs.Journey
import PageReporter.Proofs.JourneyEnds
import PageReporter.Proofs.UniqueReading
import PageReporter.Proofs.SessionEnds
import PageReporter.Proofs.Questions
import PageReporter.Proofs.TabKeeping
import PageReporter.Proofs.FeedPhases
import PageReporter.Proofs.LettingGo
import PageReporter.Proofs.ConnectionEnd
import PageReporter.Proofs.FailedStarts
import PageReporter.Proofs.FeedLosses
import PageReporter.Proofs.Contacts
import PageReporter.Proofs.LossTold
import PageReporter.Proofs.Times
import PageReporter.Proofs.Lookups
import PageReporter.Proofs.LookupTurns
import PageReporter.Proofs.MessageTimes
import PageReporter.Proofs.PublishTimes
import PageReporter.Proofs.ResolvedArguments
import PageReporter.Proofs.TabReports
import PageReporter.Proofs.OpenRequests
import PageReporter.Proofs.SingleLine
import PageReporter.Proofs.Routing
import PageReporter.Proofs.SettingsEntries
import PageReporter.Proofs.SettingsLoad
import PageReporter.Proofs.SettingsLayers
import PageReporter.Proofs.NumberText
import PageReporter.Proofs.ThrownValues
import PageReporter.Proofs.JoinedTexts
import PageReporter.Proofs.WholeNumberLiterals
import PageReporter.Proofs.PortFile
import PageReporter.Proofs.ClickRun
import PageReporter.Proofs.ClickLiterals
import PageReporter.Proofs.EchoedArguments
import PageReporter.Proofs.Tellings
import PageReporter.Proofs.EmitterHistory
import PageReporter.Proofs.FittingEvents
import PageReporter.Proofs.FittingFeeds
import PageReporter.Proofs.FittingRuns
import PageReporter.Proofs.LogOutputs
import PageReporter.Proofs.QuotedTexts
import PageReporter.Proofs.TimeArguments
