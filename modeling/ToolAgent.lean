import ToolAgent.CommandLine.Dotenv
import ToolAgent.CommandLine.Program
import ToolAgent.Main
import ToolAgent.Proofs.Agent.Pairing
import ToolAgent.Proofs.Gateway.Agreement
import ToolAgent.Tool.Debug
import ToolAgent.Proofs.Agent.Rounds
import ToolAgent.Proofs.Agent.History
import ToolAgent.Proofs.Agent.ToolNames
import ToolAgent.Proofs.Gateway.Reports
import ToolAgent.Proofs.Stream.RoundTrip
import ToolAgent.Proofs.Gateway.StreamFailures
import ToolAgent.Proofs.Json.Canonical
import ToolAgent.Proofs.Json.Records
import ToolAgent.Proofs.Conversation.Encoding
import ToolAgent.Proofs.Text.WellFormed
import ToolAgent.Proofs.Json.Numbers
import ToolAgent.Proofs.Json.Numerals
import ToolAgent.Proofs.Json.Strings
import ToolAgent.Proofs.Json.Reading
import ToolAgent.Proofs.Json.RoundTrip
import ToolAgent.Proofs.Completion.Arguments
import ToolAgent.Proofs.Agent.Results
import ToolAgent.Proofs.Conversation.Transcript
import ToolAgent.Proofs.CommandLine.Precedence
import ToolAgent.Proofs.Gateway.EarlyEnds
import ToolAgent.Proofs.Gateway.Extension
import ToolAgent.Proofs.Gateway.ReportedUsage
import ToolAgent.Proofs.Completion.Interleaving
import ToolAgent.Proofs.Completion.Numbering
import ToolAgent.Proofs.Completion.RoundTrip
import ToolAgent.Proofs.Gateway.Payloads
import ToolAgent.Proofs.Conversation.Cutoff
import ToolAgent.Proofs.Conversation.Lines
import ToolAgent.Proofs.Gateway.RequestUrls
import ToolAgent.Proofs.Gateway.ExtensionSettings
import ToolAgent.Proofs.Json.NumberSpellings
import ToolAgent.Proofs.Json.Spellings
import ToolAgent.Proofs.Gateway.WeatherCalls
