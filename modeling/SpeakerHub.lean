import SpeakerHub.Main
import SpeakerHub.Remote.Device
import SpeakerHub.Remote.Host
import SpeakerHub.Web.Server
import SpeakerHub.Proofs.Markup.Escaping
import SpeakerHub.Proofs.Markup.Rereading
import SpeakerHub.Proofs.Markup.Records
import SpeakerHub.Proofs.Record.ListDocuments
import SpeakerHub.Proofs.Record.DeviceDocument
import SpeakerHub.Proofs.Disk.Steps
import SpeakerHub.Proofs.Store.Layout
import SpeakerHub.Proofs.Store.Writing
import SpeakerHub.Proofs.Store.Saving
import SpeakerHub.Proofs.Disk.Subtree
import SpeakerHub.Proofs.Store.Locality
import SpeakerHub.Proofs.Account.Isolation
import SpeakerHub.Proofs.Text.Numeral
import SpeakerHub.Proofs.Text.Scanning
import SpeakerHub.Proofs.Store.Tokens
import SpeakerHub.Proofs.Store.Changes
import SpeakerHub.Proofs.Account.Answers
import SpeakerHub.Proofs.Account.Changes
import SpeakerHub.Proofs.Account.Runs
import SpeakerHub.Proofs.Account.Caching
import SpeakerHub.Proofs.Account.Serving
import SpeakerHub.Proofs.Account.Buttons
import SpeakerHub.Proofs.Record.Agreement
import SpeakerHub.Proofs.Markup.Faithful
import SpeakerHub.Proofs.Account.Requests
import SpeakerHub.Proofs.Account.Registration
import SpeakerHub.Proofs.Account.Plays
import SpeakerHub.Proofs.Store.SourceIds
import SpeakerHub.Proofs.Account.Embedding
import SpeakerHub.Proofs.Account.Failures
import SpeakerHub.Proofs.Migration.Restarts
import SpeakerHub.Proofs.Migration.Summaries
import SpeakerHub.Proofs.Remote.Files
import SpeakerHub.Proofs.Remote.AddressGrammar
import SpeakerHub.Proofs.Remote.AddressScan
import SpeakerHub.Proofs.Remote.Hosts
import SpeakerHub.Proofs.Remote.Authorities
import SpeakerHub.Proofs.Migration.Lasting
import SpeakerHub.Proofs.Discovery.Merging
import SpeakerHub.Proofs.Discovery.Recording
import SpeakerHub.Proofs.Discovery.Scanning
import SpeakerHub.Proofs.Discovery.Interleaving
import SpeakerHub.Proofs.Store.Listing
import SpeakerHub.Proofs.Web.Safety
import SpeakerHub.Proofs.Markup.Truncation
import SpeakerHub.Proofs.Store.Truncation
import SpeakerHub.Proofs.Account.PlayOrder
import SpeakerHub.Proofs.Account.PlayRecords
import SpeakerHub.Proofs.Calendar.Days
import SpeakerHub.Proofs.Calendar.Timestamps
import SpeakerHub.Proofs.Account.PlayTimes
import SpeakerHub.Proofs.Migration.PlannedFile
import SpeakerHub.Proofs.Discovery.Filing
import SpeakerHub.Proofs.Account.Reports
import SpeakerHub.Proofs.Account.Replays
