import Daybook.Machine.Watch
import Daybook.Main
import Daybook.Proofs.Journal.Nesting
import Daybook.Proofs.Journal.Opening
import Daybook.Proofs.Journal.Preserved
import Daybook.Proofs.Journal.Sharing
import Daybook.Proofs.Template.Grammar
import Daybook.Proofs.Journal.Flight
import Daybook.Proofs.Storage.Closed
import Daybook.Proofs.Journal.Found
import Daybook.Proofs.Toml.Number
import Daybook.Proofs.Toml.Quoted
import Daybook.Proofs.Toml.Page
import Daybook.Proofs.Config.RoundTrip
import Daybook.Proofs.Journal.Ensure
import Daybook.Proofs.Journal.Retry
import Daybook.Proofs.Journal.Reports
import Daybook.Proofs.Journal.Backfill
import Daybook.Proofs.Storage.Tree
import Daybook.Proofs.Command.SettingsFile
import Daybook.Proofs.Command.SettingsEdits
import Daybook.Proofs.Command.Turns
import Daybook.Proofs.Command.LineProtocol
import Daybook.Proofs.Library.Loaded
import Daybook.Proofs.Template.Tokens
import Daybook.Proofs.Command.Preview
import Daybook.Proofs.Storage.Likeness
import Daybook.Proofs.Storage.Additions
import Daybook.Proofs.Command.Additions
import Daybook.Proofs.Layout.Identity
import Daybook.Proofs.Calendar.Digits
import Daybook.Proofs.Calendar.Clock
import Daybook.Proofs.Journal.Backlinks
import Daybook.Proofs.Config.Partial
import Daybook.Proofs.Config.Confined
import Daybook.Proofs.Storage.Subtree
import Daybook.Proofs.Storage.OneKind
import Daybook.Proofs.Journal.Readable
import Daybook.Proofs.Storage.Refusal
import Daybook.Proofs.Journal.Missed
import Daybook.Proofs.Template.Scanned
import Daybook.Proofs.Note.Drawn
import Daybook.Proofs.Note.Delimiters
import Daybook.Proofs.Template.History
import Daybook.Proofs.Library.Overrides
import Daybook.Proofs.Random.Uniform
import Daybook.Proofs.Note.ReadBack
