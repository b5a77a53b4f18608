import OcamlAssist.Main
import OcamlAssist.Script.Run
import OcamlAssist.Session.Desk
import OcamlAssist.Settings.FromJson
import OcamlAssist.Proofs.Locals.Cache
import OcamlAssist.Proofs.Session.Steps
import OcamlAssist.Proofs.Session.History
import OcamlAssist.Proofs.Session.Isolation
import OcamlAssist.Proofs.Text.Split
import OcamlAssist.Proofs.Buffer.Places
import OcamlAssist.Proofs.Chars.Class
import OcamlAssist.Proofs.Completion.Listing
import OcamlAssist.Proofs.Query.Token
import OcamlAssist.Proofs.Query.Basic
import OcamlAssist.Proofs.Indexer.Words
import OcamlAssist.Proofs.Indexer.Tool
import OcamlAssist.Proofs.Text.Decimal
import OcamlAssist.Proofs.Buffer.Columns
import OcamlAssist.Proofs.Cli.Offset
import OcamlAssist.Proofs.Session.Answers
import OcamlAssist.Proofs.Session.StatusLine
import OcamlAssist.Proofs.Cli.Commands
import OcamlAssist.Proofs.Cli.Run
import OcamlAssist.Proofs.Locals.Scan
import OcamlAssist.Proofs.Cli.Lines
import OcamlAssist.Proofs.Machine.Places
import OcamlAssist.Proofs.Cli.Places
import OcamlAssist.Proofs.Locals.Header
import OcamlAssist.Proofs.Buffer.Words
import OcamlAssist.Proofs.Completion.Insertion
import OcamlAssist.Proofs.Query.Access
import OcamlAssist.Proofs.Session.TypePlace
import OcamlAssist.Proofs.Completion.Seams
import OcamlAssist.Proofs.Locals.Locality
import OcamlAssist.Proofs.Locals.Names
import OcamlAssist.Proofs.Query.ModuleName
import OcamlAssist.Proofs.Query.WordBefore
import OcamlAssist.Proofs.Cli.Arguments
import OcamlAssist.Proofs.Log.Level
import OcamlAssist.Proofs.Machine.Files
import OcamlAssist.Proofs.Log.Files
import OcamlAssist.Proofs.Buffer.Checked
import OcamlAssist.Proofs.Session.PastEnd
