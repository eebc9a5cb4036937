import Midrange.Dialect
import Midrange.Dialect.Call
import Midrange.Event
import Midrange.Fault
import Midrange.Fault.Mismatch
import Midrange.Fields
import Midrange.Handle
import Midrange.Log.Configuration
import Midrange.Log.Console
import Midrange.Log.Json
import Midrange.Log.Level
import Midrange.Log.Line
import Midrange.Log.Report
import Midrange.Number.Binary
import Midrange.Number.Decimal
import Midrange.Number.Reading
import Midrange.Number.Shortest
import Midrange.Number.Sum
import Midrange.Options.ConnectionString
import Midrange.Options.Redaction
import Midrange.Options.Timeout
import Midrange.Pool.Checkout
import Midrange.Pool.Connection
import Midrange.Proofs.Bracket
import Midrange.Proofs.Client
import Midrange.Proofs.Exchange
import Midrange.Registry
import Midrange.Rehearsal
import Midrange.Routine
import Midrange.Select
import Midrange.Select.CountDistinct
import Midrange.Select.Limit
import Midrange.Session
import Midrange.Settings
import Midrange.Settings.Coercion
import Midrange.Settings.Json
import Midrange.Settings.VariableFile
import Midrange.Store.Call
import Midrange.Store.World
import Midrange.Table
import Midrange.Table.Display
import Midrange.Target
import Midrange.Text.Blank
import Midrange.Text.CharacterRange
import Midrange.Text.Digit
import Midrange.Text.LetterCase
import Midrange.Text.LetterTable
import Midrange.Text.Printable
import Midrange.Text.Quoted
import Midrange.Value
import Midrange.Value.Key
import Midrange.Value.Sum
import Midrange.Proofs.Custody
import Midrange.Proofs.Custody.Client
import Midrange.Proofs.Custody.Courses
import Midrange.Proofs.Custody.Places
import Midrange.Proofs.Custody.Scopes
import Midrange.Proofs.Custody.Trails
import Midrange.Proofs.Custody.Fleet
import Midrange.Proofs.Account
import Midrange.Proofs.Wire
import Midrange.Proofs.Reach
import Midrange.Proofs.Reach.Pool
import Midrange.Proofs.Reach.Session
import Midrange.Proofs.Script
import Midrange.Proofs.Restoration
import Midrange.Proofs.Stock
import Midrange.Proofs.Uncommitted
import Midrange.Proofs.Ledger
import Midrange.Proofs.Atomicity
import Midrange.Proofs.Recognition
import Midrange.Proofs.Pages
import Midrange.Proofs.Program
import Midrange.Proofs.Crew
import Midrange.Proofs.Tending
import Midrange.Proofs.Duty
import Midrange.Proofs.Duty.Program
import Midrange.Proofs.Crew.Errands
import Midrange.Proofs.Crew.Sessions
import Midrange.Proofs.Crew.Registries
import Midrange.Proofs.Crew.Teardowns
import Midrange.Proofs.Crew.Accord
import Midrange.Proofs.Crew.Gentle
import Midrange.Proofs.Crew.Coherence
import Midrange.Proofs.Crew.FirstWins
import Midrange.Proofs.Keywords
import Midrange.Proofs.Items
import Midrange.Proofs.TableItems
import Midrange.Proofs.Guard
import Midrange.Proofs.Traffic
import Midrange.Proofs.Traffic.Charge
import Midrange.Proofs.Traffic.Client
import Midrange.Proofs.Traffic.Idle
import Midrange.Proofs.Traffic.Spoil
import Midrange.Proofs.Traffic.Reuse
import Midrange.Proofs.Identity
import Midrange.Proofs.Steering
import Midrange.Proofs.Attribution
import Midrange.Proofs.Connecting
import Midrange.Proofs.Office
import Midrange.Proofs.Office.Tenure
import Midrange.Proofs.Office.Client
import Midrange.Proofs.Office.Receipts
import Midrange.Proofs.Secrecy
import Midrange.Proofs.Secrecy.Session
import Midrange.Proofs.Secrecy.Program
import Midrange.Proofs.Address
import Midrange.Proofs.Quotes
import Midrange.Proofs.Identifiers
import Midrange.Proofs.DistinctPages
import Midrange.Proofs.Dispatch
import Midrange.Proofs.Requoting
import Midrange.Proofs.Literals
import Midrange.Proofs.Defaults
import Midrange.Proofs.Fragments
import Midrange.Proofs.Aggregates
import Midrange.Proofs.Timeouts
import Midrange.Proofs.Context
import Midrange.Proofs.Scopes
import Midrange.Proofs.DistinctCounts
import Midrange.Proofs.QuotedText
import Midrange.Proofs.Desk
import Midrange.Proofs.Rendering
import Midrange.Proofs.Thresholds
import Midrange.Proofs.ServiceName
import Midrange.Proofs.Misconfiguration
