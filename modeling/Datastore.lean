import Datastore.Config.Document
import Datastore.Config.Dsn
import Datastore.Proofs.Session.Effect
import Datastore.Proofs.Table
import Datastore.Session.Step
import Datastore.Proofs.Session.Checkout
import Datastore.Proofs.Session.Decomposition
import Datastore.Proofs.Session.Line
import Datastore.Proofs.Session.Balance
import Datastore.Proofs.Session.Turns
import Datastore.Proofs.Slots
import Datastore.Proofs.Backend
import Datastore.Proofs.Session.Ledger
import Datastore.Proofs.Session.Register
import Datastore.Proofs.Handles
import Datastore.Proofs.Session.Transactions
import Datastore.Proofs.Isolation
import Datastore.Proofs.Session.Waiters
import Datastore.Proofs.Closing
import Datastore.Proofs.Automaton
import Datastore.Proofs.Endings
import Datastore.Proofs.Secrets
import Datastore.Proofs.Session.Act
import Datastore.Proofs.Session.Enact
import Datastore.Proofs.Session.Handout
import Datastore.Proofs.Queue
import Datastore.Proofs.Session.Origin
import Datastore.Proofs.Session.Upkeep
import Datastore.Proofs.Staleness
import Datastore.Proofs.Settings
import Datastore.Proofs.Session.Making
import Datastore.Proofs.Dialects
import Datastore.Proofs.Json.Trees
import Datastore.Proofs.Documents
import Datastore.Proofs.Manufacture
import Datastore.Proofs.Checkouts
import Datastore.Proofs.Session.Journal
import Datastore.Proofs.Session.Strays
import Datastore.Proofs.Failures
import Datastore.Proofs.Session.Fates
import Datastore.Proofs.Session.Absence
import Datastore.Proofs.Session.Retiring
import Datastore.Proofs.Abandonment
import Datastore.Proofs.Session.Saturation
import Datastore.Proofs.Session.Relay
import Datastore.Proofs.Handoff
import Datastore.Proofs.Cascade
import Datastore.Proofs.Agreement
import Datastore.Proofs.Templates
import Datastore.Proofs.Transience
import Datastore.Proofs.Numerals
import Datastore.Proofs.Tunings
import Datastore.Proofs.Sites
import Datastore.Proofs.Parameters
import Datastore.Proofs.Json.Layouts
import Datastore.Proofs.Spellings
import Datastore.Proofs.Accessors
import Datastore.Proofs.Members
