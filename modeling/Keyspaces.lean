import Keyspaces.Text.Blank
import Keyspaces.Text.Digit
import Keyspaces.Text.LowerCase
import Keyspaces.Text.Printable
import Keyspaces.Text.Quoted
import Keyspaces.Text.Split
import Keyspaces.Text.Utf8
import Keyspaces.Number.Double.Shortest
import Keyspaces.Number.Integer
import Keyspaces.Table
import Keyspaces.Value
import Keyspaces.Failure
import Keyspaces.Conversion
import Keyspaces.Setting
import Keyspaces.Setting.Catalog
import Keyspaces.Config
import Keyspaces.FileTree
import Keyspaces.Config.Environment
import Keyspaces.Resource
import Keyspaces.Cluster.ContactPoints
import Keyspaces.Cluster.Options
import Keyspaces.Member
import Keyspaces.Xml.Codec
import Keyspaces.Xml.Markup
import Keyspaces.Xml.Element
import Keyspaces.Xml.Namespace
import Keyspaces.Xml.Prolog.Grammar
import Keyspaces.Xml.Document
import Keyspaces.Declarations
import Keyspaces.Event
import Keyspaces.Importable.Catalog
import Keyspaces.Context
import Keyspaces.Check
import Keyspaces.Main
import Keyspaces.Fleet
import Keyspaces.Proofs.Table
import Keyspaces.Proofs.Action
import Keyspaces.Proofs.Registry
import Keyspaces.Proofs.Registry.Shutdown
import Keyspaces.Proofs.History
import Keyspaces.Proofs.Handle
import Keyspaces.Proofs.Factory
import Keyspaces.Proofs.Factory.Atomicity
import Keyspaces.Proofs.Outcome
import Keyspaces.Proofs.Config.Ini
import Keyspaces.Proofs.Config.Settings
import Keyspaces.Proofs.Config.Layers
import Keyspaces.Proofs.Config.Environment
import Keyspaces.Proofs.Config.Update
import Keyspaces.Proofs.Config.ShellWords
import Keyspaces.Proofs.Config.Variable
import Keyspaces.Proofs.Number.Integer
import Keyspaces.Proofs.Text.Strip
import Keyspaces.Proofs.Setting
import Keyspaces.Proofs.Setting.Integer
import Keyspaces.Proofs.Host
import Keyspaces.Proofs.Host.Reading
import Keyspaces.Proofs.Host.Writing
import Keyspaces.Proofs.Host.Joining
import Keyspaces.Proofs.Configurator
import Keyspaces.Proofs.Reference
import Keyspaces.Proofs.Resource.Options
import Keyspaces.Proofs.Resource
import Keyspaces.Proofs.Resource.Reading
import Keyspaces.Proofs.Configurator.Record
import Keyspaces.Proofs.Account
import Keyspaces.Proofs.Account.Changes
import Keyspaces.Proofs.Account.Operations
import Keyspaces.Proofs.Custody
import Keyspaces.Proofs.Cluster.Reconnection
import Keyspaces.Proofs.Cluster.Options
import Keyspaces.Proofs.Cluster.Mapping
import Keyspaces.Proofs.Cluster.ContactPoints
import Keyspaces.Proofs.Declarations
import Keyspaces.Proofs.Xml.Element
import Keyspaces.Proofs.Xml.Prolog
import Keyspaces.Proofs.Xml.Document
import Keyspaces.Proofs.Xml.Declaration
import Keyspaces.Proofs.Declarations.Meaning
import Keyspaces.Proofs.Declarations.Acceptance
import Keyspaces.Proofs.Declarations.Moving
import Keyspaces.Proofs.Declarations.Source
import Keyspaces.Proofs.Context
import Keyspaces.Proofs.Context.Loading
import Keyspaces.Proofs.Context.Furnishing
import Keyspaces.Proofs.Context.Lookup
import Keyspaces.Proofs.Check
import Keyspaces.Proofs.Check.Arguments
import Keyspaces.Proofs.Check.Verdict
import Keyspaces.Proofs.Check.Ending
import Keyspaces.Proofs.Run
import Keyspaces.Proofs.Handle.Attachment
import Keyspaces.Proofs.Handle.Sessions
import Keyspaces.Proofs.Continuity
import Keyspaces.Proofs.Continuity.Operations
import Keyspaces.Proofs.Context.Retention
import Keyspaces.Proofs.Context.Stability
import Keyspaces.Proofs.Sharing
import Keyspaces.Proofs.Context.Past
import Keyspaces.Proofs.Factory.Resolution
