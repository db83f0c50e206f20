import MemoryFabric.Address.Coverage
import MemoryFabric.Address.Decoder
import MemoryFabric.Address.Interleave
import MemoryFabric.Address.Partition
import MemoryFabric.Address.Range
import MemoryFabric.ByteSize.Decimal
import MemoryFabric.ByteSize.Reader
import MemoryFabric.ByteSize.Unit
import MemoryFabric.ByteSize.Written
import MemoryFabric.CommandLine.Folder
import MemoryFabric.CommandLine.Invocation
import MemoryFabric.CommandLine.Run
import MemoryFabric.Configuration.Choice
import MemoryFabric.Configuration.Codec
import MemoryFabric.Configuration.Environment
import MemoryFabric.Configuration.Layer
import MemoryFabric.Configuration.Load
import MemoryFabric.Configuration.Mistake
import MemoryFabric.Configuration.Section
import MemoryFabric.Configuration.Settings
import MemoryFabric.Configuration.Value
import MemoryFabric.Fabric.Build
import MemoryFabric.Fabric.Cluster
import MemoryFabric.Fabric.Core
import MemoryFabric.Fabric.Error
import MemoryFabric.Fabric.Kind
import MemoryFabric.Fabric.MemoryNode
import MemoryFabric.Fabric.Parameters
import MemoryFabric.Fabric.Phase
import MemoryFabric.Fabric.ProcessingNode
import MemoryFabric.Fabric.Routing
import MemoryFabric.Fabric.Session
import MemoryFabric.Fabric.Topology
import MemoryFabric.Fabric.Wiring
import MemoryFabric.Fabric.WorkingSet
import MemoryFabric.Fault
import MemoryFabric.Host.Component
import MemoryFabric.Host.Error
import MemoryFabric.Host.Graph
import MemoryFabric.Host.GraphText
import MemoryFabric.Host.Latency
import MemoryFabric.Host.Parameter
import MemoryFabric.Host.Recorder
import MemoryFabric.Host.Script
import MemoryFabric.Main
import MemoryFabric.Number.Binary64
import MemoryFabric.Number.Literal
import MemoryFabric.Number.Rounding
import MemoryFabric.Number.Shortest
import MemoryFabric.Number.Written
import MemoryFabric.Pattern.ClassReader
import MemoryFabric.Pattern.Meaning
import MemoryFabric.Pattern.Pattern
import MemoryFabric.Pattern.PatternReader
import MemoryFabric.Pattern.Reader
import MemoryFabric.Pattern.Reading
import MemoryFabric.Pattern.Size
import MemoryFabric.Pattern.Written
import MemoryFabric.Port.Allocator
import MemoryFabric.Port.Ledger
import MemoryFabric.Port.Name
import MemoryFabric.Proofs.Address.Coverage
import MemoryFabric.Proofs.Address.Decoding
import MemoryFabric.Proofs.Attempt
import MemoryFabric.Proofs.SortedMap
import MemoryFabric.SortedMap
import MemoryFabric.Text.Blank
import MemoryFabric.Text.Escaped
import MemoryFabric.Text.Hexadecimal
import MemoryFabric.Text.Quoted
import MemoryFabric.Text.Unprinted
import MemoryFabric.Toml.Date
import MemoryFabric.Toml.Document
import MemoryFabric.Toml.Table
import MemoryFabric.Tracking.Entity
import MemoryFabric.Tracking.Level
import MemoryFabric.Tracking.Output
import MemoryFabric.Tracking.Setup
import MemoryFabric.Tracking.Tracker
import MemoryFabric.Unicode.CaseFolding
import MemoryFabric.Unicode.Category
import MemoryFabric.Unicode.CharacterSet
import MemoryFabric.Unicode.ListedProperty
import MemoryFabric.Unicode.NamedSet
import MemoryFabric.Unicode.Property
import MemoryFabric.Unicode.SharedCharacter
import MemoryFabric.Unicode.Version
import MemoryFabric.Unicode.WritingSystem
import MemoryFabric.Unicode.WrittenSet
import MemoryFabric.Word
import MemoryFabric.Yaml.Anchor
import MemoryFabric.Yaml.Cursor
import MemoryFabric.Yaml.Document
import MemoryFabric.Yaml.Form
import MemoryFabric.Yaml.Meaning
import MemoryFabric.Yaml.Node
import MemoryFabric.Yaml.Scalar
import MemoryFabric.Yaml.Tag
import MemoryFabric.Yaml.Token
import MemoryFabric.Yaml.Tree
import MemoryFabric.Proofs.Address.LastOwned
import MemoryFabric.Proofs.Tracking.Room
import MemoryFabric.Proofs.Host.Growth
import MemoryFabric.Proofs.Fabric.Yields
import MemoryFabric.Proofs.Host.Atomicity
import MemoryFabric.Proofs.Host.Answers
import MemoryFabric.Proofs.Host.Calls
import MemoryFabric.Proofs.Fabric.Part
import MemoryFabric.Proofs.Port.Allocation
import MemoryFabric.Proofs.Port.Record
import MemoryFabric.Proofs.Fabric.Wire
import MemoryFabric.Proofs.Fabric.WiringYields
import MemoryFabric.Proofs.Fabric.Layout
import MemoryFabric.Proofs.Fabric.Linking
import MemoryFabric.Proofs.Address.Partition
import MemoryFabric.Proofs.Fabric.Partitioned
import MemoryFabric.Proofs.Fabric.Phases
import MemoryFabric.Proofs.Fabric.Outcome
import MemoryFabric.Proofs.Fabric.FreshBuild
import MemoryFabric.Proofs.Fabric.ExactLinks
import MemoryFabric.Proofs.ByteSize.RoundTrip
import MemoryFabric.Proofs.Fabric.RecordedAddresses
import MemoryFabric.Proofs.Fabric.Routes
import MemoryFabric.Proofs.Host.Step
import MemoryFabric.Proofs.Host.Run
import MemoryFabric.Proofs.Host.Links
import MemoryFabric.Proofs.Host.Forest
import MemoryFabric.Proofs.Host.EntityNames
import MemoryFabric.Proofs.Host.Names
import MemoryFabric.Proofs.Fabric.FinalizedBuild
import MemoryFabric.Proofs.Host.Extension
import MemoryFabric.Proofs.Fabric.ReportedBuild
import MemoryFabric.Proofs.Fabric.Extends
import MemoryFabric.Proofs.Fabric.AppendingBuild
import MemoryFabric.Proofs.Port.History
import MemoryFabric.Proofs.Fabric.ComponentTree
import MemoryFabric.Proofs.Fabric.NumberedParameters
import MemoryFabric.Proofs.Configuration.Members
import MemoryFabric.Proofs.Configuration.Merging
import MemoryFabric.Proofs.Configuration.Documents
import MemoryFabric.Proofs.Configuration.EnvironmentLayer
import MemoryFabric.Proofs.Configuration.Sections
import MemoryFabric.Proofs.Configuration.Fields
import MemoryFabric.Proofs.Configuration.Layering
import MemoryFabric.Proofs.Configuration.LoadedSettings
import MemoryFabric.Proofs.Configuration.EnvironmentFrame
import MemoryFabric.Proofs.Tracking.EntityLevels
import MemoryFabric.Proofs.Tracking.Family
import MemoryFabric.Proofs.Tracking.EnabledLines
import MemoryFabric.Proofs.Address.Remainder
import MemoryFabric.Proofs.Tracking.Groups
import MemoryFabric.Proofs.Tracking.FanOut
import MemoryFabric.Proofs.Fabric.TrackerIndependence
import MemoryFabric.Proofs.Address.Refusal
import MemoryFabric.Proofs.Address.Share
import MemoryFabric.Proofs.Fabric.Capacity
import MemoryFabric.Proofs.Port.Issuing
import MemoryFabric.Proofs.Configuration.WrittenSettings
import MemoryFabric.Proofs.ByteSize.LargestUnit
import MemoryFabric.Proofs.ByteSize.Hexadecimal
import MemoryFabric.Proofs.Number.Numeral
import MemoryFabric.Proofs.Configuration.Spelling
import MemoryFabric.Proofs.Fabric.CoreArguments
import MemoryFabric.Proofs.Fabric.WorkingSets
import MemoryFabric.Proofs.Host.LastWrite
import MemoryFabric.Proofs.Tracking.Registration
import MemoryFabric.Proofs.Tracking.Messages
import MemoryFabric.Proofs.Host.Messages
import MemoryFabric.Proofs.Fabric.QuietBuild
import MemoryFabric.Proofs.Fabric.ReportedFailure
import MemoryFabric.Proofs.Host.ByName
import MemoryFabric.Proofs.Fabric.CreationOrder
import MemoryFabric.Proofs.Tracking.Traced
import MemoryFabric.Proofs.Tracking.Ownership
import MemoryFabric.Proofs.Tracking.Chronicle
import MemoryFabric.Proofs.Tracking.Lifetimes
