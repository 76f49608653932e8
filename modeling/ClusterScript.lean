import ClusterScript.Cluster.Basic
import ClusterScript.Cluster.Client
import ClusterScript.Cluster.Decoding
import ClusterScript.Cluster.Http
import ClusterScript.Cluster.Kubeconfig
import ClusterScript.Cluster.Object
import ClusterScript.Cluster.Pod
import ClusterScript.Cluster.Resource
import ClusterScript.Cluster.Store
import ClusterScript.Fault
import ClusterScript.FileTree
import ClusterScript.Json.Basic
import ClusterScript.Json.Mismatch
import ClusterScript.Json.Printer
import ClusterScript.Json.Reader
import ClusterScript.Json.Schema
import ClusterScript.Json.Skipping
import ClusterScript.Library
import ClusterScript.Main
import ClusterScript.Number.Binary64
import ClusterScript.Number.Decimal
import ClusterScript.Number.Power
import ClusterScript.Output.Summary
import ClusterScript.Output.Table
import ClusterScript.Pattern.Basic
import ClusterScript.Pattern.Parser
import ClusterScript.Query.Basic
import ClusterScript.Query.Glob
import ClusterScript.Registry.Arity
import ClusterScript.Registry.Basic
import ClusterScript.Registry.Method
import ClusterScript.Script.Classes
import ClusterScript.Script.Converter
import ClusterScript.Script.Engine
import ClusterScript.Script.Evaluation
import ClusterScript.Script.Flatten
import ClusterScript.Script.HostCall
import ClusterScript.Script.Lists
import ClusterScript.Script.Logs
import ClusterScript.Script.Notation
import ClusterScript.Script.Objects
import ClusterScript.Script.Operations
import ClusterScript.Script.Params
import ClusterScript.Script.Pivot
import ClusterScript.Script.Scalar
import ClusterScript.Script.Scope
import ClusterScript.Script.Selectors
import ClusterScript.Script.Tally
import ClusterScript.Script.Tree
import ClusterScript.Script.Value
import ClusterScript.Script.World
import ClusterScript.Selector.Expression
import ClusterScript.Selector.Labels
import ClusterScript.Selector.Term
import ClusterScript.Session.Basic
import ClusterScript.Session.Completion
import ClusterScript.Session.Rendering
import ClusterScript.Shell.Arguments
import ClusterScript.Shell.Config
import ClusterScript.Shell.Interaction
import ClusterScript.Shell.Program
import ClusterScript.Text.Alphanumeric
import ClusterScript.Text.Blank
import ClusterScript.Text.LetterCase
import ClusterScript.Text.Printable
import ClusterScript.Text.Quoted
import ClusterScript.Text.Ranges
import ClusterScript.Text.Split
import ClusterScript.Text.Utf8
import ClusterScript.Text.Width
import ClusterScript.Time.Timestamp
import ClusterScript.Yaml.Printer
import ClusterScript.Yaml.Scalar
import ClusterScript.Proofs.Cluster.Attempts
import ClusterScript.Proofs.Cluster.Decoding
import ClusterScript.Proofs.Cluster.KeyedStore
import ClusterScript.Proofs.Cluster.Paging
import ClusterScript.Proofs.Cluster.PodSelectors
import ClusterScript.Proofs.Cluster.Pods
import ClusterScript.Proofs.Cluster.Requests
import ClusterScript.Proofs.Json.Members
import ClusterScript.Proofs.Json.NumberLeaves
import ClusterScript.Proofs.Number.Doubles
import ClusterScript.Proofs.Number.Nearest
import ClusterScript.Proofs.Number.SixPlaces
import ClusterScript.Proofs.Number.Values
import ClusterScript.Proofs.Pattern.Meaning
import ClusterScript.Proofs.Pattern.Reading
import ClusterScript.Proofs.Query.Arguments
import ClusterScript.Proofs.Query.GlobForms
import ClusterScript.Proofs.Query.NameFilters
import ClusterScript.Proofs.Query.NamePatterns
import ClusterScript.Proofs.Registry.Carrying
import ClusterScript.Proofs.Registry.Extension
import ClusterScript.Proofs.Registry.History
import ClusterScript.Proofs.Registry.Instances
import ClusterScript.Proofs.Script.Acts
import ClusterScript.Proofs.Script.Addresses
import ClusterScript.Proofs.Script.Atomicity
import ClusterScript.Proofs.Script.Blockless
import ClusterScript.Proofs.Script.Branches
import ClusterScript.Proofs.Script.Building
import ClusterScript.Proofs.Script.ClassTables
import ClusterScript.Proofs.Script.Collected
import ClusterScript.Proofs.Script.Containers
import ClusterScript.Proofs.Script.Conversion
import ClusterScript.Proofs.Script.Courses
import ClusterScript.Proofs.Script.CreatedPods
import ClusterScript.Proofs.Script.DecimalTexts
import ClusterScript.Proofs.Script.Deeds
import ClusterScript.Proofs.Script.Endings
import ClusterScript.Proofs.Script.Installed
import ClusterScript.Proofs.Script.Keys
import ClusterScript.Proofs.Script.ListViews
import ClusterScript.Proofs.Script.Listing
import ClusterScript.Proofs.Script.LogCalls
import ClusterScript.Proofs.Script.LogHandles
import ClusterScript.Proofs.Script.ManagedPods
import ClusterScript.Proofs.Script.MatchBlocks
import ClusterScript.Proofs.Script.NamedCalls
import ClusterScript.Proofs.Script.ObjectCalls
import ClusterScript.Proofs.Script.OperandNesting
import ClusterScript.Proofs.Script.OperandTrees
import ClusterScript.Proofs.Script.Operands
import ClusterScript.Proofs.Script.ParameterTables
import ClusterScript.Proofs.Script.Parameters
import ClusterScript.Proofs.Script.QueryBlocks
import ClusterScript.Proofs.Script.Recordings
import ClusterScript.Proofs.Script.References
import ClusterScript.Proofs.Script.RoundTrip
import ClusterScript.Proofs.Script.Running
import ClusterScript.Proofs.Script.SettingUp
import ClusterScript.Proofs.Script.Snapshots
import ClusterScript.Proofs.Script.Spellings
import ClusterScript.Proofs.Script.TableOrder
import ClusterScript.Proofs.Script.Tables
import ClusterScript.Proofs.Script.Traces
import ClusterScript.Proofs.Script.Traces.Actions
import ClusterScript.Proofs.Script.Traces.Operations
import ClusterScript.Proofs.Script.Traces.Queries
import ClusterScript.Proofs.Script.Traces.Resources
import ClusterScript.Proofs.Script.WholeNumbers
import ClusterScript.Proofs.Selector.FieldMeaning
import ClusterScript.Proofs.Selector.FieldTerms
import ClusterScript.Proofs.Selector.LabelMatching
import ClusterScript.Proofs.Selector.Meaning
import ClusterScript.Proofs.Session.Completing
import ClusterScript.Proofs.Text.Cutting
