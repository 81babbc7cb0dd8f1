import ClassForge.Artifact
import ClassForge.Console.Arguments
import ClassForge.Console.Session
import ClassForge.Console.Style
import ClassForge.Engine
import ClassForge.Engine.Description
import ClassForge.Failure
import ClassForge.FileTree
import ClassForge.Files
import ClassForge.FormatVersion
import ClassForge.Json.Basic
import ClassForge.Json.Parser
import ClassForge.Listener
import ClassForge.Main
import ClassForge.Manifest
import ClassForge.Number.Binary64
import ClassForge.Number.Digits
import ClassForge.Pattern.Basic
import ClassForge.Pattern.Bracket
import ClassForge.Pattern.CharSet
import ClassForge.Pattern.Engine
import ClassForge.Pattern.Escape
import ClassForge.Pattern.Parser
import ClassForge.Pattern.Reader
import ClassForge.Plan
import ClassForge.Planning
import ClassForge.Plugin
import ClassForge.Proofs.ArchiveHeaders
import ClassForge.Proofs.ArchiveMembers
import ClassForge.Proofs.ArchiveNames
import ClassForge.Proofs.ArchiveRoundTrip
import ClassForge.Proofs.AssembledEntries
import ClassForge.Proofs.BuiltEngines
import ClassForge.Proofs.ByteOrder
import ClassForge.Proofs.CachingEngines
import ClassForge.Proofs.CarriedInitializers
import ClassForge.Proofs.ClassEntries
import ClassForge.Proofs.CompiledSelectors
import ClassForge.Proofs.CompoundFold
import ClassForge.Proofs.CutArchives
import ClassForge.Proofs.DeclaredEntries
import ClassForge.Proofs.DeclaredPlugins
import ClassForge.Proofs.DirectoryAccesses
import ClassForge.Proofs.DirectoryWalks
import ClassForge.Proofs.ElementExit
import ClassForge.Proofs.ElementFold
import ClassForge.Proofs.EntryNames
import ClassForge.Proofs.EnvironmentPlugins
import ClassForge.Proofs.ExactValidation
import ClassForge.Proofs.FailFast
import ClassForge.Proofs.FaultPaths
import ClassForge.Proofs.HeaderNumbers
import ClassForge.Proofs.InitializerSafety
import ClassForge.Proofs.InterchangeableSources
import ClassForge.Proofs.JsonRoundTrip
import ClassForge.Proofs.KeyPlaces
import ClassForge.Proofs.LayeredSettings
import ClassForge.Proofs.LeafCalls
import ClassForge.Proofs.LocatedClasses
import ClassForge.Proofs.ManifestSelectors
import ClassForge.Proofs.MergedLayers
import ClassForge.Proofs.NamedFiles
import ClassForge.Proofs.NotificationBlocks
import ClassForge.Proofs.NumberTexts
import ClassForge.Proofs.OrderedReports
import ClassForge.Proofs.PartingRuns
import ClassForge.Proofs.PatternSearch
import ClassForge.Proofs.PlanDocuments
import ClassForge.Proofs.PlannedArchive
import ClassForge.Proofs.PlannedOutput
import ClassForge.Proofs.PlannedTypes
import ClassForge.Proofs.PluginForests
import ClassForge.Proofs.PluginTurns
import ClassForge.Proofs.RegisteredEntries
import ClassForge.Proofs.RegisteredInitializers
import ClassForge.Proofs.RegularMembers
import ClassForge.Proofs.RelativeNames
import ClassForge.Proofs.RememberedTypes
import ClassForge.Proofs.Replanning
import ClassForge.Proofs.RewrittenArchives
import ClassForge.Proofs.RunAccounting
import ClassForge.Proofs.RunAccounts
import ClassForge.Proofs.RunComposition
import ClassForge.Proofs.RunCourse
import ClassForge.Proofs.ScannedTypes
import ClassForge.Proofs.SectionKeys
import ClassForge.Proofs.SelectorChains
import ClassForge.Proofs.SelectorParts
import ClassForge.Proofs.SelectorValues
import ClassForge.Proofs.SkippedNames
import ClassForge.Proofs.SourceSimulation
import ClassForge.Proofs.StoredNames
import ClassForge.Proofs.StreamedArchives
import ClassForge.Proofs.Summaries
import ClassForge.Proofs.SummaryAgreement
import ClassForge.Proofs.TextLines
import ClassForge.Proofs.Trace
import ClassForge.Proofs.TreePaths
import ClassForge.Proofs.TreeWrites
import ClassForge.Proofs.UsedElements
import ClassForge.Proofs.Utf8RoundTrip
import ClassForge.Proofs.VersionSpellings
import ClassForge.Proofs.WrittenFiles
import ClassForge.Registry
import ClassForge.Rehearsal.Builder
import ClassForge.Rehearsal.Script
import ClassForge.Rehearsal.Source
import ClassForge.Report
import ClassForge.Selector
import ClassForge.Settings.Decode
import ClassForge.Settings.Diagnostic
import ClassForge.Settings.Environment
import ClassForge.Settings.KeySearch
import ClassForge.Settings.Layers
import ClassForge.Settings.Model
import ClassForge.Settings.Validation
import ClassForge.Source
import ClassForge.Source.Archive
import ClassForge.Source.Directory
import ClassForge.Source.Memory
import ClassForge.Succeeds
import ClassForge.Tar.Block
import ClassForge.Tar.Reader
import ClassForge.Tar.Writer
import ClassForge.Text.Blank
import ClassForge.Text.Cut
import ClassForge.Text.Quoted
import ClassForge.Text.Similarity
import ClassForge.Text.Utf8
import ClassForge.Toml.Document
import ClassForge.Toml.Fault
import ClassForge.Toml.Quoted
import ClassForge.Toml.Scalar
import ClassForge.Toml.Statement
import ClassForge.Toml.Table
import ClassForge.TypeName
import ClassForge.TypePool
import ClassForge.Unicode.Category
import ClassForge.Unicode.Fold
import ClassForge.Unicode.Property
import ClassForge.Unicode.Runs
import ClassForge.Unicode.Script
import ClassForge.Value
