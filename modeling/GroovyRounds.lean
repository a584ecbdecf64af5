import GroovyRounds.CommandLine.Run
import GroovyRounds.Compiler.Script
import GroovyRounds.Main
import GroovyRounds.ProcessTree
import GroovyRounds.Proofs.Program
import GroovyRounds.Proofs.FileSystem.WorkingDirectory
import GroovyRounds.Proofs.Build.Frame
import GroovyRounds.Proofs.Build.CompilerRun
import GroovyRounds.Proofs.Build.Round
import GroovyRounds.Proofs.Build.Passes
import GroovyRounds.Proofs.Build.Scheduling
import GroovyRounds.Proofs.Build.Reports
import GroovyRounds.Proofs.CommandLine.Success
import GroovyRounds.Proofs.Path
import GroovyRounds.Proofs.FileSystem.Nodes
import GroovyRounds.Proofs.FileSystem.Walks
import GroovyRounds.Proofs.FileSystem.Directories
import GroovyRounds.Proofs.FileSystem.Moves
import GroovyRounds.Proofs.OrderedMap
import GroovyRounds.Proofs.Build.OutputPlaces
import GroovyRounds.Proofs.Build.Reconcile
import GroovyRounds.Proofs.Build.Registration
import GroovyRounds.Proofs.Build.ClassMap
import GroovyRounds.Proofs.Build.Preparation
import GroovyRounds.Proofs.Build.Unregistered
import GroovyRounds.Proofs.Build.Sources
import GroovyRounds.Proofs.Build.Incremental
import GroovyRounds.Proofs.Compiler.ArgumentFile
import GroovyRounds.Proofs.FileSystem.Room
import GroovyRounds.Proofs.ClassFile.ModifiedUtf8
import GroovyRounds.Proofs.ClassFile.Header
import GroovyRounds.Proofs.Build.Keeping
import GroovyRounds.Proofs.Build.Rebuilds
import GroovyRounds.Proofs.Compiler.Pieces
import GroovyRounds.Proofs.Build.StubPlaces
import GroovyRounds.Proofs.Build.KnownStubs
import GroovyRounds.Proofs.Build.StubRounds
import GroovyRounds.Proofs.FileSystem.Trees
import GroovyRounds.Proofs.FileSystem.Vacancy
import GroovyRounds.Proofs.FileSystem.Fresh
import GroovyRounds.Proofs.Compiler.Reported
import GroovyRounds.Proofs.Build.FreshOutputs
import GroovyRounds.Proofs.Build.MakingRuns
import GroovyRounds.Proofs.Build.Moving
import GroovyRounds.Proofs.Build.RolePlaces
import GroovyRounds.Proofs.Build.ReadyRounds
import GroovyRounds.Proofs.Build.Delivery
import GroovyRounds.Proofs.Build.DeliveredRounds
import GroovyRounds.Proofs.Build.Owners
import GroovyRounds.Proofs.Build.WholeChunks
import GroovyRounds.Proofs.Compiler.Sections
import GroovyRounds.Proofs.Build.Modes
import GroovyRounds.Proofs.Build.UnfinishedRounds
import GroovyRounds.Proofs.Build.RoundEndings
import GroovyRounds.Proofs.Build.InStep
import GroovyRounds.Proofs.Build.CleanedUp
import GroovyRounds.Proofs.Build.RebuildOrders
import GroovyRounds.Proofs.FileSystem.Growth
import GroovyRounds.Proofs.Build.MissingOutputs
import GroovyRounds.Proofs.Canonical
import GroovyRounds.Proofs.FileSystem.Refusals
import GroovyRounds.Proofs.Build.Relocation
import GroovyRounds.Proofs.Groups
import GroovyRounds.Proofs.Build.Grouping
import GroovyRounds.Proofs.Results
import GroovyRounds.Proofs.Settings.Loading
import GroovyRounds.Proofs.Project.Loading
import GroovyRounds.Proofs.CommandLine.Configuration
import GroovyRounds.Proofs.Build.OwnOutputs
import GroovyRounds.Proofs.ClassFile.Cursor
import GroovyRounds.Proofs.ClassFile.Extent
import GroovyRounds.Proofs.ClassFile.OtherTexts
import GroovyRounds.Proofs.Compiler.Findings
import GroovyRounds.Proofs.FileSystem.Tidy
import GroovyRounds.Proofs.FileSystem.Effects
import GroovyRounds.Proofs.Build.RoundEffects
import GroovyRounds.Proofs.Project.SourceTrees
import GroovyRounds.Proofs.Build.Grounds
import GroovyRounds.Proofs.Build.GroundedBuilds
import GroovyRounds.Proofs.CommandLine.Reloading
import GroovyRounds.Proofs.CommandLine.Rebuilding
import GroovyRounds.Proofs.Version
import GroovyRounds.Proofs.Build.PostProcessing
import GroovyRounds.Proofs.FileSystem.Renewal
import GroovyRounds.Proofs.Build.FreshStubs
import GroovyRounds.Proofs.Build.FirstRounds
import GroovyRounds.Proofs.Glob
import GroovyRounds.Proofs.Build.Classpath
import GroovyRounds.Proofs.Build.ClassLoading
import GroovyRounds.Proofs.Project.WellFormed
import GroovyRounds.Proofs.Settings.Precedence
