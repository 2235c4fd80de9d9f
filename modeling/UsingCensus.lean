import UsingCensus.Text.Integer
import UsingCensus.Workspace.Loading
import UsingCensus.Target
import UsingCensus.SourceText
import UsingCensus.CSharp.Directive
import UsingCensus.Yaml.Scalar
import UsingCensus.Yaml.Token
import UsingCensus.Yaml.Graph
import UsingCensus.Yaml.Value
import UsingCensus.Yaml.Construction
import UsingCensus.Configuration
import UsingCensus.Tally
import UsingCensus.SharedTally
import UsingCensus.Report
import UsingCensus.Grammar
import UsingCensus.Log
import UsingCensus.Logbook
import UsingCensus.Selection
import UsingCensus.Census.Run
import UsingCensus.Census.Pool
import UsingCensus.Census.Tour
import UsingCensus.CommandLine.Reading
import UsingCensus.CommandLine.Help
import UsingCensus.Session
import UsingCensus.Host
import UsingCensus.Main
import UsingCensus.Proofs.Counting
import UsingCensus.Proofs.Ranked
import UsingCensus.Proofs.Courses
import UsingCensus.Proofs.Harvesting
import UsingCensus.Proofs.Accounts
import UsingCensus.Proofs.Disturbances
import UsingCensus.Proofs.Pools
import UsingCensus.Proofs.PoolCustody
import UsingCensus.Proofs.PoolLedger
import UsingCensus.Proofs.PoolProgress
import UsingCensus.Proofs.Schedules
import UsingCensus.Proofs.PoolCancellation
import UsingCensus.Proofs.Tours
import UsingCensus.Proofs.TourOutcomes
import UsingCensus.Proofs.TourCancellation
import UsingCensus.Proofs.ProperPaths
import UsingCensus.Proofs.Following
import UsingCensus.Proofs.References
import UsingCensus.Proofs.Visits
import UsingCensus.Proofs.Discovery
import UsingCensus.Proofs.Reachability
import UsingCensus.Proofs.Resolution
import UsingCensus.Proofs.Duplicates
import UsingCensus.Proofs.LoadFaults
import UsingCensus.Proofs.Omissions
import UsingCensus.Proofs.Openings
import UsingCensus.Proofs.Listings
import UsingCensus.Proofs.Mirrors
import UsingCensus.Proofs.Carrying
import UsingCensus.Proofs.Targets
import UsingCensus.Proofs.Likeness
import UsingCensus.Proofs.Reordering
import UsingCensus.Proofs.FolderTexts
import UsingCensus.Proofs.Walks
import UsingCensus.Proofs.Moving
import UsingCensus.Proofs.Relocation
import UsingCensus.Proofs.PlainFolders
import UsingCensus.Proofs.MovedProjects
import UsingCensus.Proofs.ListingOrder
import UsingCensus.Proofs.Verdicts
import UsingCensus.Proofs.Numerals
import UsingCensus.Proofs.Switches
import UsingCensus.Proofs.SteadyRuns
import UsingCensus.Proofs.ImportedTexts
import UsingCensus.Proofs.TableLines
import UsingCensus.Proofs.CompiledFiles
import UsingCensus.Proofs.ResolvedTargets
import UsingCensus.Proofs.Growing
import UsingCensus.Proofs.Logbooks
import UsingCensus.Proofs.GrownListings
import UsingCensus.Proofs.Looks
import UsingCensus.Proofs.RunsInTurn
import UsingCensus.Proofs.ToldRecords
import UsingCensus.Proofs.SolutionEntries
import UsingCensus.Proofs.Onward
import UsingCensus.Proofs.Descents
import UsingCensus.Proofs.Detours
import UsingCensus.Proofs.LocatedFiles
import UsingCensus.Proofs.DefaultItems
import UsingCensus.Proofs.RemovedFolders
import UsingCensus.Proofs.Matching
import UsingCensus.Proofs.PatternTexts
import UsingCensus.Proofs.Exclusions
import UsingCensus.Proofs.Selected
import UsingCensus.Proofs.DirectiveNames
import UsingCensus.Proofs.EncodedTexts
import UsingCensus.Proofs.SpelledTokens
import UsingCensus.Proofs.Programs
import UsingCensus.Proofs.ProgramImports
import UsingCensus.Proofs.RankedEntries
import UsingCensus.Proofs.SharedTallies
import UsingCensus.Proofs.WideTexts
import UsingCensus.Proofs.SavedTexts
import UsingCensus.Proofs.ReadReports
import UsingCensus.Proofs.Correspondence
import UsingCensus.Proofs.ItemPieces
import UsingCensus.Proofs.UnevaluatedParts
import UsingCensus.Proofs.ElementSpaces
import UsingCensus.Proofs.Spellings
import UsingCensus.Proofs.YamlFaults
import UsingCensus.Proofs.YamlValues
import UsingCensus.Proofs.Constructions
import UsingCensus.Proofs.ConfigurationFaults
import UsingCensus.Proofs.Settings
import UsingCensus.Proofs.SettingDepths
import UsingCensus.Proofs.ConfiguredRuns
import UsingCensus.Proofs.LoadRounds
import UsingCensus.Proofs.GrammarNames
import UsingCensus.Proofs.DocumentOrder
