import Cfix.Lib.Transition
import Cfix.Lib.Bracket
import Cfix.Base.Hresult
import Cfix.Fixture.Abort
import Cfix.Fixture.Action
import Cfix.Fixture.Brackets
import Cfix.Fixture.Law
import Cfix.Kernel.Unload
import Cfix.Kernel.Registry
import Cfix.Kernel.RegistrySafety
import Cfix.Filament.Conservation
import Cfix.Filament.Locks
import Cfix.Filament.Report
import Cfix.Filament.Routine
import Cfix.Filament.RoutineSteps
import Cfix.Filament.RoutineInv
import Cfix.Filament.Aborts
import Cfix.Filament.Dangling
import Cfix.Filament.Deadlock
import Cfix.Runner.ExecCtx
import Cfix.Runner.MainWorker
import Cfix.Runner.TestRun
import Cfix.Runner.Verdict
import Cfix.Fixture.Attribution
import Cfix.Fixture.Policy
import Cfix.Console.Verdict
import Cfix.Filament.LockDiscipline
import Cfix.Storage.Isolation
import Cfix.Storage.Agreement
import Cfix.Storage.TestObject
import Cfix.Sequence.Composition
import Cfix.Kernel.JoinSafety
import Cfix.Lib.Records
import Cfix.Kernel.EventWidths
import Cfix.Kernel.QueryInterface
import Cfix.Kernel.FilamentTable
import Cfix.Storage.KernelSlots
import Cfix.Kernel.ModuleRoundTrip
import Cfix.Pe.Agreement
import Cfix.Jpht.Hashtable
import Cfix.Jpht.Buckets
import Cfix.Lib.LinkedList
import Cfix.Lib.Buffer
import Cfix.Lib.RefCount
import Cfix.Jpht.Resize
import Cfix.Jpht.Refinement
import Cfix.Cdiag.Helper
import Cfix.Cdiag.Session
import Cfix.Cdiag.Dispatch
import Cfix.Cdiag.ConfigStore
import Cfix.Cdiag.TwoLevels
import Cfix.Cfixcc.AlmostEqual
import Cfix.Cdiag.StripNewlines
import Cfix.Cdiag.FormatString
import Cfix.Cdiag.FormatSpace
import Cfix.Cdiag.Expansion
import Cfix.Cdiag.Formatter
import Cfix.Cdiag.FormatterReads
import Cfix.Runner.Objects
import Cfix.Runner.Release
import Cfix.Cdiag.MessageDlls
import Cfix.Cdiag.ResolveMessage
import Cfix.Jpht.Enumerate
import Cfix.Cdiag.SessionRefs
import Cfix.Runner.CommandLine
import Cfix.Runner.Embedded
import Cfix.Cfixutil.Search
import Cfix.Cfixutil.Visits
import Cfix.Cfixutil.Nesting
import Cfix.Runner.Selection
import Cfix.Pe.CreateFixture
import Cfix.Pe.Violations
import Cfix.Pe.Loader
import Cfix.Pe.Selected
import Cfix.Jpht.Removal
import Cfix.Kernel.GetModules
import Cfix.Lib.Tiling
import Cfix.Kernel.SizeNegotiation
import Cfix.Kernel.DriverAdapter
import Cfix.Kernel.EntryNames
import Cfix.Pe.Mangling
import Cfix.Lib.Faults
import Cfix.Runner.ChildStates
import Cfix.Filament.CreateThread
import Cfix.Filament.ChildHandles
import Cfix.Kernel.DriverService
import Cfix.Lib.Definedness
import Cfix.Pe.MappedFile
import Cfix.Pe.QueryReads
import Cfix.Pe.ContainedImages
import Cfix.Jpht.BucketSize
import Cfix.Kernel.UniqueKeys
import Cfix.Filament.TestCode
import Cfix.Kernel.ReportSink
import Cfix.Kernel.SameCode
import Cfix.Fixture.Simulation
import Cfix.Kernel.SameRun
import Cfix.Runner.SameVerdict
import Cfix.Cfixutil.FileVisits
import Cfix.Runner.Plan
import Cfix.Kernel.CreateAdapter
import Cfix.Kernel.SameModule
import Cfix.Kernel.TwoLoaders
import Cfix.Cdiag.TextFile
import Cfix.Kernel.FilamentRegistry
import Cfix.Runner.CallbackOrder
import Cfix.Runner.ServedHosts
import Cfix.Runner.WholeRun
