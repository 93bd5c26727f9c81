import Walkoff.Library.Averages
import Walkoff.Library.Effect
import Walkoff.Library.EventStream
import Walkoff.Library.Glob
import Walkoff.Library.KeyedRows
import Walkoff.Library.Locality
import Walkoff.Library.Loop
import Walkoff.Library.OrderedDict
import Walkoff.Library.NestedDict
import Walkoff.Library.Relational
import Walkoff.Library.RoseTree
import Walkoff.Library.Sharing
import Walkoff.Library.StableSort
import Walkoff.Library.Transition
import Walkoff.Library.UniqueColumn
import Walkoff.Library.Views
import Walkoff.Model.Uuid
import Walkoff.Model.PyVal
import Walkoff.Model.Accumulator
import Walkoff.Model.Argument
import Walkoff.Model.AppApi
import Walkoff.Model.Workflow
import Walkoff.Model.Events
import Walkoff.Model.JsNumber
import Walkoff.Model.JsonText
import Walkoff.Model.PyEquality
import Walkoff.Model.PyFormat
import Walkoff.Model.PyRepr
import Walkoff.Model.World
import Walkoff.Model.ResultRows
import Walkoff.Model.Validator
import Walkoff.Program.ApiDefinitions
import Walkoff.Program.AppCache
import Walkoff.Program.ApiValidation
import Walkoff.Program.AppFunctions
import Walkoff.Program.ArgumentUpdates
import Walkoff.Program.CachedAccumulators
import Walkoff.Program.Conditions
import Walkoff.Program.ResultsSender
import Walkoff.Program.Elements
import Walkoff.Program.RequestCodec
import Walkoff.Program.ResultHandlers
import Walkoff.Program.Controller
import Walkoff.Program.SerialStrategy
import Walkoff.Program.WorkflowExecutor
import Walkoff.Program.Lifecycle
import Walkoff.Program.TriggersEndpoint
import Walkoff.Program.Continuations
import Walkoff.Program.Schemas
import Walkoff.Program.CopyWorkflow
import Walkoff.Program.Roles
import Walkoff.Program.Users
import Walkoff.Program.Devices
import Walkoff.Program.DeviceFields
import Walkoff.Program.DeviceEndpoints
import Walkoff.Program.Dispatchers
import Walkoff.Program.MetricTrackers
import Walkoff.Program.ResultsCodec
import Walkoff.Program.ResultReceivers
import Walkoff.Program.StatusHandlers
import Walkoff.Program.ExecutionPage
import Walkoff.Program.Interleavings
import Walkoff.Program.MessageLog
import Walkoff.Program.RemoteExecution
import Walkoff.Program.Messaging
import Walkoff.Program.SseStreams
import Walkoff.Program.MessageStore
import Walkoff.Program.Notifications
import Walkoff.Program.PlaybookEditor
import Walkoff.Program.PlaybookExport
import Walkoff.Program.Pool
import Walkoff.Program.QueueEndpoint
import Walkoff.Program.RuntimeInstances
import Walkoff.Program.Scheduler
import Walkoff.Program.SchemaLoading
import Walkoff.Program.Tokens
import Walkoff.Program.Sessions
import Walkoff.Program.Startup
import Walkoff.Program.SteppedRuns
import Walkoff.Program.TaskUpdates
import Walkoff.Program.WorkerFleet
import Walkoff.Program.WorkflowObjects
import Walkoff.Program.WorkflowRequests
import Walkoff.Analysis.Frames
import Walkoff.Analysis.ControllerSteps
import Walkoff.Analysis.ParameterLaw
import Walkoff.Analysis.Samples
import Walkoff.Analysis.Signals
import Walkoff.Analysis.ActionOutcomes
import Walkoff.Analysis.ActionCalls
import Walkoff.Analysis.Receivers
import Walkoff.Analysis.TurnCases
import Walkoff.Analysis.RunFrames
import Walkoff.Analysis.LastTurn
import Walkoff.Analysis.Requests
import Walkoff.Analysis.RunEnds
import Walkoff.Analysis.LifecycleInvariant
import Walkoff.Analysis.SavedStates
import Walkoff.Analysis.AbortedTurns
import Walkoff.Analysis.AcceptedApis
import Walkoff.Analysis.AccumulatorIsolation
import Walkoff.Analysis.JsonRoundTrip
import Walkoff.Analysis.BranchSearch
import Walkoff.Analysis.OutcomeEvents
import Walkoff.Analysis.StepRules
import Walkoff.Analysis.AccumulatorTypes
import Walkoff.Analysis.AnsweredMessages
import Walkoff.Analysis.AppLookups
import Walkoff.Analysis.CurrentValidity
import Walkoff.Analysis.ErrorCoverage
import Walkoff.Analysis.AttestedErrors
import Walkoff.Analysis.TriggerAuthorization
import Walkoff.Analysis.ContinuationSteps
import Walkoff.Analysis.SpecReadings
import Walkoff.Analysis.ConverterOutcomes
import Walkoff.Analysis.ConversionTotality
import Walkoff.Analysis.CopyRules
import Walkoff.Analysis.DataFlow
import Walkoff.Analysis.DefinitionChecks
import Walkoff.Analysis.DeviceConformance
import Walkoff.Analysis.DeviceFieldLaw
import Walkoff.Analysis.DevicePatches
import Walkoff.Analysis.ReprReadings
import Walkoff.Analysis.SelectionSafety
import Walkoff.Analysis.StoredDeviceValues
import Walkoff.Analysis.DeviceSecrets
import Walkoff.Analysis.JsNumberTexts
import Walkoff.Analysis.EditedSelections
import Walkoff.Analysis.EventRoundTrip
import Walkoff.Analysis.ExactDispatch
import Walkoff.Analysis.ExecutionIsolation
import Walkoff.Analysis.ExportedPlaybooks
import Walkoff.Analysis.ExpressionSemantics
import Walkoff.Analysis.SteppedInvariant
import Walkoff.Analysis.FinalAborts
import Walkoff.Analysis.InstanceLifetimes
import Walkoff.Analysis.ScheduledJobs
import Walkoff.Analysis.InstanceRecords
import Walkoff.Analysis.KeptVerdicts
import Walkoff.Analysis.MessageDelivery
import Walkoff.Analysis.MessageAudience
import Walkoff.Analysis.MessageHistories
import Walkoff.Analysis.MetricAverages
import Walkoff.Analysis.MirroredStatuses
import Walkoff.Analysis.OneContinuation
import Walkoff.Analysis.TokenRevocation
import Walkoff.Analysis.OpenSessions
import Walkoff.Analysis.Privileges
import Walkoff.Analysis.ReceiverOrder
import Walkoff.Analysis.ReadableRows
import Walkoff.Analysis.RecentNotifications
import Walkoff.Analysis.RegistryLeaks
import Walkoff.Analysis.ReloadedWorkflows
import Walkoff.Analysis.RemoteRefinement
import Walkoff.Analysis.RequestDelivery
import Walkoff.Analysis.RequestRoundTrip
import Walkoff.Analysis.RolePermissions
import Walkoff.Analysis.SchedulerLookups
import Walkoff.Analysis.SerialReference
import Walkoff.Analysis.SerialTrace
import Walkoff.Analysis.ServerTables
import Walkoff.Analysis.UnbrokenTexts
import Walkoff.Analysis.StreamFraming
import Walkoff.Analysis.TaskUpdates
import Walkoff.Analysis.TaskReschedules
import Walkoff.Analysis.TriggerGating
import Walkoff.Analysis.UpdatedArguments
import Walkoff.Analysis.ValidityRuns
import Walkoff.Analysis.WorkflowCopies
