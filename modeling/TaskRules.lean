import TaskRules.Fault.Described
import TaskRules.Main
import TaskRules.Migration.Report
import TaskRules.Signature.Interface
import TaskRules.Signature.Records
import TaskRules.Store.Views
import TaskRules.Proofs.ConditionSpellings
import TaskRules.Proofs.MissingData
import TaskRules.Proofs.ConditionLaws
import TaskRules.Proofs.ConcurrentCreation
import TaskRules.Proofs.EventIndependence
import TaskRules.Proofs.Redelivery
import TaskRules.Proofs.ConfigurationErrors
import TaskRules.Proofs.ReferentialIntegrity
import TaskRules.Proofs.Repetition
import TaskRules.Proofs.Pages
import TaskRules.Proofs.StartUp
import TaskRules.Proofs.WholeNumbers
import TaskRules.Proofs.StrictEquality
import TaskRules.Proofs.ConditionSources
import TaskRules.Proofs.OneDatabase
import TaskRules.Proofs.EditOrder
import TaskRules.Proofs.CreationProgress
import TaskRules.Proofs.PageWindows
import TaskRules.Proofs.Notifications
import TaskRules.Proofs.RunAnswers
import TaskRules.Proofs.TimedDispatches
import TaskRules.Proofs.WorkerShutdown
import TaskRules.Proofs.Audiences
import TaskRules.Proofs.DueDates
