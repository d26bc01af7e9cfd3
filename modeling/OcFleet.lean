import OcFleet.Agent.AuthorizationExactness
import OcFleet.Agent.AuditDurability
import OcFleet.Agent.AuditBytes
import OcFleet.Controller.SchedulerIsolation
import OcFleet.Controller.ExecutedPersistence
import OcFleet.Controller.EnrollmentAccounting
import OcFleet.Controller.AlertWorkerRules
import OcFleet.Controller.ChangeApprovals
import OcFleet.Controller.AuditExport
import OcFleet.Agent.NonceHistory
import OcFleet.Agent.PathProbe
import OcFleet.Agent.ResponseWriting
import OcFleet.Controller.RotationLineage
import OcFleet.Api.Authentication
import OcFleet.Api.Pagination
import OcFleet.Controller.SignedMessages
import OcFleet.Controller.HealthSlo
import OcFleet.Controller.RetentionCutoff
import OcFleet.Controller.RetentionReplay
import OcFleet.Controller.RunSummaries
import OcFleet.Controller.ObservationAlerts
import OcFleet.Controller.TaskPermits
import OcFleet.Agent.AuditLimiter
import OcFleet.Controller.ObservationBounds
import OcFleet.Controller.HealthRaces
