import H2Fleet.Audit.Tamper
import H2Fleet.Edge.Checkpoint
import H2Fleet.Edge.Order
import H2Fleet.Edge.Recovery
import H2Fleet.Ingest.Pipeline
import H2Fleet.Ledger.Simulated
import H2Fleet.Consumers.Redelivery
import H2Fleet.Consumers.CarbonFund
import H2Fleet.Carbon.Period
import H2Fleet.Commerce.FareCap
import H2Fleet.Commerce.Refunds
import H2Fleet.Commerce.Retry
import H2Fleet.Commerce.EveryRun
import H2Fleet.Commerce.Allocation
import H2Fleet.Commerce.TransferKeys
import H2Fleet.Commerce.TradeSaga
import H2Fleet.Commerce.InvoicePeriods
import H2Fleet.Commerce.PayerCharges
import H2Fleet.Mojaloop.RetryBudget
import H2Fleet.Mojaloop.AbortedTransfers
import H2Fleet.Mojaloop.Reruns
import H2Fleet.Mojaloop.Packets
import H2Fleet.Infra.StationInventory
import H2Fleet.Infra.DispatchWindows
import H2Fleet.Infra.CharterReplay
import H2Fleet.Infra.IncidentLifecycle
import H2Fleet.Infra.DispatchWorkflow
import H2Fleet.Infra.WebhookDelivery
import H2Fleet.Infra.WebhookThreshold
import H2Fleet.Infra.WorkOrders
import H2Fleet.Infra.Evidence
import H2Fleet.Infra.LeakReadings
import H2Fleet.Admin.Velocity
import H2Fleet.Admin.Decisions
import H2Fleet.Auth.Jwks
import H2Fleet.Citizen.DrtLifecycle
import H2Fleet.Citizen.DrtVehicles
import H2Fleet.Citizen.ErasureTraces
import H2Fleet.Toggles.Service
import H2Fleet.ToggleClient.Invalidation
import H2Fleet.Admin.Lockout
import H2Fleet.Auth.Permify
import H2Fleet.Twin.Status
import H2Fleet.Twin.Index
import H2Fleet.Ml.Continuous
import H2Fleet.Ml.FuelConsumption
import H2Fleet.Audit.Middleware
import H2Fleet.Commerce.RedemptionKeys
import H2Fleet.Commerce.RevenueDaily
import H2Fleet.Commerce.Advertising
import H2Fleet.Infra.ChargingSessions
import H2Fleet.Citizen.Timetable
import H2Fleet.Routing.Refuels
