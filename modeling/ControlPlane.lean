import ControlPlane.Bot.Dispatch
import ControlPlane.Bot.Panels
import ControlPlane.Ledger.Runs
import ControlPlane.Ledger.SingleTransaction
import ControlPlane.Library.PythonText
import ControlPlane.Worker
import ControlPlane.Delivery.Claims
import ControlPlane.Delivery.Runs
import ControlPlane.Decisions.Adjustments
import ControlPlane.Decisions.Branches
import ControlPlane.Gateway.Deliveries
import ControlPlane.Identity.InitData
import ControlPlane.Onboarding.Bootstrap
import ControlPlane.Delivery.Histories
import ControlPlane.Identity.Customers
import ControlPlane.WebApi.Subscribers
import ControlPlane.Delivery.Untroubled
import ControlPlane.Guards.CallerKey
import ControlPlane.WebApi.PlanAmounts
import ControlPlane.Ledger.Prices
import ControlPlane.Metering.Holds
import ControlPlane.Metering.Acceptance
import ControlPlane.Bot.Conversations
import ControlPlane.Bot.Credits
import ControlPlane.Audit.Runs
import ControlPlane.Observability.Exposure
import ControlPlane.Observability.Latency
import ControlPlane.Bot.Numbers
import ControlPlane.Identity.Appointments
import ControlPlane.Metering.Deltas
import ControlPlane.System.Root
import ControlPlane.System.FunnelSessions
import ControlPlane.System.BillingSessions
import ControlPlane.System.Suspensions
