import SipContainer.Config.Load
import SipContainer.Simulation.GateTrial
import SipContainer.Simulation.Report
import SipContainer.Simulation.PoolTrial
import SipContainer.Proofs.Dispatch.Transition
import SipContainer.Proofs.Dispatch.Run
import SipContainer.Proofs.Dispatch.Line
import SipContainer.Proofs.Dispatch.Invariant
import SipContainer.Proofs.Dispatch.Turn
import SipContainer.Proofs.Dispatch.Serialization
import SipContainer.Proofs.Dispatch.DeliveryOrder
import SipContainer.Proofs.Dispatch.Absence
import SipContainer.Proofs.Dispatch.GateTimeout
import SipContainer.Proofs.Dispatch.Bookkeeping
import SipContainer.Proofs.Dispatch.Attendance
import SipContainer.Proofs.Session.Ownership
import SipContainer.Proofs.Routing.RecordRoute
import SipContainer.Proofs.Dispatch.Accounting
import SipContainer.Proofs.Routing.TagCodec
import SipContainer.Proofs.Session.Belongings
import SipContainer.Proofs.Dispatch.Subscriptions
import SipContainer.Proofs.Concurrency.Permits
import SipContainer.Proofs.Dispatch.Staffing
import SipContainer.Proofs.Dispatch.Progress
import SipContainer.Proofs.Session.Instances
import SipContainer.Proofs.Session.History
import SipContainer.Proofs.Session.RollCall
import SipContainer.Proofs.Message.RoundTrip
import SipContainer.Proofs.Routing.Polarity
import SipContainer.Proofs.Message.Derivation
import SipContainer.Proofs.Session.KeyText
import SipContainer.Proofs.Application.Deployment
import SipContainer.Proofs.Concurrency.Accounts
import SipContainer.Proofs.Concurrency.Trial
import SipContainer.Proofs.Session.KeyEntrances
import SipContainer.Proofs.Routing.Correlation
import SipContainer.Proofs.Session.DialogKeys
import SipContainer.Proofs.Dispatch.Branches
import SipContainer.Proofs.Dispatch.FanOut
import SipContainer.Proofs.Session.Sequencing
import SipContainer.Proofs.Message.HeaderForm
import SipContainer.Proofs.Message.HeaderLanguage
import SipContainer.Proofs.Message.HeaderMeaning
import SipContainer.Proofs.Routing.Target
import SipContainer.Proofs.Session.Ongoing
import SipContainer.Proofs.Config.Vetting
import SipContainer.Proofs.Dispatch.KeyFaults
import SipContainer.Proofs.Dispatch.Acknowledgement
import SipContainer.Proofs.Config.TimeLimit
import SipContainer.Proofs.Message.MethodName
import SipContainer.Proofs.Message.Front
