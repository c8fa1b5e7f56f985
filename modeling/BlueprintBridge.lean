import BlueprintBridge.Session.Run
import BlueprintBridge.Event.Switchboard
import BlueprintBridge.Handle.Cabinet
import BlueprintBridge.Proofs.Backlog.News
import BlueprintBridge.Proofs.Backlog.Reconciliation
import BlueprintBridge.Proofs.Drain.CutShort
import BlueprintBridge.Proofs.Drain.Ending
import BlueprintBridge.Proofs.Drain.Gate
import BlueprintBridge.Proofs.Drain.Guard
import BlueprintBridge.Proofs.Drain.Totals
import BlueprintBridge.Proofs.Event.Capability
import BlueprintBridge.Proofs.Event.Snapshot
import BlueprintBridge.Proofs.Export.Lookup
import BlueprintBridge.Proofs.Export.StructCopy
import BlueprintBridge.Proofs.Graph.Ancestry
import BlueprintBridge.Proofs.Graph.Packages
import BlueprintBridge.Proofs.Graph.Reciprocity
import BlueprintBridge.Proofs.Graph.Reparenting
import BlueprintBridge.Proofs.Handle.Custody
import BlueprintBridge.Proofs.Handle.Tags
import BlueprintBridge.Proofs.Host.DefinitionOrder
import BlueprintBridge.Proofs.Host.Failure
import BlueprintBridge.Proofs.Host.Overruling
import BlueprintBridge.Proofs.Host.Retrial
import BlueprintBridge.Proofs.Loading.CallStack
import BlueprintBridge.Proofs.Session.Abandonment
import BlueprintBridge.Proofs.Session.Lanes
import BlueprintBridge.Proofs.Session.Listeners
import BlueprintBridge.Proofs.Session.LoadCycle
import BlueprintBridge.Proofs.Session.Unsubscription
import BlueprintBridge.Proofs.Session.Verdicts
import BlueprintBridge.Proofs.SlotTable.History
