import FlowRuns.Bytes.Hex
import FlowRuns.Json.Run
import FlowRuns.Proofs.Isolation
import FlowRuns.Proofs.RangeRead
import FlowRuns.Proofs.SingleRead
import FlowRuns.Reader
import FlowRuns.Proofs.Table.Newest
import FlowRuns.Proofs.DamagedValues
import FlowRuns.Proofs.FieldSelection
import FlowRuns.Proofs.SelectedRuns
import FlowRuns.Proofs.StoreAccess
import FlowRuns.Proofs.Table.Answers
import FlowRuns.Proofs.OtherFlows
import FlowRuns.Proofs.PutOrder
import FlowRuns.Proofs.Session
import FlowRuns.Proofs.HiddenColumns
import FlowRuns.Proofs.NewestFirst
import FlowRuns.Proofs.PickedMetrics
import FlowRuns.Proofs.CreationTime
import FlowRuns.Proofs.Json.Run
import FlowRuns.Proofs.PulledItems
import FlowRuns.Proofs.Requests
import FlowRuns.Proofs.MetricColumns
import FlowRuns.Proofs.NoiseCells
import FlowRuns.Proofs.Table.ColumnOrder
import FlowRuns.Proofs.Table.Groups
import FlowRuns.Proofs.Table.NameOrder
import FlowRuns.Proofs.Table.Sums
import FlowRuns.Proofs.LoadedSettings
import FlowRuns.Proofs.StoredNumbers
