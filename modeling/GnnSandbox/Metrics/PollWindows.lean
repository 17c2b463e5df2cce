import Mathlib.Data.NNRat.Floor
import Mathlib.Algebra.Order.Ring.Cast
import GnnSandbox.Lib.Tiling

/-!
# The windows of the metrics collector

Each iteration of the collector's loop asks for the samples of a window that ends two seconds before
its clock and is as long as the loop sleeps. The time that the iteration itself takes lies between
two windows, and the time of the last poll, which is kept, is not used.
-/

namespace GnnSandbox.Metrics

/-! ## Requests -/

inductive MetricKind where
  | gauge
  | cumulative
  | delta
deriving DecidableEq

/-- A metric descriptor of Cloud Monitoring, with the keys of its labels. -/
structure Descriptor where
  type : String
  metricKind : MetricKind
  labels : List String

inductive Aligner where
  | rate
  | mean
  | nextOlder
deriving DecidableEq

structure Aggregation where
  alignmentPeriod : ℕ
  perSeriesAligner : Aligner

/-- In whole seconds. -/
structure TimeInterval where
  startTime : ℤ
  endTime : ℤ
deriving DecidableEq

/-- A call of `list_time_series`, with the instant at which the clock was read for it. -/
structure Request where
  readAt : ℚ≥0
  filter : String
  interval : TimeInterval
  aggregation : Aggregation

def getMetricAggregation (d : Descriptor) (windowSeconds : ℕ) : Aggregation :=
  { alignmentPeriod := windowSeconds
    perSeriesAligner :=
      match d.metricKind with
      | .cumulative => .rate
      | .gauge => .mean
      | .delta => .nextOlder }

/-- `offset` -/
def offset : ℤ := 2

/-- The window that ends `offset` seconds before `now`. -/
def window (pollInterval : ℕ) (now : ℚ≥0) : TimeInterval :=
  let nowTs := (⌊now⌋₊ : ℤ) - offset
  { startTime := nowTs - pollInterval, endTime := nowTs }

def metricFilter (type : String) : String := "metric.type = \"" ++ type ++ "\""

/-- `getDescriptor` is what the cache, which another thread refreshes, holds when it is asked. -/
def fetchMetrics (pollInterval : ℕ) (getDescriptor : String → Option Descriptor) (now : ℚ≥0)
    (metricList : List String) (labelGateKey : Option String) : List Request :=
  metricList.filterMap fun metricType =>
    match getDescriptor metricType with
    | none => none
    | some descriptor =>
      if labelGateKey.all fun key => descriptor.labels.contains key then
        some
          { readAt := now
            filter := metricFilter descriptor.type
            interval := window pollInterval now
            aggregation := getMetricAggregation descriptor pollInterval }
      else none

def selectedMetrics : List String := [
    "prometheus.googleapis.com/node_load1/gauge",
    "prometheus.googleapis.com/node_memory_SwapFree_bytes/gauge",
    "prometheus.googleapis.com/node_memory_MemTotal_bytes/gauge",
    "prometheus.googleapis.com/node_memory_MemAvailable_bytes/gauge",
    "prometheus.googleapis.com/node_network_up/gauge",
    "prometheus.googleapis.com/node_network_carrier/gauge",
    "prometheus.googleapis.com/node_network_mtu_bytes/gauge",
    "prometheus.googleapis.com/node_network_carrier_changes_total/counter",
    "prometheus.googleapis.com/node_network_receive_bytes_total/counter",
    "prometheus.googleapis.com/node_network_receive_drop_total/counter",
    "prometheus.googleapis.com/node_network_receive_errs_total/counter",
    "prometheus.googleapis.com/node_network_receive_packets_total/counter",
    "prometheus.googleapis.com/node_network_transmit_bytes_total/counter",
    "prometheus.googleapis.com/node_network_transmit_drop_total/counter",
    "prometheus.googleapis.com/node_network_transmit_errs_total/counter",
    "prometheus.googleapis.com/node_network_transmit_packets_total/counter",
    "prometheus.googleapis.com/node_network_transmit_queue_length/gauge",
    "prometheus.googleapis.com/frr_bfd_peer_count/gauge",
    "prometheus.googleapis.com/frr_collector_up/gauge",
    "prometheus.googleapis.com/frr_ospf_neighbor_adjacencies/gauge",
    "prometheus.googleapis.com/frr_ospf_neighbors/gauge",
    "prometheus.googleapis.com/frr_bgp_peer_prefixes_advertised_count_total/gauge",
    "prometheus.googleapis.com/frr_bgp_peer_uptime_seconds/gauge",
    "prometheus.googleapis.com/frr_route_total/gauge",
    "prometheus.googleapis.com/frr_route_total_fib/gauge",
    "prometheus.googleapis.com/process_open_fds/gauge",
    "prometheus.googleapis.com/process_network_receive_bytes_total/counter",
    "prometheus.googleapis.com/process_network_transmit_bytes_total/counter"]

def trafficAgentMetrics : List String := [
    "prometheus.googleapis.com/traffic_agent_throughput_bps/gauge",
    "prometheus.googleapis.com/traffic_agent_throughput_sent_bps/gauge",
    "prometheus.googleapis.com/traffic_agent_throughput_recv_bps/gauge",
    "prometheus.googleapis.com/traffic_agent_bytes_sent_total/counter",
    "prometheus.googleapis.com/traffic_agent_bytes_received_total/counter",
    "prometheus.googleapis.com/traffic_agent_latency_ms/gauge",
    "prometheus.googleapis.com/traffic_agent_jitter_ms/gauge",
    "prometheus.googleapis.com/traffic_agent_packet_loss_pct/gauge",
    "prometheus.googleapis.com/traffic_agent_active_sessions/gauge",
    "prometheus.googleapis.com/traffic_agent_flow_running/gauge"]

def fetchAllVyosMetrics (pollInterval : ℕ) (getDescriptor : String → Option Descriptor)
    (now : ℚ≥0) (_startTime : ℚ) : List Request :=
  fetchMetrics pollInterval getDescriptor now selectedMetrics (some "router_name")

def fetchTrafficAgentMetrics (pollInterval : ℕ) (getDescriptor : String → Option Descriptor)
    (now : ℚ≥0) : List Request :=
  fetchMetrics pollInterval getDescriptor now trafficAgentMetrics (some "flow_id")

/-! ## The loop -/

/-- How long the parts of an iteration take, and the descriptors it finds. -/
structure Iteration where
  /-- until the clock is read for the metrics of the routers -/
  beforeVyos : ℚ≥0
  /-- from there until it is read for those of the traffic agents -/
  beforeTraffic : ℚ≥0
  /-- the remaining calls, the rows and the writes -/
  rest : ℚ≥0
  getDescriptor : String → Option Descriptor

/-- The requests of `run_worker` from an iteration on that starts at `now`. -/
def runWorker (pollInterval : ℕ) : ℚ≥0 → ℚ → List Iteration → List Request
  | _, _, [] => []
  | now, lastPollTime, it :: its =>
    fetchAllVyosMetrics pollInterval it.getDescriptor (now + it.beforeVyos) lastPollTime ++
      (fetchTrafficAgentMetrics pollInterval it.getDescriptor
          (now + it.beforeVyos + it.beforeTraffic) ++
        runWorker pollInterval
          (now + it.beforeVyos + it.beforeTraffic + it.rest + pollInterval) now its)

/-- The requests of a worker that is started at `now`, for one metric. -/
def requests (pollInterval : ℕ) (now : ℚ≥0) (its : List Iteration) (metric : String) :
    List Request :=
  (runWorker pollInterval now (now - pollInterval) its).filter fun r =>
    r.filter = metricFilter metric

/-! ## Windows and readings of the clock -/

section Worker

variable {pollInterval : ℕ} {getDescriptor : String → Option Descriptor} {now : ℚ≥0}
  {lastPollTime : ℚ} {its : List Iteration} {metric : String} {r : Request}

theorem fetchMetrics_spec {metricList : List String} {key : Option String}
    (h : r ∈ fetchMetrics pollInterval getDescriptor now metricList key) :
    r.readAt = now ∧ r.interval = window pollInterval now := by
  obtain ⟨metricType, -, hr⟩ := List.mem_filterMap.mp h
  split at hr
  · cases hr
  · split at hr
    · cases hr
      exact ⟨rfl, rfl⟩
    · cases hr

/-- The requests of an iteration, and those of the later ones. -/
theorem mem_runWorker_cons {it : Iteration}
    (h : r ∈ runWorker pollInterval now lastPollTime (it :: its)) :
    (r.readAt = now + it.beforeVyos ∧ r.interval = window pollInterval r.readAt) ∨
    (r.readAt = now + it.beforeVyos + it.beforeTraffic ∧
      r.interval = window pollInterval r.readAt) ∨
    r ∈ runWorker pollInterval (now + it.beforeVyos + it.beforeTraffic + it.rest + pollInterval)
      now its := by
  rw [runWorker] at h
  rcases List.mem_append.mp h with h | h
  · obtain ⟨hread, hinterval⟩ := fetchMetrics_spec h
    exact .inl ⟨hread, hread ▸ hinterval⟩
  · rcases List.mem_append.mp h with h | h
    · obtain ⟨hread, hinterval⟩ := fetchMetrics_spec h
      exact .inr (.inl ⟨hread, hread ▸ hinterval⟩)
    · exact .inr (.inr h)

theorem interval_of_mem (h : r ∈ runWorker pollInterval now lastPollTime its) :
    r.interval = window pollInterval r.readAt := by
  induction its generalizing now lastPollTime with
  | nil => cases h
  | cons it its ih =>
    rcases mem_runWorker_cons h with ⟨-, h⟩ | ⟨-, h⟩ | h
    · exact h
    · exact h
    · exact ih h

theorem le_readAt (h : r ∈ runWorker pollInterval now lastPollTime its) : now ≤ r.readAt := by
  induction its generalizing now lastPollTime with
  | nil => cases h
  | cons it its ih =>
    rcases mem_runWorker_cons h with ⟨h, -⟩ | ⟨h, -⟩ | h
    · rw [h]
      exact le_self_add
    · rw [h, add_assoc]
      exact le_self_add
    · have hstart : now ≤ now + it.beforeVyos + it.beforeTraffic :=
        le_self_add.trans le_self_add
      exact hstart.trans ((le_self_add.trans le_self_add).trans (ih h))

/-- **The clock moves forward** from request to request. -/
theorem runWorker_sorted :
    (runWorker pollInterval now lastPollTime its).Pairwise fun r r' => r.readAt ≤ r'.readAt := by
  have hsame : ∀ {key metricList} {now : ℚ≥0} {getDescriptor : String → Option Descriptor},
      (fetchMetrics pollInterval getDescriptor now metricList key).Pairwise
        fun r r' => r.readAt ≤ r'.readAt := by
    intro key metricList now getDescriptor
    refine List.pairwise_of_forall_mem_list fun r hr r' hr' => ?_
    rw [(fetchMetrics_spec hr).1, (fetchMetrics_spec hr').1]
  induction its generalizing now lastPollTime with
  | nil => exact List.Pairwise.nil
  | cons it its ih =>
    rw [runWorker]
    refine List.pairwise_append.mpr ⟨hsame, List.pairwise_append.mpr ⟨hsame, ih, ?_⟩, ?_⟩
    · intro r hr r' hr'
      rw [(fetchMetrics_spec hr).1]
      exact (le_self_add.trans le_self_add).trans (le_readAt hr')
    · intro r hr r' hr'
      rw [(fetchMetrics_spec hr).1]
      rcases List.mem_append.mp hr' with hr' | hr'
      · rw [(fetchMetrics_spec hr').1]
        exact le_self_add
      · exact (le_self_add.trans (le_self_add.trans le_self_add)).trans (le_readAt hr')

end Worker

/-! ## Gaps -/

/-- The windows leave no instant out between any two of them, and no sample is in two of them but
at their ends. -/
def Gapless (requests : List Request) : Prop :=
  Lib.Tiles (fun r : Request => (r.interval.startTime : ℚ)) (fun r => (r.interval.endTime : ℚ))
    requests

/-- Requests in the order of their readings, each with the window of its reading. -/
theorem gapless_iff_of_sorted {pollInterval : ℕ} {requests : List Request}
    (hwindow : ∀ r ∈ requests, r.interval = window pollInterval r.readAt)
    (hsorted : requests.Pairwise fun r r' => r.readAt ≤ r'.readAt) :
    Gapless requests ↔ requests.IsChain fun r r' => ⌊r'.readAt⌋₊ = ⌊r.readAt⌋₊ + pollInterval := by
  have hfloor : requests.Pairwise fun r r' => ⌊r.readAt⌋₊ ≤ ⌊r'.readAt⌋₊ :=
    hsorted.imp fun h => Nat.floor_mono h
  have hmem := List.Pairwise.and_mem.mp hfloor
  have hforward : Lib.Forward (fun r : Request => (r.interval.startTime : ℚ))
      (fun r => (r.interval.endTime : ℚ)) requests :=
    { le := fun r hr => by
        rw [hwindow r hr]
        exact Int.cast_le.mpr (by dsimp only [window]; omega)
      starts := hmem.imp fun h => by
        obtain ⟨hr, hr', hle⟩ := h
        rw [hwindow _ hr, hwindow _ hr']
        exact Int.cast_le.mpr (by dsimp only [window]; omega)
      stops := hmem.imp fun h => by
        obtain ⟨hr, hr', hle⟩ := h
        rw [hwindow _ hr, hwindow _ hr']
        exact Int.cast_le.mpr (by dsimp only [window]; omega) }
  refine (Lib.tiles_iff hforward).trans (List.IsChain.iff_of_mem_imp fun r r' hr hr' => ?_)
  rw [hwindow r hr, hwindow r' hr', Int.cast_inj]
  dsimp only [window]
  omega

/-- **Metric polling has no gaps** exactly as long as consecutive requests for the metric read whole
seconds that are just one poll interval apart. -/
theorem gapless_requests_iff (pollInterval : ℕ) (now : ℚ≥0) (its : List Iteration)
    (metric : String) : Gapless (requests pollInterval now its metric) ↔
    (requests pollInterval now its metric).IsChain fun r r' =>
      ⌊r'.readAt⌋₊ = ⌊r.readAt⌋₊ + pollInterval :=
  gapless_iff_of_sorted (fun _ hr => interval_of_mem (List.mem_of_mem_filter hr))
    (runWorker_sorted.filter _)

def collectorUp : String := "prometheus.googleapis.com/frr_collector_up/gauge"

/-- An iteration that finds one descriptor and takes a second. -/
def oneSecond : Iteration :=
  { beforeVyos := 0
    beforeTraffic := 0
    rest := 1
    getDescriptor := fun metricType =>
      if metricType = collectorUp then some ⟨collectorUp, .gauge, ["router_name"]⟩ else none }

theorem oneSecond_readings (pollInterval : ℕ) (now : ℚ≥0) :
    (requests pollInterval now [oneSecond, oneSecond] collectorUp).map Request.readAt =
      [now + 0, now + 0 + 0 + 1 + (pollInterval : ℚ≥0) + 0] := rfl

/-- With the default interval, the second that an iteration takes is in no window. -/
theorem second_lost : ¬ ∀ (pollInterval : ℕ) (now : ℚ≥0) (its : List Iteration) (metric : String),
    Gapless (requests pollInterval now its metric) := by
  intro h
  have hgapless := h 20 1000 [oneSecond, oneSecond] collectorUp
  have hchain : (requests 20 1000 [oneSecond, oneSecond] collectorUp).IsChain fun r r' =>
      ⌊r'.readAt⌋₊ = ⌊r.readAt⌋₊ + 20 :=
    (gapless_iff_of_sorted (fun _ hr => interval_of_mem (List.mem_of_mem_filter hr))
      (runWorker_sorted.filter _)).mp hgapless
  have hfloors := (@List.isChain_map _ _ (fun t t' : ℚ≥0 => ⌊t'⌋₊ = ⌊t⌋₊ + 20) Request.readAt _).mpr hchain
  rw [oneSecond_readings] at hfloors
  have hfirst : ⌊(1000 + 0 : ℚ≥0)⌋₊ = 1000 := by norm_num
  have hsecond : ⌊(1000 + 0 + 0 + 1 + ((20 : ℕ) : ℚ≥0) + 0)⌋₊ = 1021 := by norm_num
  have hstep := (List.isChain_cons_cons.mp hfloors).1
  omega

end GnnSandbox.Metrics
