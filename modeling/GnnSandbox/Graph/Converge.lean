import GnnSandbox.Graph.Outcome
import GnnSandbox.Graph.Written
import Mathlib.Data.Nat.Find
import Mathlib.Order.Monotone.Basic

/-!
# Two writers of one subnet

The infrastructure and the bridge controller both write the subnet of a network. The
rows of the first have no operational state, those of the second none of the network's
properties, so no row ever holds what both computed. As each takes the other's row for
a changed one, they write a new version at every alternation.
-/

namespace GnnSandbox.Graph

open Scd Effect

/-! ## What each writer computes -/

/-- The columns of the infrastructure writer. -/
def InfrastructureColumns (net : Network) (x : LogicalSubnet) : Prop :=
  x.cidr = (Infrastructure.subnetRow net).cidr ∧
    x.networkType = (Infrastructure.subnetRow net).networkType ∧
    x.description = (Infrastructure.subnetRow net).description ∧
    x.properties = (Infrastructure.subnetRow net).properties

/-- The columns of the bridge writer. -/
def BridgeColumns (env : Env) (name : ResourceName) (spec : BridgeSpec) (status : BridgeStatus)
    (x : LogicalSubnet) : Prop :=
  x.operationalState = (Bridge.subnetRow env name spec status).operationalState ∧
    x.mtu = (Bridge.subnetRow env name spec status).mtu ∧
    x.macAddress = (Bridge.subnetRow env name spec status).macAddress ∧
    x.bridgeIp = (Bridge.subnetRow env name spec status).bridgeIp ∧
    x.hostDeviceName = (Bridge.subnetRow env name spec status).hostDeviceName

/-- No row that a controller writes holds the columns of both. -/
theorem not_both_columns {env : Env} {net : Network} {name : ResourceName} {spec : BridgeSpec}
    {status : BridgeStatus} {x : LogicalSubnet} (hx : Written env .logicalSubnet x) :
    ¬(InfrastructureColumns net x ∧ BridgeColumns env name spec status x) := by
  rintro ⟨⟨-, -, -, hprops⟩, hstate, -⟩
  rcases hx with ⟨net', rfl⟩ | ⟨addrCidr, iface, rfl⟩ | ⟨name', spec', status', rfl⟩
  · cases hstate
  · cases hstate
  · exact net.dict_ne_properties spec' (Option.some.inj hprops).symm

/-! ## The row each writer leaves -/

/-- A row with the properties of some network. -/
def OfNetwork (x : LogicalSubnet) : Prop := ∃ net : Network, x.properties = some net.dict

/-- A row with the properties of some bridge. -/
def OfBridge (x : LogicalSubnet) : Prop := ∃ spec, x.properties = some (Bridge.properties spec)

section Writers

variable {env : Env} {w : World}

/-- A network writes its own subnet only. -/
theorem syncNetwork_active_of_ne {net : Network} {k : Key}
    (hk : .id (Infrastructure.subnetId net) ≠ k) :
    (after (Infrastructure.syncNetwork env net) w).db.active .logicalSubnet k =
      w.db.active .logicalSubnet k :=
  Calls.active_eq (Infrastructure.respects_syncNetwork w) fun _ _ x hx => by
    cases hx
    exact hk

/-- The link of a network leaves its subnet alone. -/
theorem syncNetwork_subnet (env : Env) (w : World) (net : Network) :
    (after (Infrastructure.syncNetwork env net) w).db .logicalSubnet =
      (after (runInTransaction env (Infrastructure.sqlUpsertSubnet net)) w).db .logicalSubnet := by
  unfold Infrastructure.syncNetwork
  rw [after_bind, after_attempt]
  split
  · exact Calls.table_eq (Infrastructure.respects_syncLink _) fun _ _ _ hx => hx
  · rfl

theorem syncNetwork_ofNetwork (hok : env.Reliable) (hw : WellFormed env w) (net : Network) :
    Holds (after (Infrastructure.syncNetwork env net) w) .logicalSubnet
      (.id (Infrastructure.subnetId net)) OfNetwork := by
  have h := runInTransaction_upsert_holds .logicalSubnet (Infrastructure.subnetRow net)
    (fun row => decide (LogicalSubnet.properties row = some net.dict)) (hok w.calls) (hw.one _ _)
  refine (h.imp fun x hx => ?_).congr ?_
  · rcases hx with rfl | hx
    · exact ⟨net, rfl⟩
    · exact ⟨net, of_decide_eq_true hx⟩
  · rw [Database.active, Database.active, syncNetwork_subnet]
    rfl

/-- After a sync of the infrastructure the subnet of each of its networks is its own. -/
theorem syncNetworks_ofNetwork (hok : env.Reliable) {k : Key} {nets : List Network}
    (hk : ∃ net ∈ nets, .id (Infrastructure.subnetId net) = k) (hw : WellFormed env w) :
    Holds (after (forM nets (Infrastructure.syncNetwork env)) w) .logicalSubnet k OfNetwork := by
  have hstep : ∀ net, Effect.Triple (fun w => WellFormed env w)
      (Infrastructure.syncNetwork env net) fun _ w => WellFormed env w ∧
        Holds w .logicalSubnet (.id (Infrastructure.subnetId net)) OfNetwork := fun net w hw =>
    ⟨hw.respects Infrastructure.respects_syncNetwork, syncNetwork_ofNetwork hok hw net⟩
  obtain ⟨net, hnet, rfl⟩ := hk
  obtain ⟨l₁, l₂, rfl⟩ := List.append_of_mem hnet
  rw [after_forM_append, after_forM_cons]
  have h₁ : WellFormed env (after (forM l₁ (Infrastructure.syncNetwork env)) w) :=
    Triple.loop (fun net _ w hw => (hstep net w hw).1) w hw
  -- later networks either leave the subnet alone or write it anew
  refine (Triple.loop (I := fun w => WellFormed env w ∧ Holds w .logicalSubnet
    (.id (Infrastructure.subnetId net)) OfNetwork) (fun net' _ w hw => ?_) _ (hstep net _ h₁)).2
  refine ⟨(hstep net' w hw.1).1, ?_⟩
  by_cases hk : Key.id (Infrastructure.subnetId net') = .id (Infrastructure.subnetId net)
  · exact hk ▸ (hstep net' w hw.1).2
  · exact hw.2.congr (syncNetwork_active_of_ne hk)

/-- The veth pairs of a bridge leave its subnet alone. -/
theorem syncBridge_subnet (env : Env) (w : World) (name : ResourceName) (spec : BridgeSpec)
    (status : BridgeStatus) :
    (after (syncHostNetworkBridge env name spec status) w).db .logicalSubnet =
      (after (runInTransaction env (Bridge.sqlUpsertSubnet env name spec status)) w).db
        .logicalSubnet := by
  unfold syncHostNetworkBridge
  rw [after_bind]
  split
  · exact Calls.table_eq (Bridge.respects_syncVethPairs _ _ _) fun _ _ _ hx => hx
  · rfl

variable {name : ResourceName} {spec : BridgeSpec} {status : BridgeStatus}

theorem properties_of_subnetUnchanged {x : LogicalSubnet}
    (h : Bridge.subnetUnchanged env name spec status x = true) :
    x.properties = some (Bridge.properties spec) := by
  simp only [Bridge.subnetUnchanged, Bool.decide_and, Bool.and_eq_true, decide_eq_true_eq] at h
  exact Bridge.existingProps_eq_iff.mp h.2.2.2.2.2

/-- A sync of the bridge replaces what the infrastructure wrote. -/
theorem syncBridge_versions (hok : env.Reliable) (hw : WellFormed env w)
    (hn : Holds w .logicalSubnet (.id (Bridge.subnetId name spec)) OfNetwork) :
    versions Row.key (.id (Bridge.subnetId name spec)) (w.db .logicalSubnet) <
      versions Row.key (.id (Bridge.subnetId name spec))
        ((after (syncHostNetworkBridge env name spec status) w).db .logicalSubnet) := by
  obtain ⟨v, hv, net, hnet⟩ := hn
  rw [syncBridge_subnet]
  rcases (runInTransaction_upsert .logicalSubnet (Bridge.subnetRow env name spec status)
    (Bridge.subnetUnchanged env name spec status) (hok w.calls) (hw.one _ _)).2 with
    ⟨u, hu, hsame, -⟩ | ⟨-, hafter⟩
  · cases hu.symm.trans hv
    have hprops := properties_of_subnetUnchanged hsame
    rw [hnet] at hprops
    exact absurd (Option.some.inj hprops) (net.dict_ne_properties spec)
  · rw [Bridge.sqlUpsertSubnet, hafter]
    exact Nat.lt_of_lt_of_eq (Nat.lt_succ_self _)
      (versions_renew_self .logicalSubnet (Bridge.subnetRow env name spec status) env w).symm

end Writers

/-! ## Interleavings -/

section Interleavings

/-- The world after `i` operations, `a` where `s` is true and `b` where it is false. -/
def interleave (env : Env) (a b : Op) (w : World) (s : ℕ → Bool) : ℕ → World
  | 0 => w
  | i + 1 => after ((if s i then a else b).exec env) (interleave env a b w s i)

/-- Both writers converge on the subnet of `net`: the number of its versions is bounded,
and from some point on its open version holds what both compute. -/
def Converges (env : Env) (infra : ResourceName) (spec : VyOSInfrastructure) (net : Network)
    (bridge : ResourceName) (bridgeSpec : BridgeSpec) (status : BridgeStatus) (w : World)
    (s : ℕ → Bool) : Prop :=
  let at' := interleave env (.syncInfrastructure infra spec) (.syncBridge bridge bridgeSpec status)
    w s
  (∃ bound, ∀ i, versions Row.key (.id (Infrastructure.subnetId net))
    ((at' i).db .logicalSubnet) ≤ bound) ∧
  ∃ start, ∀ i, start ≤ i → Holds (at' i) .logicalSubnet (.id (Infrastructure.subnetId net))
    fun x => InfrastructureColumns net x ∧ BridgeColumns env bridge bridgeSpec status x

variable {env : Env} {a b : Op} {w : World} {s : ℕ → Bool}

/-- What each operation keeps, an interleaving keeps. -/
theorem interleave_invariant {I : World → Prop}
    (hI : ∀ op : Op, ∀ w, I w → I (after (op.exec env) w)) (hw : I w) (i : ℕ) :
    I (interleave env a b w s i) := by
  induction i with
  | zero => exact hw
  | succ i ih => exact hI _ _ ih

theorem wellFormed_interleave (hw : WellFormed env w) (i : ℕ) :
    WellFormed env (interleave env a b w s i) :=
  interleave_invariant (fun op _ hv => hv.calls (op.respects_exec env _)) hw i

theorem allWritten_interleave (hw : AllWritten env w) (i : ℕ) :
    AllWritten env (interleave env a b w s i) :=
  interleave_invariant (fun op _ hv => hv.calls (op.respects_exec env _)) hw i

theorem versions_interleave_mono (ha : a.isSync = true) (hb : b.isSync = true) (n : TableName)
    (k : Key) : Monotone fun i => versions Row.key k ((interleave env a b w s i).db n) := by
  refine monotone_nat_of_le_succ fun i => ?_
  rw [interleave]
  split
  · exact (Op.respects_of_isSync env ha _).versions_le n k
  · exact (Op.respects_of_isSync env hb _).versions_le n k

/-- In a schedule in which both values recur, one follows the other again and again. -/
theorem exists_alternation (htrue : ∀ i, ∃ j, i ≤ j ∧ s j = true)
    (hfalse : ∀ i, ∃ j, i ≤ j ∧ s j = false) (i : ℕ) :
    ∃ j, i ≤ j ∧ s j = true ∧ s (j + 1) = false := by
  obtain ⟨j, hij, hj⟩ := htrue i
  have hlater : ∃ d, s (j + d) = false := by
    obtain ⟨l, hl, hsl⟩ := hfalse j
    exact ⟨l - j, by rwa [Nat.add_sub_cancel' hl]⟩
  -- the last operation before the other one's first turn
  have hd := Nat.find_spec hlater
  have hpos : Nat.find hlater ≠ 0 := by
    intro h0
    rw [h0, Nat.add_zero, hj] at hd
    cases hd
  obtain ⟨d, hd'⟩ := Nat.exists_eq_succ_of_ne_zero hpos
  refine ⟨j + d, by omega, ?_, ?_⟩
  · have hmin := Nat.find_min hlater (m := d) (by omega)
    simpa using hmin
  · rw [hd'] at hd
    exact hd

variable {infra : ResourceName} {spec : VyOSInfrastructure} {net : Network}
  {bridge : ResourceName} {bridgeSpec : BridgeSpec} {status : BridgeStatus}

/-- No interleaving converges, because no row could hold what both compute. -/
theorem not_converges (hw : AllWritten env w) :
    ¬Converges env infra spec net bridge bridgeSpec status w s := by
  rintro ⟨-, start, hfinal⟩
  obtain ⟨v, hv, -, hboth⟩ := (hfinal start (le_refl _)).exists_mem
  exact not_both_columns (allWritten_interleave hw start _ v hv) hboth

/-- A bridge sync right after an infrastructure sync writes a new version. -/
theorem versions_interleave_lt (hok : env.Reliable) (hw : WellFormed env w)
    (hnet : net ∈ spec.networks.getD [])
    (hid : Bridge.subnetId bridge bridgeSpec = Infrastructure.subnetId net)
    (ha : a = .syncInfrastructure infra spec) (hb : b = .syncBridge bridge bridgeSpec status)
    {i : ℕ} (hi : s i = true) (hi' : s (i + 1) = false) :
    versions Row.key (.id (Infrastructure.subnetId net))
        ((interleave env a b w s (i + 1)).db .logicalSubnet) <
      versions Row.key (.id (Infrastructure.subnetId net))
        ((interleave env a b w s (i + 2)).db .logicalSubnet) := by
  have hinfra : interleave env a b w s (i + 1) =
      after (syncVyosInfrastructure env spec) (interleave env a b w s i) := by
    rw [interleave, hi, if_pos rfl, ha]
    rfl
  have hbridge : interleave env a b w s (i + 2) =
      after (syncHostNetworkBridge env bridge bridgeSpec status)
        (interleave env a b w s (i + 1)) := by
    rw [interleave, hi', if_neg Bool.false_ne_true, hb]
    rfl
  have hnetwork : Holds (interleave env a b w s (i + 1)) .logicalSubnet
      (.id (Bridge.subnetId bridge bridgeSpec)) OfNetwork := by
    rw [hinfra]
    exact syncNetworks_ofNetwork hok ⟨net, hnet, by rw [hid]⟩ (wellFormed_interleave hw i)
  rw [hbridge, ← hid]
  exact syncBridge_versions hok (wellFormed_interleave hw (i + 1)) hnetwork

/-- **The two writers never converge.** From any reachable store, no interleaving of syncs of
an infrastructure and of the bridge of one of its networks ends with the columns of both
in place; and when neither writer stops and no call fails, the number of versions grows
without bound. -/
theorem writers_never_converge (env : Env) (ops : List Op) (infra : ResourceName)
    (spec : VyOSInfrastructure) (net : Network) (hnet : net ∈ spec.networks.getD [])
    (bridge : ResourceName) (bridgeSpec : BridgeSpec) (status : BridgeStatus)
    (hid : Bridge.subnetId bridge bridgeSpec = Infrastructure.subnetId net) (s : ℕ → Bool) :
    ¬Converges env infra spec net bridge bridgeSpec status (run env ops) s ∧
      (env.Reliable → (∀ i, ∃ j, i ≤ j ∧ s j = true) → (∀ i, ∃ j, i ≤ j ∧ s j = false) →
        ∀ bound, ∃ i, bound ≤ versions Row.key (.id (Infrastructure.subnetId net))
          ((interleave env (.syncInfrastructure infra spec)
            (.syncBridge bridge bridgeSpec status) (run env ops) s i).db .logicalSubnet)) := by
  refine ⟨not_converges (allWritten_run env ops), fun hok htrue hfalse bound => ?_⟩
  induction bound with
  | zero => exact ⟨0, Nat.zero_le _⟩
  | succ bound ih =>
    generalize ha : Op.syncInfrastructure infra spec = a at ih ⊢
    generalize hb : Op.syncBridge bridge bridgeSpec status = b at ih ⊢
    obtain ⟨i, hi⟩ := ih
    obtain ⟨j, hij, hj, hj'⟩ := exists_alternation htrue hfalse i
    refine ⟨j + 2, ?_⟩
    have hstart : i ≤ j + 1 := by omega
    have hmono : Monotone fun i => versions Row.key (.id (Infrastructure.subnetId net))
        ((interleave env a b (run env ops) s i).db .logicalSubnet) :=
      versions_interleave_mono (ha ▸ rfl) (hb ▸ rfl) _ _
    have hlt := versions_interleave_lt hok (wellFormed_run env ops) hnet hid ha.symm hb.symm hj hj'
    exact (hi.trans (hmono hstart)).trans_lt hlt

end Interleavings

/-- The theorem for the sample network and its bridge. -/
theorem writers_never_converge_sample :
    ¬Converges Env.plain Sample.core Sample.infrastructure Sample.network Sample.core Sample.bridge
        Sample.bridgeStatus (run Env.plain []) (fun i => i % 2 = 0) ∧
      ∀ bound, ∃ i, bound ≤ versions Row.key (.id "subnet:core")
        ((interleave Env.plain (.syncInfrastructure Sample.core Sample.infrastructure)
          (.syncBridge Sample.core Sample.bridge Sample.bridgeStatus) (run Env.plain [])
          (fun i => i % 2 = 0) i).db .logicalSubnet) := by
  have h := writers_never_converge Env.plain [] Sample.core Sample.infrastructure Sample.network
    (by decide) Sample.core Sample.bridge Sample.bridgeStatus (by decide) fun i => i % 2 = 0
  refine ⟨h.1, h.2 (fun _ => rfl) (fun i => ⟨2 * i, by omega, by simp⟩) fun i =>
    ⟨2 * i + 1, by omega, by simp⟩⟩

/-- Alternating syncs of the sample network and its bridge do not converge. -/
theorem alternating_writers_diverge :
    ¬Converges Env.plain Sample.core Sample.infrastructure Sample.network Sample.core Sample.bridge
      Sample.bridgeStatus World.empty fun i => i % 2 = 0 :=
  not_converges (allWritten_run Env.plain [])

end GnnSandbox.Graph
