import GnnSandbox.Operator.Traffic.Starts

/-!
# Starting and stopping again

An interrupted start is one whose further requests reach no agent. With healthy agents a second
start completes it, unless it was interrupted between the reverse listener and the reverse sender
of a source: the listener then answers that it is running, which only the requests of the forward
flow take for a success. Stopping again fails where the flow of a source is gone, as the request
for it is the one of four that does not accept that.
-/

namespace GnnSandbox.Operator.Traffic

/-! ## Healthy devices -/

/-- The devices have what the flows need. -/
structure Healthy (spec : Spec) (devices : DevicesInfo) : Prop where
  complete : Complete spec devices
  addresses : ∀ s ∈ spec.sourceDevices, ∃ d m,
    mgmtOf devices spec.destinationDevice = some d ∧ mgmtOf devices s = some m ∧ d ≠ m
  ports : ∀ s ∈ spec.sourceDevices, portOf devices s ≠ some 0
  reversible : spec.bidirectional.getD false = true →
    ∀ s ∈ spec.sourceDevices, Reversible devices s

/-- The place of a request among those for a source. -/
def Stage.place : Stage → ℕ
  | .destination => 0
  | .source => 1
  | .reverseDestination => 2
  | .reverseSource => 3

/-- Only the requests for the first `i` sources and the next `j` requests reach an agent. -/
def cut (i j : ℕ) : Deliveries := fun n stage =>
  if n < i ∨ (n = i ∧ stage.place < j) then .answered else .unreached

/-- Every request is answered. -/
def healthy : Deliveries := fun _ _ => .answered

section Start

variable {name : String} {spec : Spec} {devices : DevicesInfo} {δ : Deliveries} {agents : Agents}
  {source : String}

theorem startSources_append {l l' : List (String × ℕ)} {p : Progress}
    (hkeys : ∀ item ∈ l, (portOf devices item.1).isSome) :
    startSources name spec devices δ (l ++ l') p =
      startSources name spec devices δ l' (startSources name spec devices δ l p).1 := by
  induction l generalizing p with
  | nil => rfl
  | cons item l ih =>
    rw [List.forall_mem_cons] at hkeys
    obtain ⟨info, port, hinfo, hport⟩ := exists_info hkeys.1
    rw [List.cons_append, startSources_cons hinfo hport, startSources_cons hinfo hport,
      ih hkeys.2]

/-- Nothing but the requests decides over the agents. -/
theorem agents_createTrafficTest (hcomplete : Complete spec devices) (startTime : String) :
    (createTrafficTest name spec devices startTime δ agents).1.agents =
      (startSources name spec devices δ spec.sourceDevices.zipIdx ⟨agents, []⟩).1.agents := by
  have hdest : ¬(devices.lookup spec.destinationDevice).isNone = true := by
    rw [Option.isNone_iff_eq_none]
    exact Option.isSome_iff_ne_none.1 hcomplete.1
  unfold createTrafficTest
  rw [if_neg hdest]
  cases hrun : startSources name spec devices δ spec.sourceDevices.zipIdx ⟨agents, []⟩ with
  | mk p key =>
    cases key with
    | some key => rfl
    | none =>
      dsimp only
      split_ifs <;> rfl

theorem starts_of_answered (h : Healthy spec devices) (hs : source ∈ spec.sourceDevices)
    {δ : Stage → Delivery} (hdest : δ .destination = .answered) (hsource : δ .source = .answered) :
    Starts spec devices δ source := by
  obtain ⟨d, m, -, hm, -⟩ := h.addresses source hs
  exact ⟨hm ▸ nofun, h.ports source hs, hsource, fun _ => hdest⟩

theorem untouched_of_unreached (h : Healthy spec devices) (hs : source ∈ spec.sourceDevices)
    {δ : Stage → Delivery} (hdest : δ .destination = .unreached) : Untouched spec devices δ source := by
  obtain ⟨d, m, hd, -, -⟩ := h.addresses source hs
  exact .inr (by rw [if_pos (hd ▸ nofun)]; exact hdest)

/-- The sources that come before the interruption have all their flows, and the others none. -/
theorem runs_before {before : List String} {d m : String} (h : Healthy spec devices)
    (hnames : ∀ s ∈ spec.sourceDevices, '_' ∉ s.toList) (hnothing : NothingRuns name spec agents)
    (hbefore : ∀ s ∈ before, s ∈ spec.sourceDevices)
    (hanswered : ∀ n < before.length, ∀ stage, δ n stage = .answered)
    (hs : source ∈ spec.sourceDevices) (hd : mgmtOf devices spec.destinationDevice = some d)
    (hm : mgmtOf devices source = some m) (hne : d ≠ m) :
    let agents' := (startSources name spec devices δ before.zipIdx ⟨agents, []⟩).1.agents
    (agents'.runs d (flowId name source) = if source ∈ before then some .destination else none) ∧
    (agents'.runs m (flowId name source) = if source ∈ before then some .source else none) ∧
    (spec.bidirectional.getD false = true →
      (agents'.runs m (reverseFlowId name source), agents'.runs d (reverseFlowId name source)) =
        if source ∈ before then (some .destination, some .source) else (none, none)) := by
  intro agents'
  have hitem : ∀ item ∈ before.zipIdx, item.1 ∈ spec.sourceDevices :=
    fun item hitem => hbefore _ (List.fst_mem_of_mem_zipIdx hitem)
  have hkeys : ∀ item ∈ before.zipIdx, (portOf devices item.1).isSome :=
    fun item hmem => h.complete.2 _ (hitem item hmem)
  have hround : ∀ n ∈ rounds before.zipIdx source, ∀ stage, δ n stage = .answered :=
    fun n hn => hanswered n (by simpa using List.snd_lt_of_mem_zipIdx (mem_rounds.1 hn))
  have hstarts : ∀ n ∈ rounds before.zipIdx source, Starts spec devices (δ n) source :=
    fun n hn => starts_of_answered h hs (hround n hn _) (hround n hn _)
  obtain ⟨hrunsd, hrunsm⟩ := @runs_startSources name spec devices δ before.zipIdx ⟨agents, []⟩
    source d m hkeys (fun item hmem => hnames _ (hitem item hmem)) (hnames source hs) hd hm hne hstarts
  obtain ⟨hnone, -⟩ := hnothing source hs d
  obtain ⟨hnone', -⟩ := hnothing source hs m
  refine ⟨?_, ?_, fun hbi => ?_⟩
  · rw [hrunsd, hnone]
    by_cases hin : source ∈ before <;> simp [rounds_eq_nil_iff, hin]
  · rw [hrunsm, hnone']
    by_cases hin : source ∈ before <;> simp [rounds_eq_nil_iff, hin]
  · rw [reverse_startSources (fun info hinfo δ agents => runs_startReverse hinfo
      (h.reversible hbi source hs) hd ((mgmtOf_eq hinfo).symm.trans hm) hne) hkeys
      (fun item hmem => hnames _ (hitem item hmem)) (hnames source hs) hbi List.not_mem_nil hstarts,
      (hnothing source hs m).2, (hnothing source hs d).2]
    by_cases hin : source ∈ before
    · rw [if_pos hin, foldl_reverseStep_iff]
      cases hns : rounds before.zipIdx source with
      | nil => exact absurd hin (rounds_eq_nil_iff.1 hns)
      | cons n ns =>
        have hn := hround n (hns ▸ List.mem_cons_self ..)
        exact .inr ⟨rfl, n, by rw [List.find?_cons, hn]; rfl, .inr ⟨rfl, hn _, hn _ ▸ nofun⟩⟩
    · rw [if_neg hin, rounds_eq_nil_iff.2 hin]
      rfl

/-- No flow is ever started in the other's role. -/
theorem roles_startSource {δ : Stage → Delivery} {info : DeviceInfo} {port : ℤ} {p : Progress}
    {d m : String} (hname : '_' ∉ source.toList)
    (hd : mgmtOf devices spec.destinationDevice = some d) (hm : info.mgmt = some m) (hne : d ≠ m)
    (hdest : p.agents.runs d (flowId name source) ≠ some .source)
    (hsource : p.agents.runs m (flowId name source) ≠ some .destination) :
    (startSource name spec devices source info port δ p).agents.runs d (flowId name source) ≠
        some .source ∧
      (startSource name spec devices source info port δ p).agents.runs m (flowId name source) ≠
        some .destination := by
  have hforward : (startForward name spec devices source info port δ p.agents).1.runs d
        (flowId name source) ≠ some .source ∧
      (startForward name spec devices source info port δ p.agents).1.runs m
        (flowId name source) ≠ some .destination := by
    have hor {role : Option Role} (h : role ≠ some .source) :
        role.or (some .destination) ≠ some .source := by
      rw [or_destination_iff.2 h]
      nofun
    have hor' {role : Option Role} (h : role ≠ some .destination) :
        role.or (some .source) ≠ some .destination := by
      rw [or_source_iff.2 h]
      nofun
    rw [startForward_of_some hd, hm]
    split_ifs <;> simp only [runs_post, hne, hne.symm, false_and, if_false, true_and]
    · constructor <;> split_ifs <;> first
        | exact hor hdest
        | exact hdest
        | exact hor' hsource
        | exact hsource
    · constructor
      · split_ifs <;> first
          | exact hor hdest
          | exact hdest
      · exact hsource
  have hsame : Agents.SameFor (flowId name source)
      (startForward name spec devices source info port δ p.agents).1
      (startSource name spec devices source info port δ p).agents := by
    unfold startSource
    dsimp only
    split_ifs <;> first
      | exact sameFor_startReverse (flowId_ne_reverse hname)
      | exact fun _ => rfl
  rw [hsame d, hsame m]
  exact hforward

/-- The reverse flows after the round that is interrupted. -/
theorem reverse_interrupted {info : DeviceInfo} {port : ℤ} {p : Progress} {d m : String} (i j : ℕ)
    (h : Healthy spec devices) (hname : '_' ∉ source.toList) (hs : source ∈ spec.sourceDevices)
    (hinfo : devices.lookup source = some info) (hport : info.port = some port)
    (hd : mgmtOf devices spec.destinationDevice = some d) (hm : info.mgmt = some m) (hne : d ≠ m)
    (hbi : spec.bidirectional.getD false = true) (hfailed : source ∉ p.failedSources)
    (hnone : p.agents.runs m (reverseFlowId name source) = none)
    (hnone' : p.agents.runs d (reverseFlowId name source) = none) :
    ((startSource name spec devices source info port (cut i j i) p).agents.runs m
          (reverseFlowId name source),
        (startSource name spec devices source info port (cut i j i) p).agents.runs d
          (reverseFlowId name source)) =
      if j ≤ 2 then (none, none) else if j = 3 then (some .destination, none)
      else (some .destination, some .source) := by
  have hcut (stage : Stage) : cut i j i stage =
      if stage.place < j then .answered else .unreached :=
    if_congr (by simp) rfl rfl
  have hforward := @sameFor_startForward name spec devices source info port (cut i j i) p.agents
    (reverseFlowId name source) (flowId_ne_reverse hname).symm
  have hsources := @failed_startSource name spec devices source info port (cut i j i) p hinfo hport
  by_cases hj : 2 ≤ j
  · have hstarts : Starts spec devices (cut i j i) source :=
      starts_of_answered h hs (by rw [hcut, if_pos (by simp [Stage.place]; omega)])
        (by rw [hcut, if_pos (by simp [Stage.place]; omega)])
    have hafter : (startSource name spec devices source info port (cut i j i) p).agents =
        startReverse name spec devices source info (cut i j i)
          (startForward name spec devices source info port (cut i j i) p.agents).1 := by
      rw [if_pos hstarts] at hsources
      unfold startSource at hsources ⊢
      dsimp only at hsources ⊢
      rw [hsources, if_pos ⟨hbi, hfailed⟩]
    rw [hafter, runs_startReverse hinfo (h.reversible hbi source hs) hd hm hne, hforward m,
      hforward d, hnone, hnone', reverseStep, hcut, hcut]
    by_cases htwo : j = 2
    · subst htwo
      rfl
    · by_cases hthree : j = 3
      · subst hthree
        rfl
      · have hfour : 3 < j := by omega
        simp [Stage.place, hfour, show 2 < j by omega, hthree]
  · have hstarts : ¬Starts spec devices (cut i j i) source := by
      rintro ⟨-, -, hsource, -⟩
      rw [hcut, if_neg (by simp [Stage.place]; omega)] at hsource
      cases hsource
    have hafter : (startSource name spec devices source info port (cut i j i) p).agents =
        (startForward name spec devices source info port (cut i j i) p.agents).1 := by
      rw [if_neg hstarts] at hsources
      unfold startSource at hsources ⊢
      dsimp only at hsources ⊢
      rw [hsources, if_neg fun hboth => hboth.2 (List.mem_append_right _ (List.mem_singleton_self _))]
    rw [hafter, hforward m, hforward d, hnone, hnone', if_pos (by omega)]

/-- The start was interrupted between the reverse listener and the reverse sender of the source. -/
def Halfway (spec : Spec) (i j : ℕ) (source : String) : Prop :=
  j = 3 ∧ spec.sourceDevices[i]? = some source ∧ source ∉ spec.sourceDevices.take i

/-- The flows of a source after an interrupted start. -/
structure Interrupted (name : String) (spec : Spec) (agents : Agents) (source d m : String)
    (half : Prop) : Prop where
  listens : agents.runs d (flowId name source) ≠ some .source
  sends : agents.runs m (flowId name source) ≠ some .destination
  reverse : spec.bidirectional.getD false = true →
    (half ∧ agents.runs m (reverseFlowId name source) = some .destination ∧
        agents.runs d (reverseFlowId name source) = none) ∨
      (¬half ∧ ((agents.runs m (reverseFlowId name source) = none ∧
          agents.runs d (reverseFlowId name source) = none) ∨
        (agents.runs m (reverseFlowId name source) = some .destination ∧
          agents.runs d (reverseFlowId name source) = some .source)))

/-- A source that has all its flows keeps them. -/
theorem Interrupted.of_full {agents agents' : Agents} {d m : String} {half : Prop} (hhalf : ¬half)
    (hextends : agents.Extends agents')
    (hdest : agents.runs d (flowId name source) = some .destination)
    (hsource : agents.runs m (flowId name source) = some .source)
    (hreverse : spec.bidirectional.getD false = true →
      (agents.runs m (reverseFlowId name source), agents.runs d (reverseFlowId name source)) =
        (some .destination, some .source)) :
    Interrupted name spec agents' source d m half := by
  refine ⟨hextends _ _ _ hdest ▸ nofun, hextends _ _ _ hsource ▸ nofun, fun hbi => ?_⟩
  obtain ⟨hlistener, hsender⟩ := Prod.mk.inj (hreverse hbi)
  exact .inr ⟨hhalf, .inr ⟨hextends _ _ _ hlistener, hextends _ _ _ hsender⟩⟩

theorem cut_before {i j n : ℕ} (h : n < i) (stage : Stage) : cut i j n stage = .answered :=
  if_pos (.inl h)

theorem cut_after {i j n : ℕ} (h : i < n) (stage : Stage) : cut i j n stage = .unreached :=
  if_neg fun hn => hn.elim (fun hn => by omega) fun hn => by omega

/-- An interrupted start leaves every source with all of its flows or on the way to them. -/
theorem interrupted_cut {d m : String} (i j : ℕ) (h : Healthy spec devices)
    (hnames : ∀ s ∈ spec.sourceDevices, '_' ∉ s.toList) (hnothing : NothingRuns name spec agents)
    (hs : source ∈ spec.sourceDevices) (hd : mgmtOf devices spec.destinationDevice = some d)
    (hm : mgmtOf devices source = some m) (hne : d ≠ m) :
    Interrupted name spec
      (startSources name spec devices (cut i j) spec.sourceDevices.zipIdx ⟨agents, []⟩).1.agents
      source d m (Halfway spec i j source) := by
  have hkeys : ∀ s ∈ spec.sourceDevices, (portOf devices s).isSome := h.complete.2
  by_cases hi : i < spec.sourceDevices.length
  · obtain ⟨before, s', after, heq, hlength⟩ : ∃ before s' after,
        spec.sourceDevices = before ++ s' :: after ∧ before.length = i :=
      ⟨spec.sourceDevices.take i, spec.sourceDevices[i], spec.sourceDevices.drop (i + 1),
        by rw [List.getElem_cons_drop, List.take_append_drop], by simp; omega⟩
    have hbefore : ∀ s ∈ before, s ∈ spec.sourceDevices :=
      fun s hs => heq ▸ List.mem_append_left _ hs
    have hafter : ∀ s ∈ after, s ∈ spec.sourceDevices :=
      fun s hs => heq ▸ List.mem_append_right _ (List.mem_cons_of_mem _ hs)
    have hs' : s' ∈ spec.sourceDevices := heq ▸ List.mem_append_right _ (List.mem_cons_self ..)
    have hhalf : Halfway spec i j source ↔ j = 3 ∧ s' = source ∧ source ∉ before := by
      unfold Halfway
      rw [heq, List.take_left' hlength, ← hlength]
      simp
    obtain ⟨info, port, hinfo, hport⟩ := exists_info (hkeys s' hs')
    -- only the sources up to the interruption matter
    have hagents : (startSources name spec devices (cut i j) spec.sourceDevices.zipIdx
          ⟨agents, []⟩).1.agents =
        (startSource name spec devices s' info port (cut i j i)
          (startSources name spec devices (cut i j) before.zipIdx ⟨agents, []⟩).1).agents := by
      rw [heq, List.zipIdx_append, startSources_append fun item hitem =>
          hkeys _ (hbefore _ (List.fst_mem_of_mem_zipIdx hitem)), List.zipIdx_cons, hlength,
        Nat.zero_add, startSources_cons hinfo hport]
      refine startSources_untouched
        (fun item hitem => hkeys _ (hafter _ (List.fst_mem_of_mem_zipIdx hitem))) fun item hitem => ?_
      have hlt := List.le_snd_of_mem_zipIdx hitem
      exact untouched_of_unreached h (hafter _ (List.fst_mem_of_mem_zipIdx hitem))
        (cut_after (by omega) _)
    have hcells := @runs_before name spec devices (cut i j) agents source before d m h hnames
      hnothing hbefore (fun n hn stage => cut_before (hlength ▸ hn) stage) hs hd hm hne
    have hfailed : source ∉ before → source ∉
        (startSources name spec devices (cut i j) before.zipIdx ⟨agents, []⟩).1.failedSources := by
      intro hin hmem
      rw [failed_startSources fun item hitem =>
        hkeys _ (hbefore _ (List.fst_mem_of_mem_zipIdx hitem))] at hmem
      obtain ⟨item, hitem, rfl⟩ := List.mem_map.1 ((List.mem_append.1 hmem).resolve_left nofun)
      exact hin (List.fst_mem_of_mem_zipIdx (List.mem_filter.1 hitem).1)
    generalize (startSources name spec devices (cut i j) before.zipIdx ⟨agents, []⟩).1 = p
      at hagents hcells hfailed
    obtain ⟨hdest, hsource, hreverse⟩ := hcells
    rw [hagents]
    by_cases hin : source ∈ before
    · rw [if_pos hin] at hdest hsource
      refine .of_full (fun hh => (hhalf.1 hh).2.2 hin) extends_startSource hdest hsource fun hbi => ?_
      rw [hreverse hbi, if_pos hin]
    · rw [if_neg hin] at hdest hsource
      have hnone (hbi : spec.bidirectional.getD false = true) := hreverse hbi
      simp only [if_neg hin, Prod.mk.injEq] at hnone
      by_cases hsame : s' = source
      · subst hsame
        rw [mgmtOf_eq hinfo] at hm
        obtain ⟨hroles, hroles'⟩ := @roles_startSource name spec devices s' (cut i j i) info port p
          d m (hnames _ hs) hd hm hne (hdest ▸ nofun) (hsource ▸ nofun)
        refine ⟨hroles, hroles', fun hbi => ?_⟩
        have hpair := @reverse_interrupted name spec devices s' info port p d m i j h (hnames _ hs)
          hs hinfo hport hd hm hne hbi (hfailed hin) (hnone hbi).1 (hnone hbi).2
        simp only [hhalf, hin, not_false_eq_true, and_true]
        split_ifs at hpair with htwo hthree
        · obtain ⟨hlistener, hsender⟩ := Prod.mk.inj hpair
          exact .inr ⟨by omega, .inl ⟨hlistener, hsender⟩⟩
        · obtain ⟨hlistener, hsender⟩ := Prod.mk.inj hpair
          exact .inl ⟨hthree, hlistener, hsender⟩
        · obtain ⟨hlistener, hsender⟩ := Prod.mk.inj hpair
          exact .inr ⟨hthree, .inr ⟨hlistener, hsender⟩⟩
      · obtain ⟨hforward, hback⟩ := @sameFor_other name spec devices p source info port s'
          (cut i j i) (hnames _ hs) (hnames _ hs') (fun h => hsame h.symm)
        refine ⟨by rw [hforward d, hdest]; nofun, by rw [hforward m, hsource]; nofun, fun hbi => ?_⟩
        rw [hback m, hback d, (hnone hbi).1, (hnone hbi).2]
        exact .inr ⟨fun hh => hsame (hhalf.1 hh).2.1, .inl ⟨rfl, rfl⟩⟩
  · obtain ⟨hdest, hsource, hreverse⟩ := @runs_before name spec devices (cut i j) agents source
      spec.sourceDevices d m h hnames hnothing (fun _ hs => hs)
      (fun n hn stage => cut_before (by omega) stage) hs hd hm hne
    rw [if_pos hs] at hdest hsource
    refine .of_full (fun hh => ?_) .refl hdest hsource fun hbi => ?_
    · exact hi (List.getElem?_eq_some_iff.1 hh.2.1).1
    · rw [hreverse hbi, if_pos hs]

/-- With every request answered, a start completes an interrupted one unless it was halfway. -/
theorem equipped_iff {d m : String} {half : Prop} (h : Healthy spec devices)
    (hs : source ∈ spec.sourceDevices) (hd : mgmtOf devices spec.destinationDevice = some d)
    (hm : mgmtOf devices source = some m) (hne : d ≠ m)
    (hcells : Interrupted name spec agents source d m half) :
    Equipped name spec devices healthy agents source ↔
      ¬(spec.bidirectional.getD false = true ∧ half) := by
  have hfirst : ∃ n, (rounds spec.sourceDevices.zipIdx source).find?
      (fun n => healthy n .reverseDestination ≠ .unreached) = some n := by
    cases hrounds : rounds spec.sourceDevices.zipIdx source with
    | nil => exact absurd hs (rounds_eq_nil_iff.1 hrounds)
    | cons n ns => exact ⟨n, rfl⟩
  constructor
  · rintro ⟨d', m', hd', hm', -, -, -, hreverse⟩ ⟨hbi, hhalf⟩
    obtain rfl := Option.some.inj (hd.symm.trans hd')
    obtain rfl := Option.some.inj (hm.symm.trans hm')
    obtain ⟨-, hlistener, hsender⟩ := (hcells.reverse hbi).resolve_right fun h => h.1 hhalf
    rcases hreverse hbi with ⟨-, hruns⟩ | ⟨-, hnone, -⟩
    · rw [hsender] at hruns
      nomatch hruns
    · rw [hlistener] at hnone
      nomatch hnone
  · intro hnot
    refine ⟨d, m, hd, hm, hne, hcells.listens, hcells.sends, fun hbi => ?_⟩
    obtain ⟨-, hcells⟩ := (hcells.reverse hbi).resolve_left fun hhalf => hnot ⟨hbi, hhalf.1⟩
    rcases hcells with ⟨hlistener, hsender⟩ | hboth
    · obtain ⟨n, hn⟩ := hfirst
      exact .inr ⟨h.reversible hbi source hs, hlistener, n, hn, .inr ⟨hsender, rfl, nofun⟩⟩
    · exact .inl hboth

end Start

/-! ## Stopping -/

section Stop

variable {name : String} {spec : Spec} {devices : DevicesInfo} {agents : Agents} {p : Stopping}
  {address id : String}

/-- A request to stop a flow keeps what is registered. -/
theorem registered_delete (a id' : String) :
    (agents.delete .answered address id).1 a id' = none ↔ agents a id' = none := by
  change Function.update agents address (deleteFlow id (agents address)).1 a id' = none ↔ _
  by_cases ha : a = address
  · subst ha
    rw [Function.update_self, deleteFlow]
    cases hid : agents a id with
    | none => rfl
    | some f =>
      by_cases hsame : id' = id
      · subst hsame
        simp [hid]
      · simp [hsame]
  · rw [Function.update_of_ne ha]

theorem runs_of_unregistered {a : String} (h : agents a id = none) : agents.runs a id = none := by
  rw [Agents.runs, FlowRegistry.runs, h, Option.bind_none]

/-- It stops that flow and starts none. -/
theorem runs_delete (a id' : String) :
    (agents.delete .answered address id).1.runs a id' =
      if a = address ∧ id' = id then none else agents.runs a id' := by
  change ((Function.update agents address (deleteFlow id (agents address)).1 a) id').bind _ = _
  unfold Agents.runs FlowRegistry.runs
  by_cases ha : a = address
  · subst ha
    rw [Function.update_self, deleteFlow]
    by_cases hsame : id' = id
    · subst hsame
      cases hid : agents a id' <;> simp [hid]
    · cases hid : agents a id <;> simp [hsame]
  · rw [Function.update_of_ne ha, if_neg fun h => ha h.1]

theorem success_delete : (agents.delete .answered address id).2.success = true ↔
    agents address id ≠ none := by
  change decide (200 ≤ (deleteFlow id (agents address)).2 ∧
    (deleteFlow id (agents address)).2 < 300) = true ↔ _
  rw [decide_eq_true_eq, deleteFlow]
  cases agents address id <;> simp

theorem notFound_delete : (agents.delete .answered address id).2.httpCode = some 404 ↔
    agents address id = none := by
  change some (deleteFlow id (agents address)).2 = some 404 ↔ _
  rw [deleteFlow]
  cases agents address id <;> simp

/-- A `DELETE` fails only for a flow that is gone and may not be. -/
theorem failed_stopFlow {tolerant : Bool} {failure : String} :
    (stopFlow tolerant .answered (some address) id failure p).failedDeletes =
      if tolerant = false ∧ p.agents address id = none then p.failedDeletes ++ [failure]
      else p.failedDeletes := by
  change (if (p.agents.delete .answered address id).2.success = true ∨ (tolerant = true ∧
    (p.agents.delete .answered address id).2.httpCode = some 404) then _ else _) = _
  simp only [success_delete, notFound_delete]
  cases tolerant <;> by_cases h : p.agents address id = none <;> simp [h]

theorem agents_stopFlow {tolerant : Bool} {failure : String} :
    (stopFlow tolerant .answered (some address) id failure p).agents =
      (p.agents.delete .answered address id).1 := rfl

variable {source d m : String}

/-- What the requests for one source do: nothing is forgotten, its flows stop on its agents, and
only the first request can fail. -/
theorem stopSource_spec (hd : mgmtOf devices spec.destinationDevice = some d)
    (hm : mgmtOf devices source = some m) :
    let p' := stopSource name spec devices source (healthy 0) p
    (∀ a id', p'.agents a id' = none ↔ p.agents a id' = none) ∧
    (∀ a id', p'.agents.runs a id' = if (a = d ∨ a = m) ∧ (id' = flowId name source ∨
      (spec.bidirectional.getD false = true ∧ id' = reverseFlowId name source)) then none
      else p.agents.runs a id') ∧
    (p'.failedDeletes = [] ↔ p.failedDeletes = [] ∧ p.agents m (flowId name source) ≠ none) := by
  intro p'
  have hp' : p' = stopSource name spec devices source (healthy 0) p := rfl
  unfold stopSource at hp'
  simp only [hd, hm, healthy] at hp'
  rw [hp']
  by_cases hbi : spec.bidirectional.getD false = true
  · refine ⟨fun a id' => ?_, fun a id' => ?_, ?_⟩
    · rw [if_pos hbi]
      simp only [agents_stopFlow, registered_delete]
    · rw [if_pos hbi]
      simp only [agents_stopFlow, runs_delete, hbi, true_and]
      grind
    · rw [if_pos hbi]
      simp only [failed_stopFlow]
      by_cases hgone : p.agents m (flowId name source) = none <;> simp [hgone]
  · refine ⟨fun a id' => ?_, fun a id' => ?_, ?_⟩
    · rw [if_neg hbi]
      simp only [agents_stopFlow, registered_delete]
    · rw [if_neg hbi]
      simp only [agents_stopFlow, runs_delete, hbi]
      grind
    · rw [if_neg hbi]
      simp only [failed_stopFlow]
      by_cases hgone : p.agents m (flowId name source) = none <;> simp [hgone]

/-- The loop over the sources. -/
theorem stopSources_spec {l : List (String × ℕ)} (hd : mgmtOf devices spec.destinationDevice = some d)
    (hm : ∀ item ∈ l, mgmtOf devices item.1 ≠ none) :
    let p' := l.foldl (fun p item => stopSource name spec devices item.1 (healthy item.2) p) p
    (∀ a id', p.agents.runs a id' = none → p'.agents.runs a id' = none) ∧
    (∀ item ∈ l, ∀ m, mgmtOf devices item.1 = some m → ∀ a id', (a = d ∨ a = m) →
      (id' = flowId name item.1 ∨
        (spec.bidirectional.getD false = true ∧ id' = reverseFlowId name item.1)) →
      p'.agents.runs a id' = none) ∧
    (p'.failedDeletes = [] ↔ p.failedDeletes = [] ∧ ∀ item ∈ l, ∀ m,
      mgmtOf devices item.1 = some m → p.agents m (flowId name item.1) ≠ none) := by
  induction l generalizing p with
  | nil => simp
  | cons item l ih =>
    rw [List.forall_mem_cons] at hm
    obtain ⟨m, hitem⟩ := Option.ne_none_iff_exists'.1 hm.1
    obtain ⟨hregistered, hruns, hfailed⟩ := @stopSource_spec name spec devices p item.1 d m hd hitem
    obtain ⟨ihnone, ihstopped, ihfailed⟩ :=
      @ih (stopSource name spec devices item.1 (healthy item.2) p) hm.2
    rw [List.foldl_cons]
    refine ⟨fun a id' hnone => ihnone a id' ?_, ?_, ?_⟩
    · refine (hruns a id').trans ?_
      split_ifs
      · rfl
      · exact hnone
    · refine List.forall_mem_cons.2 ⟨fun m' hm' a id' ha hid' => ihnone a id' ?_, ihstopped⟩
      obtain rfl := Option.some.inj (hitem.symm.trans hm')
      exact (hruns a id').trans (if_pos ⟨ha, hid'⟩)
    · refine ihfailed.trans ?_
      have hkept : (∀ item' ∈ l, ∀ m', mgmtOf devices item'.1 = some m' →
            (stopSource name spec devices item.1 (healthy item.2) p).agents m'
              (flowId name item'.1) ≠ none) ↔
          ∀ item' ∈ l, ∀ m', mgmtOf devices item'.1 = some m' →
            p.agents m' (flowId name item'.1) ≠ none :=
        forall₂_congr fun item' _ => forall₂_congr fun m' _ => not_congr (hregistered _ _)
      rw [List.forall_mem_cons, hkept]
      refine (and_congr_left' hfailed).trans ?_
      rw [and_assoc]
      refine and_congr_right' (and_congr_left' ⟨fun h m' hm' => ?_, fun h => h m hitem⟩)
      obtain rfl := Option.some.inj (hitem.symm.trans hm')
      exact h

end Stop

/-! ## Once more -/

section Again

variable (name : String) (spec : Spec) (devices : DevicesInfo)

/-- A start on healthy agents after one that was interrupted has every flow of the spec. -/
def RetrySafe (i j : ℕ) (agents : Agents) (startTime : String) : Prop :=
  ∀ s ∈ spec.sourceDevices, FlowsRun name spec devices
    (createTrafficTest name spec devices startTime healthy
      (createTrafficTest name spec devices startTime (cut i j) agents).1.agents).1.agents s

/-- The flows of the test are registered on its own agents only. -/
def OwnFlows (agents : Agents) : Prop :=
  ∀ s ∈ spec.sourceDevices, ∀ a,
    (agents a (flowId name s) ≠ none →
      mgmtOf devices spec.destinationDevice = some a ∨ mgmtOf devices s = some a) ∧
    (agents a (reverseFlowId name s) ≠ none → spec.bidirectional.getD false = true ∧
      (mgmtOf devices spec.destinationDevice = some a ∨ mgmtOf devices s = some a))

/-- Stopping on healthy agents reports success and leaves nothing running. -/
def DeleteSafe (agents : Agents) : Prop :=
  (deleteTrafficTest name spec devices healthy agents).2 = .success ∧
    NothingRuns name spec (deleteTrafficTest name spec devices healthy agents).1

end Again

section Again

variable {name : String} {spec : Spec} {devices : DevicesInfo}

theorem retrySafe_of (h : Healthy spec devices) (hnames : ∀ s ∈ spec.sourceDevices, '_' ∉ s.toList)
    {agents : Agents} (hnothing : NothingRuns name spec agents) (i j : ℕ) (startTime : String) :
    RetrySafe name spec devices i j agents startTime ↔
      ¬(spec.bidirectional.getD false = true ∧ ∃ s ∈ spec.sourceDevices, Halfway spec i j s) := by
  have hsource : ∀ s ∈ spec.sourceDevices, FlowsRun name spec devices
        (createTrafficTest name spec devices startTime healthy
          (createTrafficTest name spec devices startTime (cut i j) agents).1.agents).1.agents s ↔
      ¬(spec.bidirectional.getD false = true ∧ Halfway spec i j s) := by
    intro s hs
    obtain ⟨d, m, hd, hm, hne⟩ := h.addresses s hs
    rw [agents_createTrafficTest h.complete, agents_createTrafficTest h.complete,
      flowsRun_iff h.complete hnames hs fun n _ => starts_of_answered h hs rfl rfl]
    exact equipped_iff h hs hd hm hne (interrupted_cut i j h hnames hnothing hs hd hm hne)
  unfold RetrySafe
  rw [forall₂_congr hsource]
  simp only [not_and, not_exists]
  exact ⟨fun hall hbi s hs => hall s hs hbi, fun hall s hs hbi => hall hbi s hs⟩

theorem deleteSafe_of (h : Healthy spec devices) {agents : Agents}
    (hown : OwnFlows name spec devices agents) :
    DeleteSafe name spec devices agents ↔
      ∀ s ∈ spec.sourceDevices, ∀ m, mgmtOf devices s = some m →
        agents m (flowId name s) ≠ none := by
  have hitem : ∀ item ∈ spec.sourceDevices.zipIdx, item.1 ∈ spec.sourceDevices :=
    fun item hitem => List.fst_mem_of_mem_zipIdx hitem
  have hall {P : String → Prop} : (∀ item ∈ spec.sourceDevices.zipIdx, P item.1) ↔
      ∀ s ∈ spec.sourceDevices, P s := by
    refine ⟨fun h s hs => ?_, fun h item hmem => h _ (hitem item hmem)⟩
    obtain ⟨n, hn⟩ := List.mem_iff_getElem?.1 hs
    exact h (s, n) (List.mk_mem_zipIdx_iff_getElem?.2 hn)
  cases hsources : spec.sourceDevices with
  | nil => simp [DeleteSafe, deleteTrafficTest, NothingRuns, hsources]
  | cons s₀ rest =>
    obtain ⟨d, -, hd, -, -⟩ := h.addresses s₀ (hsources ▸ List.mem_cons_self ..)
    have hmgmt : ∀ item ∈ spec.sourceDevices.zipIdx, mgmtOf devices item.1 ≠ none := by
      intro item hmem
      obtain ⟨-, m, -, hm, -⟩ := h.addresses _ (hitem item hmem)
      exact hm ▸ nofun
    obtain ⟨hnone, hstopped, hfailed⟩ :=
      @stopSources_spec name spec devices ⟨agents, []⟩ d _ hd hmgmt
    rw [← hsources]
    have hsuccess : (deleteTrafficTest name spec devices healthy agents).2 = .success ↔
        ∀ s ∈ spec.sourceDevices, ∀ m, mgmtOf devices s = some m →
          agents m (flowId name s) ≠ none := by
      rw [← hall]
      unfold deleteTrafficTest
      dsimp only
      split_ifs with hempty
      · exact iff_of_true rfl (hfailed.1 hempty).2
      · exact iff_of_false nofun fun h => hempty (hfailed.2 ⟨rfl, h⟩)
    refine ⟨fun hsafe => hsuccess.1 hsafe.1, fun hthere => ⟨hsuccess.2 hthere, fun s hs a => ?_⟩⟩
    obtain ⟨hforward, hreverse⟩ := hown s hs a
    have hstop := hall (P := fun s => ∀ m, mgmtOf devices s = some m → ∀ a id', (a = d ∨ a = m) →
      (id' = flowId name s ∨ (spec.bidirectional.getD false = true ∧
        id' = reverseFlowId name s)) → (deleteTrafficTest name spec devices healthy agents).1.runs a
          id' = none) |>.1 hstopped s hs
    obtain ⟨-, m, -, hm, -⟩ := h.addresses s hs
    have hwhere : (mgmtOf devices spec.destinationDevice = some a ∨ mgmtOf devices s = some a) →
        a = d ∨ a = m := by
      rw [hd, hm]
      exact Or.imp (fun h => (Option.some.inj h).symm) fun h => (Option.some.inj h).symm
    -- a flow that is not registered does not run
    have hgone {id : String} (hid : agents a id = none) :
        (deleteTrafficTest name spec devices healthy agents).1.runs a id = none :=
      hnone a id (runs_of_unregistered hid)
    constructor
    · by_cases hid : agents a (flowId name s) = none
      · exact hgone hid
      · exact hstop m hm a _ (hwhere (hforward hid)) (.inl rfl)
    · by_cases hid : agents a (reverseFlowId name s) = none
      · exact hgone hid
      · obtain ⟨hbi, hplace⟩ := hreverse hid
        exact hstop m hm a _ (hwhere hplace) (.inr ⟨hbi, rfl⟩)

/-- **Once more.** With healthy agents, a second start completes an interrupted one exactly if it
was not interrupted between the reverse listener and the reverse sender of a source, and stopping
succeeds exactly if the forward flow of every source is still registered at the source. -/
theorem again_iff (name : String) (spec : Spec) (devices : DevicesInfo)
    (h : Healthy spec devices) (hnames : ∀ s ∈ spec.sourceDevices, '_' ∉ s.toList)
    (startTime : String) (i j : ℕ) (agents agents' : Agents)
    (hnothing : NothingRuns name spec agents) (hown : OwnFlows name spec devices agents') :
    (RetrySafe name spec devices i j agents startTime ↔
      ¬(spec.bidirectional.getD false = true ∧
        ∃ s ∈ spec.sourceDevices, Halfway spec i j s)) ∧
    (DeleteSafe name spec devices agents' ↔
      ∀ s ∈ spec.sourceDevices, ∀ m, mgmtOf devices s = some m →
        agents' m (flowId name s) ≠ none) :=
  ⟨retrySafe_of h hnames hnothing i j startTime, deleteSafe_of h hown⟩

end Again

theorem oneSource_healthy : Healthy (oneSource true) oneSourceDevices where
  complete := by unfold Complete; decide
  addresses s hs := by
    obtain rfl := List.mem_singleton.1 hs
    exact ⟨"192.168.0.3", "192.168.0.2", rfl, rfl, by decide⟩
  ports s hs := by
    obtain rfl := List.mem_singleton.1 hs
    decide
  reversible _ s hs := by
    obtain rfl := List.mem_singleton.1 hs
    exact ⟨_, rfl, nofun, nofun⟩

theorem oneSource_again :
    (RetrySafe "bw" (oneSource true) oneSourceDevices 0 1 noFlows "12:00" ↔
      ¬((oneSource true).bidirectional.getD false = true ∧
        ∃ s ∈ (oneSource true).sourceDevices, Halfway (oneSource true) 0 1 s)) ∧
    (DeleteSafe "bw" (oneSource true) oneSourceDevices noFlows ↔
      ∀ s ∈ (oneSource true).sourceDevices, ∀ m, mgmtOf oneSourceDevices s = some m →
        noFlows m (flowId "bw" s) ≠ none) :=
  again_iff "bw" _ _ oneSource_healthy (by decide) "12:00" 0 1 noFlows noFlows
    (fun _ _ _ => ⟨rfl, rfl⟩) fun _ _ _ => ⟨fun h => absurd rfl h, fun h => absurd rfl h⟩

/-- The listener of the forward flow runs, and the flow of the source is gone. -/
def onlyListener : Agents := fun address id =>
  if address = "192.168.0.3" ∧ id = "bw_cpe1" then some ⟨.destination, true⟩ else none

/-- After three of four requests the sender is never started, and without the flow of the source
stopping fails. -/
theorem not_again : ¬RetrySafe "bw" (oneSource true) oneSourceDevices 0 3 noFlows "12:00" ∧
    (deleteTrafficTest "bw" (oneSource false) oneSourceDevices healthy onlyListener).2 =
      .failure "Failed to delete: cpe1(src)" := by
  refine ⟨fun h => ?_, rfl⟩
  obtain ⟨d, m, hd, -, -, -, hreverse⟩ := h "cpe1" (List.mem_singleton_self _)
  obtain rfl := Option.some.inj (hd : some "192.168.0.3" = some d)
  have hsender := (hreverse rfl).2
  exact Option.some_ne_none _ (hsender.symm.trans rfl)

end GnnSandbox.Operator.Traffic
