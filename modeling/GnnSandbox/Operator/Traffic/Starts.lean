import GnnSandbox.Operator.Traffic.Flows

/-!
# What a start leaves running

A call of `create_traffic_test` only ever adds flows. If it reports that every source has failed,
then nothing runs only if nothing ran before and no request has reached an agent. If it reports
success, a source that is not named may still lack its listener, when the destination has no
management address, and it may lack its reverse flows, whose errors are only logged and whose
sender is not asked for once the listener answers that it is running.
-/

namespace GnnSandbox.Operator.Traffic

/-! ## Names -/

theorem flowId_inj {name s s' : String} (h : flowId name s = flowId name s') : s = s' :=
  String.append_right_inj _ |>.1 h

theorem reverseFlowId_inj {name s s' : String} (h : reverseFlowId name s = reverseFlowId name s') :
    s = s' :=
  flowId_inj (String.append_left_inj _ |>.1 h)

/-- Device resources have no underscore in their names. -/
theorem flowId_ne_reverse {name s s' : String} (h : '_' ∉ s.toList) :
    flowId name s ≠ reverseFlowId name s' := by
  intro heq
  have hs : s = s' ++ "_rev" := by
    refine String.append_right_inj (name ++ "_") |>.1 ?_
    rw [← String.append_assoc]
    exact heq
  exact h (by rw [hs, String.toList_append]; simp)

/-! ## Flows stay -/

/-- Every flow that runs runs on. -/
def Agents.Extends (agents agents' : Agents) : Prop :=
  ∀ a id role, agents.runs a id = some role → agents'.runs a id = some role

/-- Nothing changes under an id. -/
def Agents.SameFor (id : String) (agents agents' : Agents) : Prop :=
  ∀ a, agents'.runs a id = agents.runs a id

section Post

variable {delivery : Delivery} {address flowId : String} {role : Role} {port : ℤ}
  {agents agents' agents'' : Agents}

theorem Agents.Extends.trans (h : agents.Extends agents') (h' : agents'.Extends agents'') :
    agents.Extends agents'' :=
  fun a id role hrole => h' a id role (h a id role hrole)

theorem Agents.Extends.refl : agents.Extends agents := fun _ _ _ h => h

theorem extends_post : agents.Extends (agents.post delivery address flowId role port).1 := by
  intro a id role' h
  rw [runs_post]
  split_ifs with hcell
  · obtain ⟨⟨rfl, rfl⟩, -⟩ := hcell
    rw [h, Option.some_or]
  · exact h

theorem sameFor_post {id : String} (h : id ≠ flowId) :
    Agents.SameFor id agents (agents.post delivery address flowId role port).1 := by
  intro a
  rw [runs_post, if_neg fun hcell => h hcell.1.2]

theorem runs_post_ne_none (hport : port ≠ 0) (hreached : delivery ≠ .unreached) :
    (agents.post delivery address flowId role port).1.runs address flowId ≠ none := by
  rw [runs_post, if_pos ⟨⟨rfl, rfl⟩, hport, hreached⟩]
  cases agents.runs address flowId <;> nofun

/-- A request that does not reach the agent. -/
theorem post_untouched (h : port = 0 ∨ delivery = .unreached) :
    (agents.post delivery address flowId role port).1 = agents := by
  rcases h with rfl | rfl
  · cases delivery <;> first | rfl | exact Function.update_eq_self address agents
  · rfl

end Post

/-! ## Conditions -/

section Conditions

variable (spec : Spec) (devices : DevicesInfo) (δ : Stage → Delivery) (source : String)

def portOf : Option ℤ := (devices.lookup source).bind (·.port)

/-- No key is missing. -/
def Complete : Prop :=
  (devices.lookup spec.destinationDevice).isSome ∧
    ∀ s ∈ spec.sourceDevices, (portOf devices s).isSome

/-- Both requests for the forward flow are answered; without an address of the destination there
is one. -/
def Starts : Prop :=
  mgmtOf devices source ≠ none ∧ portOf devices source ≠ some 0 ∧ δ .source = .answered ∧
    (mgmtOf devices spec.destinationDevice ≠ none → δ .destination = .answered)

instance : Decidable (Starts spec devices δ source) := by unfold Starts; infer_instance

/-- No request for the source reaches an agent. -/
def Untouched : Prop :=
  portOf devices source = some 0 ∨
    if mgmtOf devices spec.destinationDevice ≠ none then δ .destination = .unreached
    else mgmtOf devices source = none ∨ δ .source = .unreached

/-- There are a port and an address for the reverse flow. -/
def Reversible : Prop :=
  ∃ info ∈ devices.lookup source, info.reversePort.filter (· ≠ 0) ≠ none ∧
    info.ip.filter (· ≠ "") ≠ none

end Conditions

/-- What one round makes of the flows of a reverse listener and a reverse sender. -/
def reverseStep (δ : Stage → Delivery) (cells : Option Role × Option Role) :
    Option Role × Option Role :=
  if δ .reverseDestination = .unreached then cells
  else (cells.1.or (some .destination),
    if cells.1 = none ∧ δ .reverseDestination = .answered ∧ δ .reverseSource ≠ .unreached then
      cells.2.or (some .source)
    else cells.2)

/-! ## One source -/

section Source

variable {name : String} {spec : Spec} {devices : DevicesInfo} {source : String}
  {info : DeviceInfo} {port : ℤ} {δ : Stage → Delivery} {agents : Agents} {p : Progress}

/-- Without an address of the destination only the source is asked. -/
theorem startForward_of_none (hd : mgmtOf devices spec.destinationDevice = none) :
    startForward name spec devices source info port δ agents =
      match info.mgmt with
      | none => (agents, false)
      | some m => ((agents.post (δ .source) m (flowId name source) .source port).1,
          decide (δ .source = .answered ∧ port ≠ 0)) := by
  unfold startForward
  rw [hd]
  cases info.mgmt with
  | none => rfl
  | some m =>
    refine Prod.ext rfl (Bool.eq_iff_iff.2 ?_)
    rw [decide_eq_true_eq]
    exact accepted_post

theorem startForward_of_some {d : String} (hd : mgmtOf devices spec.destinationDevice = some d) :
    startForward name spec devices source info port δ agents =
      let agents' := (agents.post (δ .destination) d (flowId name source) .destination port).1
      if δ .destination = .answered ∧ port ≠ 0 then
        match info.mgmt with
        | none => (agents', false)
        | some m => ((agents'.post (δ .source) m (flowId name source) .source port).1,
            decide (δ .source = .answered ∧ port ≠ 0))
      else (agents', false) := by
  unfold startForward
  rw [hd]
  dsimp only
  by_cases hanswered : δ .destination = .answered ∧ port ≠ 0
  · rw [if_pos (accepted_post.2 hanswered), if_pos hanswered]
    cases info.mgmt with
    | none => rfl
    | some m =>
      refine Prod.ext rfl (Bool.eq_iff_iff.2 ?_)
      rw [decide_eq_true_eq]
      exact accepted_post
  · rw [if_neg fun h => hanswered (accepted_post.1 h), if_neg hanswered]
    exact Prod.ext rfl (Bool.eq_false_iff.2 fun h => hanswered (accepted_post.1 h))

theorem extends_startForward :
    agents.Extends (startForward name spec devices source info port δ agents).1 := by
  cases hd : mgmtOf devices spec.destinationDevice with
  | none =>
    rw [startForward_of_none hd]
    cases info.mgmt with
    | none => exact .refl
    | some m => exact extends_post
  | some d =>
    rw [startForward_of_some hd]
    dsimp only
    split_ifs
    · cases info.mgmt with
      | none => exact extends_post
      | some m => exact extends_post.trans extends_post
    · exact extends_post

theorem sameFor_startForward {id : String} (h : id ≠ flowId name source) :
    Agents.SameFor id agents (startForward name spec devices source info port δ agents).1 := by
  cases hd : mgmtOf devices spec.destinationDevice with
  | none =>
    rw [startForward_of_none hd]
    cases info.mgmt with
    | none => exact fun _ => rfl
    | some m => exact sameFor_post h
  | some d =>
    rw [startForward_of_some hd]
    dsimp only
    split_ifs
    · cases info.mgmt with
      | none => exact sameFor_post h
      | some m => exact fun a => (sameFor_post h a).trans (sameFor_post h a)
    · exact sameFor_post h

theorem extends_startReverse :
    agents.Extends (startReverse name spec devices source info δ agents) := by
  unfold startReverse
  split
  · dsimp only
    split_ifs
    · cases mgmtOf devices spec.destinationDevice with
      | none => exact extends_post
      | some d => exact extends_post.trans extends_post
    · exact extends_post
  · exact .refl

theorem sameFor_startReverse {id : String} (h : id ≠ reverseFlowId name source) :
    Agents.SameFor id agents (startReverse name spec devices source info δ agents) := by
  unfold startReverse
  split
  · dsimp only
    split_ifs
    · cases mgmtOf devices spec.destinationDevice with
      | none => exact sameFor_post h
      | some d => exact fun a => (sameFor_post h a).trans (sameFor_post h a)
    · exact sameFor_post h
  · exact fun _ => rfl

theorem extends_startSource :
    p.agents.Extends (startSource name spec devices source info port δ p).agents := by
  unfold startSource
  dsimp only
  split_ifs <;> first
    | exact extends_startForward.trans extends_startReverse
    | exact extends_startForward

theorem sameFor_startSource {id : String} (h : id ≠ flowId name source)
    (hr : id ≠ reverseFlowId name source) :
    Agents.SameFor id p.agents (startSource name spec devices source info port δ p).agents := by
  have hforward := @sameFor_startForward name spec devices source info port δ p.agents id h
  unfold startSource
  dsimp only
  split_ifs <;> first
    | exact fun a => (sameFor_startReverse hr a).trans (hforward a)
    | exact hforward

section Known

variable (hinfo : devices.lookup source = some info) (hport : info.port = some port)

include hinfo

theorem mgmtOf_eq : mgmtOf devices source = info.mgmt := by rw [mgmtOf, hinfo, Option.bind_some]

theorem portOf_eq (hport : info.port = some port) : portOf devices source = some port := by
  rw [portOf, hinfo, Option.bind_some, hport]

include hport

theorem started_iff : (startForward name spec devices source info port δ agents).2 = true ↔
    Starts spec devices δ source := by
  unfold Starts
  rw [mgmtOf_eq hinfo, portOf_eq hinfo hport]
  cases hd : mgmtOf devices spec.destinationDevice with
  | none =>
    rw [startForward_of_none hd]
    cases info.mgmt with
    | none => simp
    | some m => simp [and_comm]
  | some d =>
    rw [startForward_of_some hd]
    by_cases hanswered : δ .destination = .answered ∧ port ≠ 0
    · obtain ⟨hdest, hne⟩ := hanswered
      cases info.mgmt with
      | none => simp [hdest, hne]
      | some m => simp [hdest, hne]
    · simp only [if_neg hanswered, Bool.false_eq_true, false_iff]
      rintro ⟨-, hne, -, hdest⟩
      exact hanswered ⟨hdest nofun, fun h => hne (congrArg some h)⟩

theorem failed_startSource : (startSource name spec devices source info port δ p).failedSources =
    if Starts spec devices δ source then p.failedSources else p.failedSources ++ [source] :=
  if_congr (started_iff hinfo hport) rfl rfl

/-- A source that is untouched changes nothing. -/
theorem startSource_untouched (h : Untouched spec devices δ source) :
    (startSource name spec devices source info port δ p).agents = p.agents := by
  have hfails : ¬Starts spec devices δ source := by
    rintro ⟨hmgmt, hne, hsource, hdest⟩
    rcases h with hzero | h
    · exact hne hzero
    · split_ifs at h with hd
      · exact Delivery.noConfusion (h.symm.trans (hdest hd))
      · rcases h with hnone | h
        · exact hmgmt hnone
        · exact Delivery.noConfusion (h.symm.trans hsource)
  have hforward : (startForward name spec devices source info port δ p.agents).1 = p.agents := by
    unfold Untouched at h
    rw [portOf_eq hinfo hport, mgmtOf_eq hinfo, Option.some_inj] at h
    cases hd : mgmtOf devices spec.destinationDevice with
    | none =>
      rw [startForward_of_none hd]
      cases hm : info.mgmt with
      | none => rfl
      | some m => exact post_untouched (h.imp_right fun h => by simpa [hd, hm] using h)
    | some d =>
      have hdest : port = 0 ∨ δ .destination = .unreached :=
        h.imp_right fun h => by simpa [hd] using h
      have hrefused : ¬(δ .destination = .answered ∧ port ≠ 0) := by
        rintro ⟨hanswered, hne⟩
        rcases hdest with hzero | hunreached
        · exact hne hzero
        · exact Delivery.noConfusion (hunreached.symm.trans hanswered)
      rw [startForward_of_some hd]
      simp only [if_neg hrefused]
      exact post_untouched hdest
  have hfailed : source ∈ (startSource name spec devices source info port δ p).failedSources := by
    rw [failed_startSource hinfo hport, if_neg hfails]
    exact List.mem_append_right _ (List.mem_singleton_self source)
  unfold startSource at hfailed ⊢
  dsimp only at hfailed ⊢
  rw [if_neg fun h => h.2 hfailed, hforward]

/-- A source that is touched leaves a flow. -/
theorem startSource_touched (h : ¬Untouched spec devices δ source) :
    ∃ a, (startSource name spec devices source info port δ p).agents.runs a
      (flowId name source) ≠ none := by
  have hforward : ∃ a, (startForward name spec devices source info port δ p.agents).1.runs a
      (flowId name source) ≠ none := by
    unfold Untouched at h
    rw [portOf_eq hinfo hport, mgmtOf_eq hinfo, Option.some_inj, not_or] at h
    obtain ⟨hne, h⟩ := h
    cases hd : mgmtOf devices spec.destinationDevice with
    | none =>
      rw [startForward_of_none hd]
      rw [hd, if_neg (by simp), not_or] at h
      cases hm : info.mgmt with
      | none => exact absurd hm h.1
      | some m => exact ⟨m, runs_post_ne_none hne h.2⟩
    | some d =>
      rw [startForward_of_some hd]
      rw [hd, if_pos nofun] at h
      have hdest := @runs_post_ne_none (δ .destination) d (flowId name source) .destination port
        p.agents hne h
      refine ⟨d, ?_⟩
      dsimp only
      split_ifs
      · cases info.mgmt with
        | none => exact hdest
        | some m =>
          obtain ⟨role, hrole⟩ := Option.ne_none_iff_exists'.1 hdest
          exact Option.ne_none_iff_exists'.2 ⟨role, extends_post _ _ _ hrole⟩
      · exact hdest
  obtain ⟨a, ha⟩ := hforward
  obtain ⟨role, hrole⟩ := Option.ne_none_iff_exists'.1 ha
  refine ⟨a, Option.ne_none_iff_exists'.2 ⟨role, ?_⟩⟩
  unfold startSource
  dsimp only
  split_ifs <;> first
    | exact hrole
    | exact extends_startReverse _ _ _ hrole

end Known

end Source

/-! ## The loop -/

section Loop

variable {name : String} {spec : Spec} {devices : DevicesInfo} {δ : Deliveries}
  {l : List (String × ℕ)} {p : Progress}

/-- The loop ends at the first source that lacks a key. -/
theorem snd_startSources : (startSources name spec devices δ l p).2 = none ↔
    ∀ item ∈ l, (portOf devices item.1).isSome := by
  induction l generalizing p with
  | nil => simp [startSources]
  | cons item l ih =>
    unfold startSources
    rw [List.forall_mem_cons, portOf]
    cases hinfo : devices.lookup item.1 with
    | none => simp
    | some info =>
      cases hport : info.port with
      | none => simp [hport]
      | some port =>
        simp only [Option.bind_some, hport, Option.isSome_some, true_and]
        exact ih

theorem exists_info {source : String} (h : (portOf devices source).isSome) :
    ∃ info port, devices.lookup source = some info ∧ info.port = some port := by
  obtain ⟨port, hport⟩ := Option.isSome_iff_exists.1 h
  obtain ⟨info, hinfo, hport⟩ := Option.bind_eq_some_iff.1 hport
  exact ⟨info, port, hinfo, hport⟩

/-- One round of the loop. -/
theorem startSources_cons {item : String × ℕ} {info : DeviceInfo} {port : ℤ}
    (hinfo : devices.lookup item.1 = some info) (hport : info.port = some port) :
    startSources name spec devices δ (item :: l) p = startSources name spec devices δ l
      (startSource name spec devices item.1 info port (δ item.2) p) := by
  conv_lhs => unfold startSources
  rw [hinfo]
  dsimp only
  rw [hport]

theorem extends_startSources (hkeys : ∀ item ∈ l, (portOf devices item.1).isSome) :
    p.agents.Extends (startSources name spec devices δ l p).1.agents := by
  induction l generalizing p with
  | nil => exact .refl
  | cons item l ih =>
    rw [List.forall_mem_cons] at hkeys
    obtain ⟨info, port, hinfo, hport⟩ := exists_info hkeys.1
    rw [startSources_cons hinfo hport]
    exact extends_startSource.trans (ih hkeys.2)

/-- `failed_sources` lists the sources that do not start. -/
theorem failed_startSources (hkeys : ∀ item ∈ l, (portOf devices item.1).isSome) :
    (startSources name spec devices δ l p).1.failedSources = p.failedSources ++
      (l.filter fun item => ¬Starts spec devices (δ item.2) item.1).map Prod.fst := by
  induction l generalizing p with
  | nil => simp [startSources]
  | cons item l ih =>
    rw [List.forall_mem_cons] at hkeys
    obtain ⟨info, port, hinfo, hport⟩ := exists_info hkeys.1
    rw [startSources_cons hinfo hport, ih hkeys.2, failed_startSource hinfo hport]
    by_cases hstarts : Starts spec devices (δ item.2) item.1 <;> simp [hstarts]

theorem startSources_untouched (hkeys : ∀ item ∈ l, (portOf devices item.1).isSome)
    (h : ∀ item ∈ l, Untouched spec devices (δ item.2) item.1) :
    (startSources name spec devices δ l p).1.agents = p.agents := by
  induction l generalizing p with
  | nil => rfl
  | cons item l ih =>
    rw [List.forall_mem_cons] at hkeys h
    obtain ⟨info, port, hinfo, hport⟩ := exists_info hkeys.1
    rw [startSources_cons hinfo hport, ih hkeys.2 h.2, startSource_untouched hinfo hport h.1]

theorem startSources_touched (hkeys : ∀ item ∈ l, (portOf devices item.1).isSome)
    (h : ∃ item ∈ l, ¬Untouched spec devices (δ item.2) item.1) :
    ∃ item ∈ l, ∃ a, (startSources name spec devices δ l p).1.agents.runs a
      (flowId name item.1) ≠ none := by
  induction l generalizing p with
  | nil => simp at h
  | cons item l ih =>
    rw [List.forall_mem_cons] at hkeys
    obtain ⟨info, port, hinfo, hport⟩ := exists_info hkeys.1
    rw [startSources_cons hinfo hport]
    by_cases hitem : Untouched spec devices (δ item.2) item.1
    · obtain ⟨item', hmem, hnot⟩ := h
      rcases List.mem_cons.1 hmem with rfl | hmem
      · exact absurd hitem hnot
      · obtain ⟨found, hfound, hruns⟩ := ih hkeys.2 ⟨item', hmem, hnot⟩
        exact ⟨found, List.mem_cons_of_mem _ hfound, hruns⟩
    · obtain ⟨a, ha⟩ := startSource_touched (p := p) hinfo hport hitem
      obtain ⟨role, hrole⟩ := Option.ne_none_iff_exists'.1 ha
      exact ⟨item, List.mem_cons_self .., a,
        Option.ne_none_iff_exists'.2 ⟨role, extends_startSources hkeys.2 _ _ _ hrole⟩⟩

end Loop

/-! ## The flows of one source -/

section Flows

variable {name : String} {spec : Spec} {devices : DevicesInfo} {δ : Deliveries}
  {l : List (String × ℕ)} {p : Progress} {source d m : String} {info : DeviceInfo} {port : ℤ}

/-- A source that starts has its two flows. -/
theorem runs_startForward {δ : Stage → Delivery} {agents : Agents}
    (hinfo : devices.lookup source = some info) (hport : info.port = some port)
    (hd : mgmtOf devices spec.destinationDevice = some d) (hm : info.mgmt = some m) (hne : d ≠ m)
    (h : Starts spec devices δ source) :
    (startForward name spec devices source info port δ agents).1.runs d (flowId name source) =
        (agents.runs d (flowId name source)).or (some .destination) ∧
      (startForward name spec devices source info port δ agents).1.runs m (flowId name source) =
        (agents.runs m (flowId name source)).or (some .source) := by
  obtain ⟨-, hzero, hsource, hdest⟩ := h
  rw [portOf_eq hinfo hport] at hzero
  have hport' : port ≠ 0 := fun h => hzero (congrArg some h)
  have hanswered := hdest (hd ▸ nofun)
  rw [startForward_of_some hd, if_pos ⟨hanswered, hport'⟩, hm]
  simp only [runs_post, hne, hne.symm, false_and, and_self, hport', hsource, hanswered, ne_eq,
    not_false_eq_true, reduceCtorEq, if_true, if_false]

theorem startReverse_of_not {δ : Stage → Delivery} {agents : Agents}
    (hinfo : devices.lookup source = some info) (h : ¬Reversible devices source) :
    startReverse name spec devices source info δ agents = agents := by
  unfold startReverse
  split
  · rename_i port ip address hport hip hm
    exact absurd ⟨info, hinfo, hport ▸ nofun, hip ▸ nofun⟩ h
  · rfl

/-- The reverse flows after a round. -/
theorem runs_startReverse {δ : Stage → Delivery} {agents : Agents}
    (hinfo : devices.lookup source = some info) (hrev : Reversible devices source)
    (hd : mgmtOf devices spec.destinationDevice = some d) (hm : info.mgmt = some m) (hne : d ≠ m) :
    ((startReverse name spec devices source info δ agents).runs m (reverseFlowId name source),
        (startReverse name spec devices source info δ agents).runs d (reverseFlowId name source)) =
      reverseStep δ (agents.runs m (reverseFlowId name source),
        agents.runs d (reverseFlowId name source)) := by
  obtain ⟨info', hinfo', hport, hip⟩ := hrev
  obtain rfl := Option.some.inj (hinfo.symm.trans hinfo')
  obtain ⟨port, hport⟩ := Option.ne_none_iff_exists'.1 hport
  obtain ⟨ip, hip⟩ := Option.ne_none_iff_exists'.1 hip
  have hzero : port ≠ 0 := by
    obtain ⟨-, h⟩ := Option.filter_eq_some_iff.1 hport
    simpa using h
  unfold startReverse reverseStep
  rw [hport, hip, hm, hd]
  dsimp only
  by_cases hreached : δ .reverseDestination = .unreached
  · rw [if_pos hreached, if_neg fun h => Delivery.noConfusion
      (hreached.symm.trans (success_post.1 h).1), post_untouched (.inr hreached)]
  · rw [if_neg hreached]
    have hlistener (a : String) := @runs_post (δ .reverseDestination) m (reverseFlowId name source)
      .destination port agents a (reverseFlowId name source)
    by_cases hsuccess : δ .reverseDestination = .answered ∧
        agents.runs m (reverseFlowId name source) = none
    · rw [if_pos (success_post.2 ⟨hsuccess.1, hzero, hsuccess.2⟩)]
      simp only [runs_post, hne, hne.symm, hzero, hsuccess.1, hsuccess.2, false_and, and_self,
        true_and, ne_eq, not_false_eq_true, reduceCtorEq, if_true, if_false]
    · rw [if_neg fun h => hsuccess ⟨(success_post.1 h).1, (success_post.1 h).2.2⟩]
      have hsender : ¬(agents.runs m (reverseFlowId name source) = none ∧
          δ .reverseDestination = .answered ∧ δ .reverseSource ≠ .unreached) :=
        fun h => hsuccess ⟨h.2.1, h.1⟩
      rw [if_neg hsender, hlistener m, hlistener d]
      simp only [hne, hreached, hzero, false_and, and_self, ne_eq, not_false_eq_true, if_true,
        if_false]

/-- A round for another source. -/
theorem sameFor_other {source' : String} {δ : Stage → Delivery} (hname : '_' ∉ source.toList)
    (hname' : '_' ∉ source'.toList) (hne : source ≠ source') :
    Agents.SameFor (flowId name source) p.agents
        (startSource name spec devices source' info port δ p).agents ∧
      Agents.SameFor (reverseFlowId name source) p.agents
        (startSource name spec devices source' info port δ p).agents :=
  ⟨sameFor_startSource (fun h => hne (flowId_inj h)) (flowId_ne_reverse hname),
    sameFor_startSource (flowId_ne_reverse hname').symm fun h => hne (reverseFlowId_inj h)⟩

/-- A round of a source that starts. -/
theorem runs_startSource {δ : Stage → Delivery} (hname : '_' ∉ source.toList)
    (hinfo : devices.lookup source = some info) (hport : info.port = some port)
    (hd : mgmtOf devices spec.destinationDevice = some d) (hm : info.mgmt = some m) (hne : d ≠ m)
    (h : Starts spec devices δ source) :
    (startSource name spec devices source info port δ p).agents.runs d (flowId name source) =
        (p.agents.runs d (flowId name source)).or (some .destination) ∧
      (startSource name spec devices source info port δ p).agents.runs m (flowId name source) =
        (p.agents.runs m (flowId name source)).or (some .source) := by
  obtain ⟨hdest, hsource⟩ :=
    @runs_startForward name spec devices source d m info port δ p.agents hinfo hport hd hm hne h
  rw [← hdest, ← hsource]
  have hsame (agents : Agents) : Agents.SameFor (flowId name source) agents
      (startReverse name spec devices source info δ agents) :=
    sameFor_startReverse (flowId_ne_reverse hname)
  unfold startSource
  dsimp only
  split_ifs <;> first
    | exact ⟨hsame _ d, hsame _ m⟩
    | exact ⟨rfl, rfl⟩

/-- The rounds of a source. -/
def rounds (l : List (String × ℕ)) (source : String) : List ℕ :=
  (l.filter fun item => item.1 = source).map (·.2)

theorem mem_rounds {n : ℕ} : n ∈ rounds l source ↔ (source, n) ∈ l := by
  simp only [rounds, List.mem_map, List.mem_filter, decide_eq_true_eq]
  constructor
  · rintro ⟨⟨s, n⟩, ⟨hmem, rfl⟩, rfl⟩
    exact hmem
  · intro h
    exact ⟨(source, n), ⟨h, rfl⟩, rfl⟩

theorem mem_rounds_zipIdx {sources : List String} {n : ℕ} :
    n ∈ rounds sources.zipIdx source ↔ sources[n]? = some source := by
  rw [mem_rounds, List.mk_mem_zipIdx_iff_getElem?]

theorem rounds_eq_nil_iff {sources : List String} :
    rounds sources.zipIdx source = [] ↔ source ∉ sources := by
  rw [List.eq_nil_iff_forall_not_mem, List.mem_iff_getElem?, not_exists]
  exact forall_congr' fun n => not_congr mem_rounds_zipIdx

/-- After the loop, a source that has started in each of its rounds has its two flows. -/
theorem runs_startSources (hkeys : ∀ item ∈ l, (portOf devices item.1).isSome)
    (hnames : ∀ item ∈ l, '_' ∉ item.1.toList) (hname : '_' ∉ source.toList)
    (hd : mgmtOf devices spec.destinationDevice = some d) (hm : mgmtOf devices source = some m)
    (hne : d ≠ m) (h : ∀ n ∈ rounds l source, Starts spec devices (δ n) source) :
    (startSources name spec devices δ l p).1.agents.runs d (flowId name source) =
        (if rounds l source = [] then p.agents.runs d (flowId name source)
          else (p.agents.runs d (flowId name source)).or (some .destination)) ∧
      (startSources name spec devices δ l p).1.agents.runs m (flowId name source) =
        (if rounds l source = [] then p.agents.runs m (flowId name source)
          else (p.agents.runs m (flowId name source)).or (some .source)) := by
  induction l generalizing p with
  | nil => exact ⟨rfl, rfl⟩
  | cons item l ih =>
    obtain ⟨source', n⟩ := item
    rw [List.forall_mem_cons] at hkeys hnames
    obtain ⟨info, port, hinfo, hport⟩ := exists_info hkeys.1
    rw [startSources_cons hinfo hport]
    by_cases hsame : source' = source
    · subst hsame
      have hrounds : rounds ((source', n) :: l) source' = n :: rounds l source' := by simp [rounds]
      rw [hrounds, List.forall_mem_cons] at h
      rw [mgmtOf_eq hinfo] at hm
      obtain ⟨hdest, hsource⟩ := @runs_startSource name spec devices p source' d m info port (δ n)
        hname hinfo hport hd hm hne h.1
      obtain ⟨ihd, ihm⟩ := @ih (startSource name spec devices source' info port (δ n) p) hkeys.2
        hnames.2 h.2
      rw [ihd, ihm, hrounds, if_neg (List.cons_ne_nil _ _), if_neg (List.cons_ne_nil _ _), hdest,
        hsource, Option.or_assoc, Option.or_assoc, Option.or_self, Option.or_self, ite_self, ite_self]
      exact ⟨rfl, rfl⟩
    · have hrounds : rounds ((source', n) :: l) source = rounds l source := by
        simp [rounds, hsame]
      rw [hrounds] at h ⊢
      obtain ⟨hforward, -⟩ := @sameFor_other name spec devices p source info port source' (δ n)
        hname hnames.1 (fun h => hsame h.symm)
      obtain ⟨ihd, ihm⟩ := @ih (startSource name spec devices source' info port (δ n) p) hkeys.2
        hnames.2 h
      rw [ihd, ihm, hforward d, hforward m]
      exact ⟨rfl, rfl⟩

/-- The reverse flows after the loop, for a source that has started in each of its rounds. -/
theorem reverse_startSources {f : (Stage → Delivery) → Option Role × Option Role →
      Option Role × Option Role}
    (hround : ∀ info, devices.lookup source = some info → ∀ δ agents,
      ((startReverse name spec devices source info δ agents).runs m (reverseFlowId name source),
          (startReverse name spec devices source info δ agents).runs d (reverseFlowId name source)) =
        f δ (agents.runs m (reverseFlowId name source), agents.runs d (reverseFlowId name source)))
    (hkeys : ∀ item ∈ l, (portOf devices item.1).isSome)
    (hnames : ∀ item ∈ l, '_' ∉ item.1.toList) (hname : '_' ∉ source.toList)
    (hbi : spec.bidirectional.getD false = true) (hfailed : source ∉ p.failedSources)
    (h : ∀ n ∈ rounds l source, Starts spec devices (δ n) source) :
    ((startSources name spec devices δ l p).1.agents.runs m (reverseFlowId name source),
        (startSources name spec devices δ l p).1.agents.runs d (reverseFlowId name source)) =
      (rounds l source).foldl (fun cells n => f (δ n) cells)
        (p.agents.runs m (reverseFlowId name source),
          p.agents.runs d (reverseFlowId name source)) := by
  induction l generalizing p with
  | nil => rfl
  | cons item l ih =>
    obtain ⟨source', n⟩ := item
    rw [List.forall_mem_cons] at hkeys hnames
    obtain ⟨info, port, hinfo, hport⟩ := exists_info hkeys.1
    rw [startSources_cons hinfo hport]
    have hsources := @failed_startSource name spec devices source' info port (δ n) p hinfo hport
    by_cases hsame : source' = source
    · subst hsame
      have hrounds : rounds ((source', n) :: l) source' = n :: rounds l source' := by simp [rounds]
      rw [hrounds, List.forall_mem_cons] at h
      rw [if_pos h.1] at hsources
      have hafter : (startSource name spec devices source' info port (δ n) p).agents =
          startReverse name spec devices source' info (δ n)
            (startForward name spec devices source' info port (δ n) p.agents).1 := by
        unfold startSource at hsources ⊢
        dsimp only at hsources ⊢
        rw [hsources, if_pos ⟨hbi, hfailed⟩]
      have hforward := @sameFor_startForward name spec devices source' info port (δ n) p.agents
        (reverseFlowId name source') (flowId_ne_reverse hname).symm
      rw [ih hkeys.2 hnames.2 (hsources ▸ hfailed) h.2, hafter, hround info hinfo, hforward m,
        hforward d, hrounds, List.foldl_cons]
    · have hrounds : rounds ((source', n) :: l) source = rounds l source := by
        simp [rounds, hsame]
      rw [hrounds] at h ⊢
      obtain ⟨-, hreverse⟩ := @sameFor_other name spec devices p source info port source' (δ n)
        hname hnames.1 (fun h => hsame h.symm)
      have hkept : source ∉ (startSource name spec devices source' info port (δ n) p).failedSources := by
        rw [hsources]
        split_ifs
        · exact hfailed
        · simp [hfailed, Ne.symm hsame]
      rw [ih hkeys.2 hnames.2 hkept h, hreverse m, hreverse d]

end Flows

/-- A listener that runs is not started again. -/
theorem foldl_reverseStep_some {δ : Deliveries} {ns : List ℕ} {role : Role} {sender : Option Role} :
    ns.foldl (fun cells n => reverseStep (δ n) cells) (some role, sender) =
      (some role, sender) := by
  induction ns with
  | nil => rfl
  | cons n ns ih =>
    rw [List.foldl_cons]
    have hstep : reverseStep (δ n) (some role, sender) = (some role, sender) := by
      unfold reverseStep
      split_ifs <;> first | rfl | simp_all
    rw [hstep, ih]

/-- Both reverse flows run in the end if they ran before, or if the first round whose listener is
reached goes on to the sender. -/
theorem foldl_reverseStep_iff {δ : Deliveries} {ns : List ℕ} {listener sender : Option Role} :
    ns.foldl (fun cells n => reverseStep (δ n) cells) (listener, sender) =
        (some .destination, some .source) ↔
      (listener = some .destination ∧ sender = some .source) ∨
        (listener = none ∧ ∃ n, ns.find? (fun n => δ n .reverseDestination ≠ .unreached) = some n ∧
          (sender = some .source ∨ (sender = none ∧ δ n .reverseDestination = .answered ∧
            δ n .reverseSource ≠ .unreached))) := by
  cases listener with
  | some role => simp [foldl_reverseStep_some]
  | none =>
    induction ns with
    | nil => simp
    | cons n ns ih =>
      rw [List.foldl_cons, List.find?_cons]
      by_cases hreached : δ n .reverseDestination = .unreached
      · simpa [reverseStep, hreached] using ih
      · have hstep : reverseStep (δ n) (none, sender) = (some .destination,
            if δ n .reverseDestination = .answered ∧ δ n .reverseSource ≠ .unreached then
              sender.or (some .source) else sender) := by
          simp [reverseStep, hreached]
        rw [hstep, foldl_reverseStep_some]
        simp only [hreached, ne_eq, not_false_eq_true, decide_true, Option.some.injEq,
          Prod.mk.injEq, true_and, reduceCtorEq, false_and, false_or, exists_eq_left']
        cases sender with
        | none => split_ifs with h <;> simp [h]
        | some role => split_ifs <;> simp

/-! ## What a start promises -/

section Promise

variable (name : String) (spec : Spec) (devices : DevicesInfo) (δ : Deliveries) (agents : Agents)

/-- No agent runs a flow of the test. -/
def NothingRuns : Prop :=
  ∀ s ∈ spec.sourceDevices, ∀ a,
    agents.runs a (flowId name s) = none ∧ agents.runs a (reverseFlowId name s) = none

/-- The flows of a source run, each on its agent. -/
def FlowsRun (source : String) : Prop :=
  ∃ d m, mgmtOf devices spec.destinationDevice = some d ∧ mgmtOf devices source = some m ∧
    agents.runs d (flowId name source) = some .destination ∧
    agents.runs m (flowId name source) = some .source ∧
    (spec.bidirectional.getD false = true →
      agents.runs m (reverseFlowId name source) = some .destination ∧
        agents.runs d (reverseFlowId name source) = some .source)

/-- A start that fails leaves nothing running, and one that succeeds has the flows of every source
that is not named as failed. -/
def Promised (startTime : String) : Prop :=
  match createTrafficTest name spec devices startTime δ agents with
  | (p, .failure _) => NothingRuns name spec p.agents
  | (p, .success _) => ∀ s ∈ spec.sourceDevices, s ∉ p.failedSources →
      FlowsRun name spec devices p.agents s
  | (_, .raises _) => True

/-! ## When it keeps the promise -/

/-- The reverse flows ran before, or the first round whose listener is reached gets an answer and
reaches the sender. -/
def ReverseStarts (source d m : String) : Prop :=
  (agents.runs m (reverseFlowId name source) = some .destination ∧
      agents.runs d (reverseFlowId name source) = some .source) ∨
    (Reversible devices source ∧ agents.runs m (reverseFlowId name source) = none ∧
      ∃ n, (rounds spec.sourceDevices.zipIdx source).find?
          (fun n => δ n .reverseDestination ≠ .unreached) = some n ∧
        (agents.runs d (reverseFlowId name source) = some .source ∨
          (agents.runs d (reverseFlowId name source) = none ∧
            δ n .reverseDestination = .answered ∧ δ n .reverseSource ≠ .unreached)))

/-- The source and the destination have management addresses of their own, none of the forward
flows runs in the other's role, and the reverse flows start. -/
def Equipped (source : String) : Prop :=
  ∃ d m, mgmtOf devices spec.destinationDevice = some d ∧ mgmtOf devices source = some m ∧ d ≠ m ∧
    agents.runs d (flowId name source) ≠ some .source ∧
    agents.runs m (flowId name source) ≠ some .destination ∧
    (spec.bidirectional.getD false = true → ReverseStarts name spec devices δ agents source d m)

/-- No source starts. -/
def AllFail : Prop :=
  spec.sourceDevices ≠ [] ∧
    ∀ item ∈ spec.sourceDevices.zipIdx, ¬Starts spec devices (δ item.2) item.1

end Promise

section Promise

variable {name : String} {spec : Spec} {devices : DevicesInfo} {δ : Deliveries} {agents : Agents}

theorem or_destination_iff {role : Option Role} :
    role.or (some .destination) = some .destination ↔ role ≠ some .source := by
  rcases role with _ | _ | _ <;> simp

theorem or_source_iff {role : Option Role} :
    role.or (some .source) = some .source ↔ role ≠ some .destination := by
  rcases role with _ | _ | _ <;> simp

/-- The reverse flows in the end. -/
theorem reverse_iff {source d m : String} (hcomplete : Complete spec devices)
    (hnames : ∀ s ∈ spec.sourceDevices, '_' ∉ s.toList) (hs : source ∈ spec.sourceDevices)
    (hd : mgmtOf devices spec.destinationDevice = some d) (hm : mgmtOf devices source = some m)
    (hne : d ≠ m) (hbi : spec.bidirectional.getD false = true)
    (h : ∀ n ∈ rounds spec.sourceDevices.zipIdx source, Starts spec devices (δ n) source) :
    ((startSources name spec devices δ spec.sourceDevices.zipIdx ⟨agents, []⟩).1.agents.runs m
          (reverseFlowId name source) = some .destination ∧
        (startSources name spec devices δ spec.sourceDevices.zipIdx ⟨agents, []⟩).1.agents.runs d
          (reverseFlowId name source) = some .source) ↔
      ReverseStarts name spec devices δ agents source d m := by
  have hitem : ∀ item ∈ spec.sourceDevices.zipIdx, item.1 ∈ spec.sourceDevices :=
    fun item hitem => List.fst_mem_of_mem_zipIdx hitem
  have hloop {f} (hround) := @reverse_startSources name spec devices δ spec.sourceDevices.zipIdx
    ⟨agents, []⟩ source d m f hround (fun item h => hcomplete.2 _ (hitem item h))
    (fun item h => hnames _ (hitem item h)) (hnames source hs) hbi (List.not_mem_nil) h
  unfold ReverseStarts
  rw [← Prod.mk.injEq]
  by_cases hrev : Reversible devices source
  · rw [hloop fun info hinfo δ agents => runs_startReverse hinfo hrev hd
      ((mgmtOf_eq hinfo).symm.trans hm) hne, foldl_reverseStep_iff]
    simp only [hrev, true_and]
  · rw [hloop (f := fun _ cells => cells) fun info hinfo δ agents => by
      rw [startReverse_of_not hinfo hrev], List.foldl_fixed, Prod.mk.injEq]
    simp only [hrev, false_and, or_false]

/-- A source that has started in each of its rounds has its flows exactly if it is equipped. -/
theorem flowsRun_iff {source : String} (hcomplete : Complete spec devices)
    (hnames : ∀ s ∈ spec.sourceDevices, '_' ∉ s.toList) (hs : source ∈ spec.sourceDevices)
    (h : ∀ n ∈ rounds spec.sourceDevices.zipIdx source, Starts spec devices (δ n) source) :
    FlowsRun name spec devices
        (startSources name spec devices δ spec.sourceDevices.zipIdx ⟨agents, []⟩).1.agents source ↔
      Equipped name spec devices δ agents source := by
  have hitem : ∀ item ∈ spec.sourceDevices.zipIdx, item.1 ∈ spec.sourceDevices :=
    fun item hitem => List.fst_mem_of_mem_zipIdx hitem
  have hrounds : rounds spec.sourceDevices.zipIdx source ≠ [] :=
    fun hnil => rounds_eq_nil_iff.1 hnil hs
  refine exists_congr fun d => exists_congr fun m => ⟨?_, ?_⟩
  · rintro ⟨hd, hm, hdest, hsource, hreverse⟩
    have hne : d ≠ m := by
      rintro rfl
      exact Role.noConfusion (Option.some.inj (hdest.symm.trans hsource))
    obtain ⟨hruns, hruns'⟩ := @runs_startSources name spec devices δ spec.sourceDevices.zipIdx
      ⟨agents, []⟩ source d m (fun item h => hcomplete.2 _ (hitem item h))
      (fun item h => hnames _ (hitem item h)) (hnames source hs) hd hm hne h
    rw [hruns, if_neg hrounds, or_destination_iff] at hdest
    rw [hruns', if_neg hrounds, or_source_iff] at hsource
    exact ⟨hd, hm, hne, hdest, hsource, fun hbi =>
      (reverse_iff hcomplete hnames hs hd hm hne hbi h).1 (hreverse hbi)⟩
  · rintro ⟨hd, hm, hne, hdest, hsource, hreverse⟩
    obtain ⟨hruns, hruns'⟩ := @runs_startSources name spec devices δ spec.sourceDevices.zipIdx
      ⟨agents, []⟩ source d m (fun item h => hcomplete.2 _ (hitem item h))
      (fun item h => hnames _ (hitem item h)) (hnames source hs) hd hm hne h
    rw [← or_destination_iff] at hdest
    rw [← or_source_iff] at hsource
    refine ⟨hd, hm, ?_, ?_, fun hbi =>
      (reverse_iff hcomplete hnames hs hd hm hne hbi h).2 (hreverse hbi)⟩
    · rw [hruns, if_neg hrounds, hdest]
    · rw [hruns', if_neg hrounds, hsource]

/-- Nothing runs in the end if nothing ran before and no request reached an agent. -/
theorem nothingRuns_iff (hcomplete : Complete spec devices) :
    NothingRuns name spec
        (startSources name spec devices δ spec.sourceDevices.zipIdx ⟨agents, []⟩).1.agents ↔
      NothingRuns name spec agents ∧
        ∀ item ∈ spec.sourceDevices.zipIdx, Untouched spec devices (δ item.2) item.1 := by
  have hitem : ∀ item ∈ spec.sourceDevices.zipIdx, item.1 ∈ spec.sourceDevices :=
    fun item hitem => List.fst_mem_of_mem_zipIdx hitem
  have hkeys : ∀ item ∈ spec.sourceDevices.zipIdx, (portOf devices item.1).isSome :=
    fun item h => hcomplete.2 _ (hitem item h)
  constructor
  · intro h
    have hextends := @extends_startSources name spec devices δ _ ⟨agents, []⟩ hkeys
    refine ⟨fun s hs a => ⟨?_, ?_⟩, fun item hmem => ?_⟩
    · refine Option.eq_none_iff_forall_ne_some.2 fun role hrole => ?_
      exact Option.some_ne_none role ((hextends _ _ _ hrole).symm.trans (h s hs a).1)
    · refine Option.eq_none_iff_forall_ne_some.2 fun role hrole => ?_
      exact Option.some_ne_none role ((hextends _ _ _ hrole).symm.trans (h s hs a).2)
    · by_contra hnot
      obtain ⟨found, hfound, a, ha⟩ := @startSources_touched name spec devices δ _ ⟨agents, []⟩
        hkeys ⟨item, hmem, hnot⟩
      exact ha (h found.1 (hitem found hfound) a).1
  · rintro ⟨hnothing, huntouched⟩
    rw [startSources_untouched hkeys huntouched]
    exact hnothing

theorem failed_iff_allFail (hcomplete : Complete spec devices) :
    ((startSources name spec devices δ spec.sourceDevices.zipIdx ⟨agents, []⟩).1.failedSources ≠ [] ∧
      (startSources name spec devices δ spec.sourceDevices.zipIdx ⟨agents, []⟩).1.failedSources.length =
        spec.sourceDevices.length) ↔ AllFail spec devices δ := by
  rw [failed_startSources fun item h => hcomplete.2 _ (List.fst_mem_of_mem_zipIdx h),
    List.nil_append, List.length_map, ← @List.length_zipIdx _ spec.sourceDevices 0]
  unfold AllFail
  constructor
  · rintro ⟨hne, hlength⟩
    refine ⟨fun h => hne (by rw [h]; rfl), fun item hmem => ?_⟩
    simpa using List.length_filter_eq_length_iff.1 hlength item hmem
  · rintro ⟨hne, hall⟩
    have hfilter : spec.sourceDevices.zipIdx.filter
        (fun item => ¬Starts spec devices (δ item.2) item.1) = spec.sourceDevices.zipIdx :=
      List.filter_eq_self.2 fun item hmem => decide_eq_true (hall item hmem)
    rw [hfilter]
    refine ⟨fun h => hne ?_, rfl⟩
    simpa using h

end Promise

/-- **Starts.** With the names of devices, a start keeps its promise exactly in these cases: a key
is missing; or every source fails, nothing of the test ran before and no request reaches an agent;
or some source starts, and every source that starts in all its rounds is equipped. -/
theorem promised_iff (name : String) (spec : Spec) (devices : DevicesInfo) (δ : Deliveries)
    (agents : Agents) (startTime : String) (hnames : ∀ s ∈ spec.sourceDevices, '_' ∉ s.toList) :
    Promised name spec devices δ agents startTime ↔
      (Complete spec devices →
        (AllFail spec devices δ → NothingRuns name spec agents ∧
          ∀ item ∈ spec.sourceDevices.zipIdx, Untouched spec devices (δ item.2) item.1) ∧
        (¬AllFail spec devices δ → ∀ s ∈ spec.sourceDevices,
          (∀ n ∈ rounds spec.sourceDevices.zipIdx s, Starts spec devices (δ n) s) →
            Equipped name spec devices δ agents s)) := by
  have hitem : ∀ item ∈ spec.sourceDevices.zipIdx, item.1 ∈ spec.sourceDevices :=
    fun item hitem => List.fst_mem_of_mem_zipIdx hitem
  by_cases hcomplete : Complete spec devices
  · have hkeys : ∀ item ∈ spec.sourceDevices.zipIdx, (portOf devices item.1).isSome :=
      fun item h => hcomplete.2 _ (hitem item h)
    have hdest : ¬(devices.lookup spec.destinationDevice).isNone = true := by
      rw [Option.isNone_iff_eq_none]
      exact Option.isSome_iff_ne_none.1 hcomplete.1
    have hrun : startSources name spec devices δ spec.sourceDevices.zipIdx ⟨agents, []⟩ =
        ((startSources name spec devices δ spec.sourceDevices.zipIdx ⟨agents, []⟩).1, none) :=
      Prod.ext rfl (snd_startSources.2 hkeys)
    have hfailed := @failed_iff_allFail name spec devices δ agents hcomplete
    unfold Promised createTrafficTest
    rw [if_neg hdest, hrun]
    dsimp only
    by_cases hall : AllFail spec devices δ
    · rw [if_pos (hfailed.2 hall)]
      simp only [hcomplete, hall, true_imp_iff, not_true, false_imp_iff, and_true]
      exact nothingRuns_iff hcomplete
    · rw [if_neg fun h => hall (hfailed.1 h)]
      simp only [hcomplete, hall, true_imp_iff, not_false_eq_true, false_imp_iff, true_and]
      refine forall₂_congr fun s hs => ?_
      rw [failed_startSources hkeys, List.nil_append]
      have hnamed : (s ∉ (spec.sourceDevices.zipIdx.filter
            fun item => ¬Starts spec devices (δ item.2) item.1).map Prod.fst) ↔
          ∀ n ∈ rounds spec.sourceDevices.zipIdx s, Starts spec devices (δ n) s := by
        simp [mem_rounds]
      rw [hnamed]
      exact forall_congr' fun hstarts => flowsRun_iff hcomplete hnames hs hstarts
  · simp only [hcomplete, false_imp_iff, iff_true]
    unfold Promised createTrafficTest
    by_cases hdest : (devices.lookup spec.destinationDevice).isNone = true
    · rw [if_pos hdest]
      trivial
    · have hkeys : ¬∀ item ∈ spec.sourceDevices.zipIdx, (portOf devices item.1).isSome := by
        intro hkeys
        refine hcomplete ⟨by simpa [Option.isSome_iff_ne_none] using hdest, fun s hs => ?_⟩
        obtain ⟨n, hn, hget⟩ := List.mem_iff_getElem.1 hs
        exact hkeys (s, n) (List.mk_mem_zipIdx_iff_getElem?.2 (hget ▸ List.getElem?_eq_getElem hn))
      rw [if_neg hdest]
      cases hrun : startSources name spec devices δ spec.sourceDevices.zipIdx ⟨agents, []⟩ with
      | mk p key =>
        cases key with
        | none => exact absurd (snd_startSources.1 (congrArg Prod.snd hrun)) hkeys
        | some key => trivial

/-- A test with one source. -/
def oneSource (bidirectional : Bool) : Spec where
  vpnRef := "l3vpn-blue"
  sourceDevices := ["cpe1"]
  destinationDevice := "hub"
  bidirectional := some bidirectional

def oneSourceDevices : DevicesInfo :=
  (AList.singleton "cpe1" { ready := some true, ip := some "10.1.0.2", mgmtIp := some "192.168.0.2",
                            port := some 5201, reversePort := some 5202 }).insert "hub"
    { ready := some true, ip := some "10.2.0.2", mgmtIp := some "192.168.0.3" }

/-- No flow is registered on any agent. -/
def noFlows : Agents := fun _ _ => none

theorem oneSource_promised :
    Promised "bw" (oneSource true) oneSourceDevices (fun _ _ => .answered) noFlows "12:00" := by
  refine (promised_iff _ _ _ _ _ _ (by decide)).2 fun hcomplete => ⟨fun hall => ?_, fun _ s hs _ => ?_⟩
  · exact absurd hall (by unfold AllFail; decide)
  · obtain rfl := List.mem_singleton.1 hs
    exact ⟨"192.168.0.3", "192.168.0.2", rfl, rfl, by decide, nofun, nofun, fun _ =>
      .inr ⟨⟨_, rfl, nofun, nofun⟩, rfl, 0, rfl, .inr ⟨rfl, rfl, nofun⟩⟩⟩

/-- The source cannot be reached: the start fails, and the listener runs. -/
theorem listener_left_running :
    (createTrafficTest "bw" (oneSource false) oneSourceDevices "12:00"
        (fun _ stage => if stage = .source then .unreached else .answered) noFlows).2 =
      .failure "All source devices failed to start: cpe1" ∧
    ¬Promised "bw" (oneSource false) oneSourceDevices
      (fun _ stage => if stage = .source then .unreached else .answered) noFlows "12:00" := by
  refine ⟨rfl, fun h => ?_⟩
  have hruns : (createTrafficTest "bw" (oneSource false) oneSourceDevices "12:00"
      (fun _ stage => if stage = .source then .unreached else .answered) noFlows).1.agents.runs
        "192.168.0.3" (flowId "bw" "cpe1") = some .destination := rfl
  have hnothing := (h "cpe1" (List.mem_singleton_self _) "192.168.0.3").1
  exact Option.some_ne_none _ (hruns.symm.trans hnothing)

end GnnSandbox.Operator.Traffic
