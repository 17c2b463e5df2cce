import GnnSandbox.Operator.Playbooks

/-!
# Is the restoration the inverse of the injection?

The header of `failure_restore` calls it the exact inverse of `failure_inject`. `restored_iff` says
for each type of failure from which states it is: the interface was up, the neighbor had nothing
but its AS, the address family imported the one target, and so on.
-/

namespace GnnSandbox.Operator.Playbook

open Fault (Kind Spec given)

/-! ## When a failure is undone -/

/-- What the restart of bgpd brings back is what was there. -/
def Router.Saved (r : Router) : Restart → Prop
  | .nothing => r.bgp = none
  | .bgpd => r.bgp = some r.startup.bgp
  | .frr => r.bgp = some r.startup.bgp ∧ r.ospf = r.startup.ospf

/-- The router runs a BGP instance for the VRF. -/
def Host.Runs (h : Host) (router vrf : String) (b : Bgp) : Prop :=
  ∃ r instances, h.routers router = some r ∧ r.bgp = some instances ∧ instances vrf = some b

/-- The state before an injection is such that the restoration brings it back. -/
def Restorable (t : Tools) (v : InjectVars) (h : Host) : Prop :=
  match v.failureType with
  | .unknown _ => True
  | .known .mtuMismatch => ∃ l, (Host.link v.router v.interface).get? h = some l ∧
      t.mtu l.mtu = true ∧ (t.captures = true ∨ l.mtu = 1500)
  | .known .bgpSessionDown => ∃ b peer, h.Runs v.router (bgpVrf v.vrf) b ∧
      t.peer v.peerIp = some peer ∧ b.neighbors peer = some ⟨v.remoteAs, []⟩
  | .known .processCrash =>
    if v.method = "process_kill" then ∀ r, h.routers v.router = some r → r.Saved t.restart
    else if v.method = "loopback_disable" then
      ∃ l, (Host.link v.router "lo").get? h = some l ∧ l.up = true
    else True
  | .known .packetCorruption =>
    ∃ l, (Host.link v.router v.interface).get? h = some l ∧ l.root = none
  | .known .linkDown =>
    if v.linkDownMode = "interface" then
      ∃ l, (Host.link v.router v.interface).get? h = some l ∧ l.up = true
    else h.bridges v.bridge = some true
  | .known .ospfAreaMismatch => ∃ o area, (Host.ospf v.router v.interface).get? h = some o ∧
      o.area = some area ∧ t.area v.correctArea = some area
  | .known .duplicateIp => True
  | .known .txqueueStarvation => ∃ l, (Host.link v.router v.interface).get? h = some l ∧
      (t.captures = true ∨ l.txqueuelen = 1000)
  | .known .ospfCostInflation => ∃ r cost, h.routers v.router = some r ∧
      (r.ospf v.interface).cost = some cost ∧
        (cost.val : ℤ) = if t.captures then readCost (t.showOspfInterface r v.interface) else 1
  | .known .vrfRtMisconfiguration => ∃ b correct wrong, h.Runs v.router v.vrf b ∧
      t.routeTarget v.correctRt = some correct ∧ t.routeTarget v.wrongRt = some wrong ∧
        if t.noAddressFamily then b.ipv4Unicast = ⟨{correct}, []⟩
        else correct ∈ b.ipv4Unicast.imports ∧ (wrong ∈ b.ipv4Unicast.imports → wrong = correct)

section

variable {t : Tools} {h h' : Host} {router interface : String} {c : LinkChange}

/-! ## Tasks -/

theorem runTasks_cons (task : Task) (tasks : List Task) (h : Host) :
    runTasks t (task :: tasks) h =
      if (task.command.exec t h).2 || task.ignoreErrors then
        runTasks t tasks (task.command.exec t h).1
      else none := rfl

theorem runTasks_checked {command : Command} {changed : Option Host} {tasks : List Task}
    (hexec : command.exec t h = attempt h changed) :
    runTasks t (⟨command, false⟩ :: tasks) h = changed.bind (runTasks t tasks) := by
  rw [runTasks_cons, hexec]
  cases changed with
  | none => exact if_neg Bool.false_ne_true
  | some h' => exact if_pos rfl

theorem runTasks_ignored {command : Command} {changed : Option Host} {tasks : List Task}
    (hexec : command.exec t h = attempt h changed) :
    runTasks t (⟨command, true⟩ :: tasks) h = runTasks t tasks (changed.getD h) := by
  rw [runTasks_cons, hexec]
  exact if_pos (Bool.or_true _)

theorem runTasks_last {command : Command} {changed : Option Host}
    (hexec : command.exec t h = attempt h changed) :
    runTasks t [⟨command, false⟩] h = changed := by
  rw [runTasks_checked hexec]
  cases changed <;> rfl

theorem exec_link (hname : interface ≠ "") :
    (Command.link router interface c).exec t h =
      attempt h ((Host.link router interface).change (c.apply t) h) :=
  congrArg (attempt h) (if_neg hname)

theorem exec_ospf (hname : interface ≠ "") (line : OspfLine) :
    (Command.ospf router interface line).exec t h =
      attempt h ((Host.ospf router interface).change (line.apply t) h) :=
  congrArg (attempt h) (if_neg hname)

/-! Without the name of an interface a command fails. -/

theorem exec_link_unnamed : (Command.link router "" c).exec t h = attempt h none := rfl

theorem exec_ospf_unnamed (line : OspfLine) :
    (Command.ospf router "" line).exec t h = attempt h none := rfl

theorem exec_bridge_unnamed (up : Bool) :
    (Command.bridge "" up).exec t h = attempt h none := rfl

theorem name_ne_of_link {tasks : List Task}
    (hrun : runTasks t (⟨.link router interface c, false⟩ :: tasks) h = some h') :
    interface ≠ "" := by
  rintro rfl
  rw [runTasks_checked exec_link_unnamed] at hrun
  cases hrun

theorem name_ne_of_ospf {tasks : List Task} {line : OspfLine}
    (hrun : runTasks t (⟨.ospf router interface line, false⟩ :: tasks) h = some h') :
    interface ≠ "" := by
  rintro rfl
  rw [runTasks_checked (exec_ospf_unnamed line)] at hrun
  cases hrun

/-! ## Interfaces -/

/-- **A change of an interface is undone** by the change that takes its result back. -/
theorem undo_link (hrun : runTasks t [⟨.link router interface c, false⟩] h = some h')
    (c' : LinkChange) : ∃ l l', (Host.link router interface).get? h = some l ∧
      c.apply t l = some l' ∧
        (runTasks t [⟨.link router interface c', false⟩] h' = some h ↔ c'.apply t l' = some l) := by
  have hname := name_ne_of_link hrun
  rw [runTasks_last (exec_link hname)] at hrun
  obtain ⟨l, l', hget, hl, -⟩ := StatePart.change_eq_some_iff.mp hrun
  refine ⟨l, l', hget, hl, ?_⟩
  rw [runTasks_last (exec_link hname)]
  exact StatePart.change_undoes_iff hget hl hrun _

theorem exists_get_iff {α : Type} {o : Option α} {a : α} {P : α → Prop} (h : o = some a) :
    (∃ b, o = some b ∧ P b) ↔ P a := by
  subst h
  simp

theorem undo_mtu {n m : ℤ}
    (hrun : runTasks t [⟨.link router interface (.mtu n), false⟩] h = some h') :
    runTasks t [⟨.link router interface (.mtu m), false⟩] h' = some h ↔
      ∃ l, (Host.link router interface).get? h = some l ∧ t.mtu m = true ∧ m.toNat = l.mtu := by
  obtain ⟨l, l', hget, hl, hundo⟩ := undo_link hrun (.mtu m)
  obtain ⟨-, hl⟩ := Option.ite_none_right_eq_some.mp hl
  obtain rfl := Option.some.inj hl
  rw [hundo, exists_get_iff hget]
  refine Option.ite_none_right_eq_some.trans (and_congr_right fun _ => ?_)
  rw [Option.some.injEq]
  exact ⟨congrArg Link.mtu, fun heq => by rw [heq]⟩

theorem undo_down (hrun : runTasks t [⟨.link router interface .down, false⟩] h = some h') :
    runTasks t [⟨.link router interface .up, false⟩] h' = some h ↔
      ∃ l, (Host.link router interface).get? h = some l ∧ l.up = true := by
  obtain ⟨l, l', hget, hl, hundo⟩ := undo_link hrun .up
  obtain rfl := Option.some.inj hl
  rw [hundo, exists_get_iff hget]
  refine Option.some_inj.trans ⟨fun heq => (congrArg Link.up heq).symm, fun hup => ?_⟩
  dsimp only
  rw [← hup]

theorem undo_txqueuelen {n m : ℤ}
    (hrun : runTasks t [⟨.link router interface (.txqueuelen n), false⟩] h = some h') :
    runTasks t [⟨.link router interface (.txqueuelen m), false⟩] h' = some h ↔
      ∃ l, (Host.link router interface).get? h = some l ∧
        (0 ≤ m ∧ m < UInt32.size) ∧ UInt32.ofNat m.toNat = l.txqueuelen := by
  obtain ⟨l, l', hget, hl, hundo⟩ := undo_link hrun (.txqueuelen m)
  obtain ⟨-, hl⟩ := Option.ite_none_right_eq_some.mp hl
  obtain rfl := Option.some.inj hl
  rw [hundo, exists_get_iff hget]
  refine Option.ite_none_right_eq_some.trans (and_congr_right fun _ => ?_)
  rw [Option.some.injEq]
  exact ⟨congrArg Link.txqueuelen, fun heq => by rw [heq]⟩

/-- The address that an injection adds was not there, and its removal leaves the others. -/
theorem undo_address {text : String}
    (hrun : runTasks t [⟨.link router interface (.addAddress text), false⟩] h = some h') :
    runTasks t [⟨.link router interface (.delAddress text), true⟩] h' = some h := by
  have hname := name_ne_of_link hrun
  obtain ⟨l, l', hget, hl, hundo⟩ := undo_link hrun (.delAddress text)
  obtain ⟨a, ha, hl⟩ := Option.bind_eq_some_iff.mp hl
  obtain ⟨hnew, hl⟩ := Option.ite_none_left_eq_some.mp hl
  obtain rfl := Option.some.inj hl
  have hdel : (LinkChange.delAddress text).apply t { l with addresses := l.addresses ++ [a] } =
      some l := by
    refine Option.bind_eq_some_iff.mpr ⟨a, ha, ?_⟩
    rw [if_pos (by simp), List.erase_append_right _ hnew, List.erase_cons_head, List.append_nil]
  have hchange := hundo.mpr hdel
  rw [runTasks_last (exec_link hname)] at hchange
  rw [runTasks_ignored (exec_link hname), hchange]
  rfl

/-- The root qdisc is gone after its deletion, with which a playbook goes on in any case. -/
theorem clear_root {l : Link} (hget : (Host.link router interface).get? h = some l) :
    ((Host.link router interface).change (LinkChange.delRoot.apply t) h).getD h =
      (Host.link router interface).set { l with root := none } h := by
  unfold StatePart.change
  rw [hget, Option.bind_some]
  by_cases hroot : l.root = none
  · have hsame : { l with root := none } = l := by rw [← hroot]
    have hdel : LinkChange.delRoot.apply t l = none := if_pos hroot
    rw [hsame, StatePart.set_get? _ hget, hdel]
    rfl
  · have hdel : LinkChange.delRoot.apply t l = some { l with root := none } := if_neg hroot
    rw [hdel]
    rfl

theorem undo_netem {rate : String} (hrun : runTasks t [⟨.link router interface .delRoot, true⟩,
      ⟨.link router interface (.addNetem rate), false⟩] h = some h') :
    runTasks t [⟨.link router interface .delRoot, true⟩] h' = some h ↔
      ∃ l, (Host.link router interface).get? h = some l ∧ l.root = none := by
  have hname : interface ≠ "" := by
    rintro rfl
    rw [runTasks_ignored exec_link_unnamed, runTasks_last exec_link_unnamed] at hrun
    cases hrun
  rw [runTasks_ignored (exec_link hname), runTasks_last (exec_link hname)] at hrun
  rw [runTasks_ignored (exec_link hname)]
  obtain ⟨l, hget⟩ : ∃ l, (Host.link router interface).get? h = some l := by
    refine Option.ne_none_iff_exists'.mp fun hnone => ?_
    unfold StatePart.change at hrun
    rw [hnone, Option.bind_none, Option.getD_none, hnone] at hrun
    cases hrun
  rw [clear_root hget] at hrun
  obtain ⟨l₁, l₂, hget₁, hl, rfl⟩ := StatePart.change_eq_some_iff.mp hrun
  obtain rfl := Option.some.inj ((StatePart.get?_set _ _ hget).symm.trans hget₁)
  obtain ⟨-, hl⟩ := Option.ite_none_right_eq_some.mp hl
  obtain rfl := Option.some.inj hl
  rw [StatePart.set_set, clear_root (StatePart.get?_set _ _ hget), StatePart.set_set,
    exists_get_iff hget]
  refine Option.some_inj.trans ((StatePart.set_eq_self_iff hget).trans ?_)
  exact ⟨fun heq => (congrArg Link.root heq).symm, fun hroot => by rw [← hroot]⟩

/-! ## OSPF -/

theorem undo_area {correct wrong : String} (hrun : runTasks t
      [⟨.ospf router interface (.noArea correct), false⟩,
        ⟨.ospf router interface (.area wrong), false⟩] h = some h') :
    runTasks t [⟨.ospf router interface (.noArea wrong), false⟩,
        ⟨.ospf router interface (.area correct), false⟩] h' = some h ↔
      ∃ o area, (Host.ospf router interface).get? h = some o ∧ o.area = some area ∧
        t.area correct = some area := by
  have hname := name_ne_of_ospf hrun
  have hboth : ∀ (a b : OspfLine) (h : Host), runTasks t
      [⟨.ospf router interface a, false⟩, ⟨.ospf router interface b, false⟩] h =
        (Host.ospf router interface).change (fun o => (a.apply t o).bind (b.apply t)) h := by
    intro a b h
    rw [runTasks_checked (exec_ospf hname a), ← StatePart.change_bind]
    exact congrArg _ (funext fun h => runTasks_last (exec_ospf hname b))
  rw [hboth] at hrun
  obtain ⟨o, o', hget, ho, -⟩ := StatePart.change_eq_some_iff.mp hrun
  rw [hboth, StatePart.change_undoes_iff hget ho hrun]
  obtain ⟨o₁, ho₁, ho⟩ := Option.bind_eq_some_iff.mp ho
  obtain ⟨id, hid, ho₁⟩ := Option.bind_eq_some_iff.mp ho₁
  obtain ⟨-, ho₁⟩ := Option.ite_none_left_eq_some.mp ho₁
  obtain rfl := Option.some.inj ho₁
  obtain ⟨other, hother, ho⟩ := Option.bind_eq_some_iff.mp ho
  obtain rfl : { o with area := some other } = o' := Option.some.inj ho
  have hundo : ((OspfLine.noArea wrong).apply t { o with area := some other }).bind
      ((OspfLine.area correct).apply t) = some { o with area := some id } := by
    refine Option.bind_eq_some_iff.mpr ⟨{ o with area := none }, ?_, ?_⟩
    · exact Option.bind_eq_some_iff.mpr ⟨other, hother, rfl⟩
    · exact Option.bind_eq_some_iff.mpr ⟨id, hid, rfl⟩
  rw [hundo, Option.some.injEq]
  constructor
  · intro heq
    exact ⟨o, id, hget, (congrArg OspfInterface.area heq).symm, hid⟩
  · rintro ⟨o', id', hget', harea, hid'⟩
    obtain rfl := Option.some.inj (hget.symm.trans hget')
    rw [← hid, hid'.trans harea.symm]

theorem undo_cost {n m : ℤ}
    (hrun : runTasks t [⟨.ospf router interface (.cost n), false⟩] h = some h') :
    runTasks t [⟨.ospf router interface (.cost m), false⟩] h' = some h ↔
      ∃ r cost, h.routers router = some r ∧ (r.ospf interface).cost = some cost ∧
        (cost.val : ℤ) = m := by
  have hname := name_ne_of_ospf hrun
  rw [runTasks_last (exec_ospf hname _)] at hrun
  obtain ⟨o, o', hget, ho, -⟩ := StatePart.change_eq_some_iff.mp hrun
  rw [runTasks_last (exec_ospf hname _), StatePart.change_undoes_iff hget ho hrun]
  obtain ⟨r, hr, hro⟩ := Option.bind_eq_some_iff.mp hget
  obtain rfl := Option.some.inj hro
  obtain ⟨hn, ho⟩ := Option.dite_none_right_eq_some.mp ho
  obtain rfl := Option.some.inj ho
  refine Option.dite_none_right_eq_some.trans ?_
  constructor
  · rintro ⟨hm, heq⟩
    refine ⟨r, ⟨m.toNat, hm⟩, hr, (congrArg OspfInterface.cost (Option.some.inj heq)).symm, ?_⟩
    exact Int.toNat_of_nonneg (by omega)
  · rintro ⟨r', cost, hr', hcost, rfl⟩
    obtain rfl := Option.some.inj (hr.symm.trans hr')
    refine ⟨cost.property, congrArg some ?_⟩
    change { r.ospf interface with cost := some cost } = r.ospf interface
    rw [← hcost]

/-! ## Bridges and processes -/

theorem undo_bridge {name : String} (hrun : runTasks t [⟨.bridge name false, false⟩] h = some h') :
    name ≠ "" ∧ (runTasks t [⟨.bridge name true, false⟩] h' = some h ↔
      h.bridges name = some true) := by
  have hname : name ≠ "" := by
    rintro rfl
    rw [runTasks_last (exec_bridge_unnamed false)] at hrun
    cases hrun
  have hexec : ∀ up h, (Command.bridge name up).exec t h =
      attempt h ((Host.bridge name).change (fun _ => some up) h) :=
    fun up h => congrArg (attempt h) (if_neg hname)
  rw [runTasks_last (hexec false h)] at hrun
  obtain ⟨up, up', hget, hup, -⟩ := StatePart.change_eq_some_iff.mp hrun
  rw [runTasks_last (hexec true h'), StatePart.change_undoes_iff hget hup hrun]
  refine ⟨hname, ?_⟩
  change _ ↔ (Host.bridge name).get? h = some true
  rw [hget, Option.some.injEq, Option.some.injEq, eq_comm]

/-- The restart after the end of bgpd. -/
theorem restart_eq_self_iff (restart : Restart) (r : Router) :
    restart.apply { r with bgp := none } = r ↔ r.Saved restart := by
  obtain ⟨links, ospf, bgp, startup⟩ := r
  cases restart with
  | nothing =>
    exact ⟨fun h => (congrArg Router.bgp h).symm, fun h => congrArg (Router.mk _ _ · _) h.symm⟩
  | bgpd =>
    exact ⟨fun h => (congrArg Router.bgp h).symm, fun h => congrArg (Router.mk _ _ · _) h.symm⟩
  | frr =>
    refine ⟨fun h => ⟨(congrArg Router.bgp h).symm, (congrArg Router.ospf h).symm⟩, fun h => ?_⟩
    exact congrArg₂ (Router.mk _ · · _) h.2.symm h.1.symm

theorem undo_kill (hrun : runTasks t [⟨.killBgpd router, true⟩] h = some h') :
    runTasks t [⟨.restartBgpd router, true⟩] h' = some h ↔
      ∀ r, h.routers router = some r → r.Saved t.restart := by
  rw [runTasks_ignored rfl] at hrun
  rw [runTasks_ignored rfl]
  obtain rfl := Option.some.inj hrun
  have hend : ∀ h, runTasks t [] h = some h := fun _ => rfl
  have hchange : ∀ (f : Router → Option Router) (h : Host),
      (Host.router router).change f h = (h.routers router).bind fun r =>
        (f r).map fun r => (Host.router router).set r h := fun _ _ => rfl
  rw [hend, hchange, hchange, Option.some.injEq]
  cases hr : h.routers router with
  | none =>
    rw [Option.bind_none, Option.getD_none, hr, Option.bind_none, Option.getD_none]
    exact iff_of_true rfl fun r h => by cases h
  | some r =>
    have hget : ((Host.router router).set { r with bgp := none } h).routers router =
        some { r with bgp := none } := (Host.router router).get?_set _ hr
    dsimp only [Option.bind_some, Option.map_some, Option.getD_some]
    rw [hget]
    dsimp only [Option.bind_some, Option.map_some, Option.getD_some]
    rw [StatePart.set_set, StatePart.set_eq_self_iff hr, restart_eq_self_iff]
    simp

/-! ## BGP -/

/-- `router bgp` in the container of a router. -/
structure Enters (h : Host) (router vrf : String) (asNumber : ℤ) (r : Router)
    (instances : String → Option Bgp) (b : Bgp) : Prop where
  routers : h.routers router = some r
  bgp : r.bgp = some instances
  enter : enterBgp vrf asNumber instances = some b

/-- The state with another instance in place of the one for a VRF. -/
def Host.withBgp (h : Host) (router vrf : String) (r : Router) (instances : String → Option Bgp)
    (b : Bgp) : Host :=
  (Host.router router).set { r with bgp := some (Function.update instances vrf (some b)) } h

variable {vrf : String} {asNumber : ℤ} {r : Router} {instances : String → Option Bgp} {b b' : Bgp}
  {lines : List BgpLine}

theorem enterBgp_eq_some_iff : enterBgp vrf asNumber instances = some b ↔
    (vrf ≠ "" ∧ validAs asNumber) ∧ (instances vrf).or (some { asNumber }) = some b ∧
      b.asNumber = asNumber := by
  unfold enterBgp
  rw [Option.ite_none_right_eq_some, Option.filter_eq_some_iff, decide_eq_true_eq]

theorem Enters.exec (h₁ : Enters h router vrf asNumber r instances b) :
    (Command.bgp router vrf asNumber lines).exec t h =
      (h.withBgp router vrf r instances (BgpLine.run t lines b).1, (BgpLine.run t lines b).2) := by
  unfold Command.exec Router.configureBgp
  dsimp only
  rw [h₁.routers]
  dsimp only
  rw [h₁.bgp]
  dsimp only
  rw [h₁.enter]
  rfl

/-- The next call finds what the last one has left. -/
theorem Enters.exec_again (h₁ : Enters h router vrf asNumber r instances b)
    (hnumber : b'.asNumber = asNumber) :
    (Command.bgp router vrf asNumber lines).exec t (h.withBgp router vrf r instances b') =
      (h.withBgp router vrf r instances (BgpLine.run t lines b').1,
        (BgpLine.run t lines b').2) := by
  have henters : Enters (h.withBgp router vrf r instances b') router vrf asNumber
      { r with bgp := some (Function.update instances vrf (some b')) }
      (Function.update instances vrf (some b')) b' := by
    refine ⟨(Host.router router).get?_set _ h₁.routers, rfl, ?_⟩
    rw [enterBgp_eq_some_iff, Function.update_self]
    exact ⟨(enterBgp_eq_some_iff.mp h₁.enter).1, rfl, hnumber⟩
  rw [henters.exec]
  unfold Host.withBgp
  rw [StatePart.set_set]
  dsimp only
  rw [Function.update_idem]

theorem Enters.withBgp_eq_self_iff (h₁ : Enters h router vrf asNumber r instances b) :
    h.withBgp router vrf r instances b' = h ↔ instances vrf = some b' := by
  unfold Host.withBgp
  rw [StatePart.set_eq_self_iff h₁.routers]
  constructor
  · intro heq
    have hsame := Option.some.inj ((congrArg Router.bgp heq).trans h₁.bgp)
    rw [← hsame, Function.update_self]
  · intro hb
    rw [← hb, Function.update_eq_self, ← h₁.bgp]

/-- An instance that runs is the one that is entered. -/
theorem Enters.runs_iff (h₁ : Enters h router vrf asNumber r instances b) :
    h.Runs router vrf b' ↔ instances vrf = some b' := by
  constructor
  · rintro ⟨r', instances', hr', hbgp', hb'⟩
    obtain rfl := Option.some.inj (h₁.routers.symm.trans hr')
    obtain rfl := Option.some.inj (h₁.bgp.symm.trans hbgp')
    exact hb'
  · exact fun hb' => ⟨r, instances, h₁.routers, h₁.bgp, hb'⟩

theorem Enters.eq_of_some (h₁ : Enters h router vrf asNumber r instances b)
    (hb : instances vrf = some b') : b' = b := by
  obtain ⟨-, hor, -⟩ := enterBgp_eq_some_iff.mp h₁.enter
  rw [hb] at hor
  exact Option.some.inj hor

/-- A call enters, or it fails and leaves everything as it is. -/
theorem enters_or_fails (t : Tools) (h : Host) (router vrf : String) (asNumber : ℤ)
    (lines : List BgpLine) : (∃ r instances b, Enters h router vrf asNumber r instances b) ∨
      (Command.bgp router vrf asNumber lines).exec t h = (h, false) := by
  unfold Command.exec Router.configureBgp
  dsimp only
  cases hr : h.routers router with
  | none => exact Or.inr rfl
  | some r =>
    have hset : (Host.router router).set r h = h := (Host.router router).set_get? hr
    dsimp only
    cases hbgp : r.bgp with
    | none => exact Or.inr (congrArg (·, false) hset)
    | some instances =>
      dsimp only
      cases henter : enterBgp vrf asNumber instances with
      | none => exact Or.inr (congrArg (·, false) hset)
      | some b => exact Or.inl ⟨r, instances, b, hr, hbgp, henter⟩

/-- A call that succeeds has entered. -/
theorem exists_enters (hok : ((Command.bgp router vrf asNumber lines).exec t h).2 = true) :
    ∃ r instances b, Enters h router vrf asNumber r instances b := by
  rcases enters_or_fails t h router vrf asNumber lines with henters | hfails
  · exact henters
  · rw [hfails] at hok
    cases hok

theorem runTasks_last_eq_some_iff {command : Command} :
    runTasks t [⟨command, false⟩] h = some h' ↔
      (command.exec t h).2 = true ∧ (command.exec t h).1 = h' := by
  rw [runTasks_cons, Bool.or_false, Option.ite_none_right_eq_some]
  exact and_congr_right fun _ => Option.some_inj

theorem runTasks_after_ignored {command : Command} {tasks : List Task} :
    runTasks t (⟨command, true⟩ :: tasks) h = runTasks t tasks (command.exec t h).1 := by
  rw [runTasks_cons]
  exact if_pos (Bool.or_true _)

/-- **A neighbor comes back** with its AS alone, which is that of the instance. -/
theorem undo_neighbor {text : String}
    (hrun : runTasks t [⟨.bgp router vrf asNumber [.noNeighbor text], false⟩] h = some h') :
    runTasks t [⟨.bgp router vrf asNumber [.neighbor text asNumber], false⟩] h' = some h ↔
      ∃ b peer, h.Runs router vrf b ∧ t.peer text = some peer ∧
        b.neighbors peer = some ⟨asNumber, []⟩ := by
  obtain ⟨hok, rfl⟩ := runTasks_last_eq_some_iff.mp hrun
  obtain ⟨r, instances, b, henters⟩ := exists_enters hok
  obtain ⟨⟨-, hvalid⟩, -, hnumber⟩ := enterBgp_eq_some_iff.mp henters.enter
  rw [henters.exec] at hok ⊢
  cases hpeer : t.peer text with
  | none =>
    unfold BgpLine.run BgpLine.apply at hok
    dsimp only at hok
    rw [hpeer] at hok
    cases hok
  | some peer =>
    have hremove : BgpLine.run t [.noNeighbor text] b =
        ({ b with neighbors := Function.update b.neighbors peer none }, true) := by
      unfold BgpLine.run BgpLine.apply
      dsimp only
      rw [hpeer]
      rfl
    have hadd : BgpLine.run t [.neighbor text asNumber]
        { b with neighbors := Function.update b.neighbors peer none } =
        ({ b with neighbors := Function.update b.neighbors peer (some ⟨asNumber, []⟩) }, true) := by
      unfold BgpLine.run BgpLine.apply
      dsimp only
      rw [hpeer, Option.bind_some, if_pos hvalid, Function.update_self, Function.update_idem]
      rfl
    have hsame : ({ b with neighbors := Function.update b.neighbors peer none } : Bgp).asNumber =
        asNumber := hnumber
    rw [hremove, runTasks_last_eq_some_iff]
    dsimp only
    rw [henters.exec_again hsame, hadd]
    dsimp only
    rw [henters.withBgp_eq_self_iff, eq_self, true_and]
    constructor
    · intro hb
      exact ⟨_, peer, henters.runs_iff.mpr hb, rfl, Function.update_self ..⟩
    · rintro ⟨b', peer', hruns, hpeer', hneighbor⟩
      have hb := henters.runs_iff.mp hruns
      obtain rfl := henters.eq_of_some hb
      obtain rfl := Option.some.inj hpeer'
      rw [← hneighbor, Function.update_eq_self]
      exact hb

/-! ### Route targets -/

/-- The instance after `no address-family`, if `vtysh` takes it. -/
def Bgp.cleared (t : Tools) (b : Bgp) : Bgp :=
  if t.noAddressFamily then { b with ipv4Unicast := {} } else b

/-- The instance that imports these targets. -/
def Bgp.withImports (b : Bgp) (imports : Finset String) : Bgp :=
  { b with ipv4Unicast.imports := imports }

theorem run_noAddressFamily (b : Bgp) : (BgpLine.run t [.noAddressFamily] b).1 = b.cleared t := by
  unfold BgpLine.run BgpLine.apply Bgp.cleared
  dsimp only
  split_ifs <;> rfl

theorem asNumber_cleared (t : Tools) (b : Bgp) : (b.cleared t).asNumber = b.asNumber := by
  unfold Bgp.cleared
  split_ifs <;> rfl

theorem run_cons_of_some {line : BgpLine} (h : line.apply t b = some b') :
    BgpLine.run t (line :: lines) b = BgpLine.run t lines b' := by
  rw [BgpLine.run, h]

theorem exists_of_run_cons {line : BgpLine} (hok : (BgpLine.run t (line :: lines) b).2 = true) :
    ∃ b', line.apply t b = some b' := by
  refine Option.ne_none_iff_exists'.mp fun hnone => ?_
  rw [BgpLine.run, hnone] at hok
  cases hok

theorem apply_noRouteTarget {text rt : String} (hrt : t.routeTarget text = some rt)
    (hmem : rt ∈ b.ipv4Unicast.imports) : (BgpLine.noRouteTarget text).apply t b =
      some (b.withImports (b.ipv4Unicast.imports.erase rt)) :=
  Option.bind_eq_some_iff.mpr ⟨rt, hrt, if_pos hmem⟩

theorem apply_routeTarget {text rt : String} (hrt : t.routeTarget text = some rt) :
    (BgpLine.routeTarget text).apply t b =
      some (b.withImports (insert rt b.ipv4Unicast.imports)) :=
  Option.map_eq_some_iff.mpr ⟨rt, hrt, rfl⟩

theorem of_apply_noRouteTarget {text : String}
    (h : (BgpLine.noRouteTarget text).apply t b = some b') :
    ∃ rt, t.routeTarget text = some rt ∧ b' = b.withImports (b.ipv4Unicast.imports.erase rt) := by
  obtain ⟨rt, hrt, h⟩ := Option.bind_eq_some_iff.mp h
  refine ⟨rt, hrt, ?_⟩
  by_cases hmem : rt ∈ b.ipv4Unicast.imports
  · rw [if_pos hmem] at h
    exact (Option.some.inj h).symm
  · rw [if_neg hmem, Option.ite_none_right_eq_some] at h
    rw [Finset.erase_eq_of_notMem hmem]
    exact (Option.some.inj h.2).symm

/-- One target in place of another one. -/
theorem run_replace {old new : String}
    (hok : (BgpLine.run t [.noRouteTarget old, .routeTarget new] b).2 = true) :
    ∃ rt rt', t.routeTarget old = some rt ∧ t.routeTarget new = some rt' ∧
      (BgpLine.run t [.noRouteTarget old, .routeTarget new] b).1 =
        b.withImports (insert rt' (b.ipv4Unicast.imports.erase rt)) := by
  obtain ⟨b₁, hb₁⟩ := exists_of_run_cons hok
  rw [run_cons_of_some hb₁] at hok ⊢
  obtain ⟨rt, hrt, rfl⟩ := of_apply_noRouteTarget hb₁
  obtain ⟨b₂, hb₂⟩ := exists_of_run_cons hok
  rw [run_cons_of_some hb₂]
  obtain ⟨rt', hrt', rfl⟩ := Option.map_eq_some_iff.mp hb₂
  exact ⟨rt, rt', hrt, hrt', rfl⟩

/-- What is imported after the restoration, and whether that was the whole address family. -/
theorem withImports_eq_iff (b : Bgp) (correct wrong : String) :
    (b.cleared t).withImports (insert correct ((insert wrong
        ((b.cleared t).ipv4Unicast.imports.erase correct)).erase wrong)) = b ↔
      if t.noAddressFamily then b.ipv4Unicast = ⟨{correct}, []⟩
      else correct ∈ b.ipv4Unicast.imports ∧
        (wrong ∈ b.ipv4Unicast.imports → wrong = correct) := by
  obtain ⟨asNumber, neighbors, ⟨imports, settings⟩⟩ := b
  unfold Bgp.cleared Bgp.withImports
  split_ifs with hclear
  · dsimp only
    rw [Bgp.mk.injEq, eq_self, eq_self, true_and, true_and, eq_comm]
    have himports : insert correct
        ((insert wrong ((∅ : Finset String).erase correct)).erase wrong) = {correct} := by
      ext rt
      simp
    rw [himports]
  · dsimp only
    rw [Bgp.mk.injEq, AddressFamily.mk.injEq, eq_self, eq_self, eq_self, true_and, true_and,
      and_true, Finset.ext_iff]
    constructor
    · intro h
      refine ⟨(h correct).mp (Finset.mem_insert_self ..), fun hwrong => ?_⟩
      by_contra hne
      have hmem := (h wrong).mpr hwrong
      simp [hne] at hmem
    · rintro ⟨hcorrect, hwrong⟩ rt
      by_cases heq : rt = correct
      · subst heq
        simp [hcorrect]
      · by_cases heq' : rt = wrong
        · subst heq'
          have hnot : rt ∉ imports := fun hmem => heq (hwrong hmem)
          simp [heq, hnot]
        · simp [heq, heq']

/-- **The imported target comes back**, and with it nothing else of the address family. -/
theorem undo_target {correct wrong : String}
    (hrun : runTasks t [⟨.bgp router vrf asNumber [.noAddressFamily], true⟩,
      ⟨.bgp router vrf asNumber [.noRouteTarget correct, .routeTarget wrong], false⟩] h = some h') :
    runTasks t [⟨.bgp router vrf asNumber [.noRouteTarget wrong], true⟩,
        ⟨.bgp router vrf asNumber [.routeTarget correct], false⟩] h' = some h ↔
      ∃ b rt rt', h.Runs router vrf b ∧ t.routeTarget correct = some rt ∧
        t.routeTarget wrong = some rt' ∧
          if t.noAddressFamily then b.ipv4Unicast = ⟨{rt}, []⟩
          else rt ∈ b.ipv4Unicast.imports ∧ (rt' ∈ b.ipv4Unicast.imports → rt' = rt) := by
  rw [runTasks_after_ignored, runTasks_last_eq_some_iff] at hrun
  obtain ⟨hok, rfl⟩ := hrun
  obtain ⟨r, instances, b, henters⟩ :
      ∃ r instances b, Enters h router vrf asNumber r instances b := by
    rcases enters_or_fails t h router vrf asNumber [.noAddressFamily] with henters | hfails
    · exact henters
    · rw [hfails] at hok
      exact exists_enters hok
  have hnumber : (b.cleared t).asNumber = asNumber :=
    (asNumber_cleared t b).trans (enterBgp_eq_some_iff.mp henters.enter).2.2
  rw [henters.exec, run_noAddressFamily] at hok ⊢
  dsimp only at hok ⊢
  rw [henters.exec_again hnumber] at hok ⊢
  obtain ⟨rt, rt', hrt, hrt', hreplaced⟩ := run_replace hok
  rw [hreplaced]
  have hremove := apply_noRouteTarget (b := (b.cleared t).withImports
    (insert rt' ((b.cleared t).ipv4Unicast.imports.erase rt))) hrt' (Finset.mem_insert_self ..)
  have hadd := fun imports => apply_routeTarget (b := (b.cleared t).withImports imports) hrt
  have hagain : ∀ imports lines, (Command.bgp router vrf asNumber lines).exec t
      (h.withBgp router vrf r instances ((b.cleared t).withImports imports)) =
        (h.withBgp router vrf r instances
            (BgpLine.run t lines ((b.cleared t).withImports imports)).1,
          (BgpLine.run t lines ((b.cleared t).withImports imports)).2) :=
    fun imports lines => henters.exec_again hnumber
  rw [runTasks_after_ignored, hagain, run_cons_of_some hremove, runTasks_last_eq_some_iff]
  change ((Command.bgp router vrf asNumber [.routeTarget correct]).exec t
    (h.withBgp router vrf r instances ((b.cleared t).withImports _))).2 = true ∧
      ((Command.bgp router vrf asNumber [.routeTarget correct]).exec t
        (h.withBgp router vrf r instances ((b.cleared t).withImports _))).1 = h ↔ _
  rw [hagain, run_cons_of_some (hadd _)]
  refine (and_iff_right rfl).trans (henters.withBgp_eq_self_iff.trans ?_)
  constructor
  · intro hb
    refine ⟨b, rt, rt', henters.runs_iff.mpr ?_, hrt, hrt', ?_⟩
    · rw [hb, henters.eq_of_some hb]
    · exact (withImports_eq_iff b rt rt').mp (henters.eq_of_some hb)
  · rintro ⟨b', rt₁, rt₁', hruns, hrt₁, hrt₁', hfamily⟩
    have hb := henters.runs_iff.mp hruns
    obtain rfl := henters.eq_of_some hb
    obtain rfl := Option.some.inj (hrt.symm.trans hrt₁)
    obtain rfl := Option.some.inj (hrt'.symm.trans hrt₁')
    exact hb.trans (congrArg some ((withImports_eq_iff b' rt rt').mpr hfamily).symm)

end

/-! ## What is passed on -/

section

variable {t : Tools} {spec : Spec} {derivedBridge : String} {h h' : Host} {v : InjectVars}
  {saved facts : OriginalState}

/-- What is saved of the parameters is what they are. -/
structure Agrees (v : InjectVars) (saved : OriginalState) : Prop where
  interface : saved.interface.getD v.interface = v.interface
  method : saved.method.getD v.method = v.method
  remoteAs : saved.remoteAs.getD v.remoteAs = v.remoteAs
  correctArea : saved.correctArea.getD v.correctArea = v.correctArea
  wrongArea : saved.wrongArea.getD v.wrongArea = v.wrongArea
  duplicateIp : saved.duplicateIp.getD v.duplicateIp = v.duplicateIp
  correctRt : saved.correctRt.getD v.correctRt = v.correctRt
  wrongRt : saved.wrongRt.getD v.wrongRt = v.wrongRt

theorem agrees_facts (hfacts : v.facts t h = some facts) : Agrees v facts := by
  unfold InjectVars.facts at hfacts
  cases hkind : v.failureType with
  | unknown name =>
    rw [hkind] at hfacts
    cases hfacts
  | known type =>
    rw [hkind] at hfacts
    cases type with
    | linkDown =>
      dsimp only at hfacts
      split_ifs at hfacts <;> obtain rfl := Option.some.inj hfacts <;>
        exact ⟨rfl, rfl, rfl, rfl, rfl, rfl, rfl, rfl⟩
    | _ =>
      obtain rfl := Option.some.inj hfacts
      exact ⟨rfl, rfl, rfl, rfl, rfl, rfl, rfl, rfl⟩

theorem Agrees.keepBridge (hsaved : Agrees v saved) : Agrees v (v.keepBridge saved) := by
  unfold InjectVars.keepBridge
  split_ifs
  · exact ⟨hsaved.1, hsaved.2, hsaved.3, hsaved.4, hsaved.5, hsaved.6, hsaved.7, hsaved.8⟩
  · exact hsaved

/-- The facts as `inject_failure` returns them. -/
def InjectVars.returned (t : Tools) (v : InjectVars) (facts : OriginalState) : OriginalState :=
  v.keepBridge (if t.captures then facts else {})

theorem agrees_returned (hfacts : v.facts t h = some facts) : Agrees v (v.returned t facts) := by
  refine Agrees.keepBridge ?_
  split_ifs
  · exact agrees_facts hfacts
  · exact ⟨rfl, rfl, rfl, rfl, rfl, rfl, rfl, rfl⟩

theorem returned_of_ne (hkind : v.failureType ≠ .known .linkDown) :
    v.returned t facts = if t.captures then facts else {} :=
  if_neg fun h => hkind h.1

theorem injectFailure_eq_some_iff : injectFailure t spec derivedBridge h = some (saved, h') ↔
    ∃ facts, (injectVars spec derivedBridge).facts t h = some facts ∧
      runTasks t (injectVars spec derivedBridge).tasks h = some h' ∧
        (injectVars spec derivedBridge).returned t facts = saved := by
  unfold injectFailure InjectVars.returned
  simp [Option.bind_eq_some_iff]

/-- The parameters of the restoration are those of the injection. -/
structure Passed (v : InjectVars) (w : RestoreVars) : Prop where
  failureType : w.failureType = v.failureType
  router : w.router = v.router
  interface : w.interface = v.interface
  peerIp : w.peerIp = v.peerIp
  vrf : w.vrf = v.vrf
  method : w.method = v.method
  originalRemoteAs : w.originalRemoteAs = v.remoteAs
  correctArea : w.correctArea = v.correctArea
  wrongArea : w.wrongArea = v.wrongArea
  duplicateIp : w.duplicateIp = v.duplicateIp
  correctRt : w.correctRt = v.correctRt
  wrongRt : w.wrongRt = v.wrongRt

theorem restored_interface (hagrees : Agrees (injectVars spec derivedBridge) saved) :
    (restoreVars spec saved).interface = (injectVars spec derivedBridge).interface := by
  have hinterface := hagrees.interface
  unfold restoreVars
  dsimp only
  cases hsaved : saved.interface with
  | none => exact if_pos rfl
  | some interface =>
    rw [hsaved, Option.getD_some] at hinterface
    rw [Option.getD_some, hinterface]
    exact ite_self _

/-- The method comes from the parameters, and only after them from what was saved. -/
theorem restored_method (hagrees : Agrees (injectVars spec derivedBridge) saved) :
    (restoreVars spec saved).method = (injectVars spec derivedBridge).method := by
  have hmethod := hagrees.method
  unfold restoreVars injectVars at *
  dsimp only at *
  cases hspec : spec.parameters.method with
  | none =>
    rw [hspec] at hmethod
    exact hmethod
  | some method => rfl

theorem Agrees.passed (hagrees : Agrees (injectVars spec derivedBridge) saved) :
    Passed (injectVars spec derivedBridge) (restoreVars spec saved) where
  failureType := rfl
  router := rfl
  interface := restored_interface hagrees
  peerIp := rfl
  vrf := rfl
  method := restored_method hagrees
  originalRemoteAs := hagrees.remoteAs
  correctArea := hagrees.correctArea
  wrongArea := hagrees.wrongArea
  duplicateIp := hagrees.duplicateIp
  correctRt := hagrees.correctRt
  wrongRt := hagrees.wrongRt

theorem restored_mtu (hkind : v.failureType = .known .mtuMismatch)
    (hfacts : v.facts t h = some facts) :
    (∃ l, (Host.link v.router v.interface).get? h = some l ∧
        t.mtu ((v.returned t facts).mtu.getD 1500) = true ∧
          ((v.returned t facts).mtu.getD 1500).toNat = l.mtu) ↔ Restorable t v h := by
  unfold Restorable
  rw [returned_of_ne (by rw [hkind]; simp), hkind]
  refine exists_congr fun l => and_congr_right fun hget => ?_
  unfold InjectVars.facts at hfacts
  rw [hkind, hget] at hfacts
  obtain rfl := Option.some.inj hfacts
  cases t.captures with
  | true => simp
  | false =>
    simp only [Bool.false_eq_true, if_false, Option.getD_none, false_or]
    constructor
    · rintro ⟨hmtu, heq⟩
      exact ⟨heq ▸ hmtu, heq.symm⟩
    · rintro ⟨hmtu, heq⟩
      rw [heq] at hmtu
      exact ⟨hmtu, heq.symm⟩

theorem restored_txqueuelen (hkind : v.failureType = .known .txqueueStarvation)
    (hfacts : v.facts t h = some facts) :
    (∃ l, (Host.link v.router v.interface).get? h = some l ∧
        (0 ≤ (v.returned t facts).originalQueueLength.getD 1000 ∧
          (v.returned t facts).originalQueueLength.getD 1000 < UInt32.size) ∧
            UInt32.ofNat ((v.returned t facts).originalQueueLength.getD 1000).toNat =
              l.txqueuelen) ↔ Restorable t v h := by
  unfold Restorable
  rw [returned_of_ne (by rw [hkind]; simp), hkind]
  refine exists_congr fun l => and_congr_right fun hget => ?_
  unfold InjectVars.facts at hfacts
  rw [hkind, hget] at hfacts
  obtain rfl := Option.some.inj hfacts
  cases t.captures with
  | true =>
    refine iff_of_true ⟨⟨Int.natCast_nonneg _, ?_⟩, UInt32.ofNat_toNat⟩ (Or.inl rfl)
    exact Int.ofNat_lt.mpr l.txqueuelen.toNat_lt
  | false =>
    simp only [Bool.false_eq_true, if_false, Option.getD_none, false_or]
    exact (and_iff_right (by decide)).trans eq_comm

theorem restored_cost (hkind : v.failureType = .known .ospfCostInflation)
    (hfacts : v.facts t h = some facts) :
    (∃ r cost, h.routers v.router = some r ∧ (r.ospf v.interface).cost = some cost ∧
        (cost.val : ℤ) = (v.returned t facts).originalOspfCost.getD 1) ↔ Restorable t v h := by
  unfold Restorable
  rw [returned_of_ne (by rw [hkind]; simp), hkind]
  refine exists_congr fun r => exists_congr fun cost => and_congr_right fun hr => ?_
  unfold InjectVars.facts at hfacts
  rw [hkind, hr] at hfacts
  obtain rfl := Option.some.inj hfacts
  cases t.captures <;> rfl

/-- The mode and the bridge are saved, or kept when the runner has not reported them. -/
theorem restored_mode (hkind : (injectVars spec derivedBridge).failureType = .known .linkDown)
    (hfacts : (injectVars spec derivedBridge).facts t h = some facts)
    (hname : (injectVars spec derivedBridge).linkDownMode = "bridge" → derivedBridge ≠ "")
    (hsaved : (injectVars spec derivedBridge).returned t facts = saved) :
    (injectVars spec derivedBridge).linkDownMode = "interface" ∧
        (restoreVars spec saved).linkDownMode = "interface" ∨
      (injectVars spec derivedBridge).linkDownMode = "bridge" ∧
        (restoreVars spec saved).linkDownMode = "bridge" ∧
          (restoreVars spec saved).bridge = derivedBridge := by
  have hmode : (injectVars spec derivedBridge).linkDownMode =
      if given spec.target.peerRouter then "bridge" else "interface" := if_pos hkind
  unfold InjectVars.facts at hfacts
  rw [hkind] at hfacts
  dsimp only at hfacts
  subst hsaved
  unfold restoreVars InjectVars.returned InjectVars.keepBridge
  dsimp only
  by_cases hpeer : given spec.target.peerRouter
  · rw [if_pos hpeer] at hmode ⊢
    rw [if_neg (by rw [hmode]; decide), if_pos hmode] at hfacts
    obtain rfl := Option.some.inj hfacts
    refine Or.inr ⟨hmode, ?_⟩
    cases t.captures with
    | true =>
      rw [if_pos rfl, if_neg fun h => hname hmode h.2.2.2]
      exact ⟨rfl, rfl⟩
    | false =>
      rw [if_neg Bool.false_ne_true, if_pos ⟨hkind, hmode, hname hmode, rfl⟩]
      exact ⟨rfl, rfl⟩
  · rw [if_neg hpeer] at hmode ⊢
    rw [if_pos hmode] at hfacts
    obtain rfl := Option.some.inj hfacts
    refine Or.inl ⟨hmode, ?_⟩
    rw [if_neg fun h => by rw [hmode] at h; exact absurd h.2.1 (by decide)]
    cases t.captures <;> rfl

/-! ## The claim of the playbook -/

/-- **When the restoration is the inverse of the injection**, for every type of failure. -/
theorem restored_iff (hinject : injectFailure t spec derivedBridge h = some (saved, h')) :
    restoreFailure t spec saved h' = some h ↔
      Restorable t (injectVars spec derivedBridge) h := by
  obtain ⟨facts, hfacts, hrun, hsaved⟩ := injectFailure_eq_some_iff.mp hinject
  have hpassed : Passed (injectVars spec derivedBridge) (restoreVars spec saved) :=
    hsaved ▸ (agrees_returned hfacts).passed
  unfold InjectVars.tasks at hrun
  unfold restoreFailure RestoreVars.tasks
  cases hkind : (injectVars spec derivedBridge).failureType with
  | unknown name =>
    unfold InjectVars.facts at hfacts
    rw [hkind] at hfacts
    cases hfacts
  | known type =>
    rw [hkind] at hrun
    rw [hpassed.failureType, hkind]
    cases type <;> dsimp only at hrun ⊢ <;> rw [hpassed.router]
    case mtuMismatch =>
      rw [hpassed.interface]
      subst hsaved
      exact (undo_mtu hrun).trans (restored_mtu hkind hfacts)
    case txqueueStarvation =>
      rw [hpassed.interface]
      subst hsaved
      exact (undo_txqueuelen hrun).trans (restored_txqueuelen hkind hfacts)
    case ospfCostInflation =>
      rw [hpassed.interface]
      subst hsaved
      exact (undo_cost hrun).trans (restored_cost hkind hfacts)
    all_goals
      unfold Restorable
      rw [hkind]
      dsimp only
    case bgpSessionDown =>
      rw [hpassed.vrf, hpassed.peerIp, hpassed.originalRemoteAs]
      exact undo_neighbor hrun
    case processCrash =>
      rw [hpassed.method]
      by_cases hkill : (injectVars spec derivedBridge).method = "process_kill"
      · rw [if_pos hkill] at hrun ⊢
        rw [if_pos hkill]
        exact undo_kill hrun
      rw [if_neg hkill] at hrun ⊢
      rw [if_neg hkill]
      by_cases hdisable : (injectVars spec derivedBridge).method = "loopback_disable"
      · rw [if_pos hdisable] at hrun ⊢
        rw [if_pos hdisable]
        exact undo_down hrun
      · rw [if_neg hdisable] at hrun ⊢
        rw [if_neg hdisable]
        exact iff_of_true hrun.symm trivial
    case packetCorruption =>
      rw [hpassed.interface]
      exact undo_netem hrun
    case linkDown =>
      have hname : (injectVars spec derivedBridge).linkDownMode = "bridge" →
          derivedBridge ≠ "" := by
        intro hmode
        rw [if_neg (by rw [hmode]; decide), if_pos hmode] at hrun
        exact (undo_bridge hrun).1
      rcases restored_mode hkind hfacts hname hsaved with
        ⟨hmode, hmode'⟩ | ⟨hmode, hmode', hbridge⟩
      · rw [if_pos hmode] at hrun ⊢
        rw [if_pos hmode', hpassed.interface]
        exact undo_down hrun
      · rw [if_neg (by rw [hmode]; decide), if_pos hmode] at hrun
        rw [if_neg (by rw [hmode']; decide), hbridge, if_pos ⟨hmode', hname hmode⟩,
          if_neg (by rw [hmode]; decide)]
        exact (undo_bridge hrun).2
    case ospfAreaMismatch =>
      rw [hpassed.interface, hpassed.wrongArea, hpassed.correctArea]
      exact undo_area hrun
    case duplicateIp =>
      rw [hpassed.interface, hpassed.duplicateIp]
      exact iff_of_true (undo_address hrun) trivial
    case vrfRtMisconfiguration =>
      rw [hpassed.vrf, hpassed.wrongRt, hpassed.correctRt]
      exact undo_target hrun

end

/-! ### A router -/

/-- Programs that take every text for itself, with the lines of `vtysh`. -/
def labTools : Tools where
  address := some
  rate _ := true
  peer := some
  area text := if text = "0.0.0.0" then some 0 else text.toNat?
  routeTarget := some
  mtu n := decide (68 ≤ n ∧ n ≤ 65535)
  noAddressFamily := false
  noAbsentTarget := true
  showOspfInterface _ interface :=
    [interface ++ " is up", "  Router ID 10.0.0.2, Network Type BROADCAST, Cost: 10"]
  restart := .bgpd
  captures := true

/-- An edge router with a link and its neighbor in the core. -/
def edgeRouter : Router where
  links interface :=
    if interface = "eth1" then
      some { up := true, mtu := 1500, addresses := ["10.1.1.2/30"], txqueuelen := 1000 }
    else none
  ospf _ := {}
  bgp := some fun vrf =>
    if vrf = "default" then
      some
        { asNumber := 65001
          neighbors := fun peer =>
            if peer = "10.0.0.1" then some ⟨65001, ["update-source lo"]⟩ else none }
    else none
  startup := ⟨fun _ => none, fun _ => {}⟩

def labHost : Host where
  routers name := if name = "pe2" then some edgeRouter else none
  bridges _ := none

def edgeDown : Spec where
  failureType := .known .linkDown
  target := { router := some "pe2", interface := some "eth1" }

theorem restored_edge : ∃ saved h', injectFailure labTools edgeDown "" labHost = some (saved, h') ∧
    restoreFailure labTools edgeDown saved h' = some labHost := by
  have hinject : (injectFailure labTools edgeDown "" labHost).isSome = true := by decide +kernel
  obtain ⟨⟨saved, h'⟩, hinject⟩ := Option.isSome_iff_exists.mp hinject
  have hget : (Host.link "pe2" "eth1").get? labHost =
      some ⟨true, 1500, ["10.1.1.2/30"], 1000, none, none⟩ := by decide +kernel
  exact ⟨saved, h', hinject, (restored_iff hinject).mpr ⟨_, hget, rfl⟩⟩

def sessionDown : Spec where
  failureType := .known .bgpSessionDown
  target := { router := some "pe2", peerIp := some "10.0.0.1", vrf := some "global" }
  parameters := { remoteAs := some 65001 }

def Host.neighbor (h : Host) (router vrf peer : String) : Option Neighbor :=
  (h.routers router).bind fun r => r.bgp.bind fun instances =>
    (instances vrf).bind fun b => b.neighbors peer

/-- The neighbor is there again, but no longer speaks from the loopback. -/
theorem source_lost : ∃ saved h' h'',
    injectFailure labTools sessionDown "" labHost = some (saved, h') ∧
      restoreFailure labTools sessionDown saved h' = some h'' ∧
        h''.neighbor "pe2" "default" "10.0.0.1" = some ⟨65001, []⟩ ∧ h'' ≠ labHost := by
  have hafter : ((injectFailure labTools sessionDown "" labHost).bind fun after =>
      (restoreFailure labTools sessionDown after.1 after.2).bind fun h =>
        h.neighbor "pe2" "default" "10.0.0.1") = some ⟨65001, []⟩ := by decide +kernel
  obtain ⟨⟨saved, h'⟩, hinject, hafter⟩ := Option.bind_eq_some_iff.mp hafter
  obtain ⟨h'', hrestore, hneighbor⟩ := Option.bind_eq_some_iff.mp hafter
  refine ⟨saved, h', h'', hinject, hrestore, hneighbor, ?_⟩
  rintro rfl
  exact absurd hneighbor (by decide +kernel)

end GnnSandbox.Operator.Playbook
