import GnnSandbox.Lib.Part
import GnnSandbox.Operator.FaultHandlers
import Mathlib.Data.Finset.Basic

/-!
# The playbooks of the direct mode

`inject_failure` runs the playbook `failure_inject`, which saves what it knows of a router and
changes it by commands in its container, and `restore_failure` runs `failure_restore` with what was
saved. A playbook is the list of its commands, each with whether an error of it fails the
playbook. Commands that only look at the result are left out.
-/

namespace GnnSandbox.Operator.Playbook

open Fault (Kind Spec given)

/-! ## The state -/

/-- An interface in the kernel. -/
structure Link where
  up : Bool
  mtu : ℕ
  addresses : List String
  txqueuelen : UInt32
  /-- The qdisc at the root, unless it is the default one. -/
  root : Option String := none
  ingress : Option String := none
deriving DecidableEq

/-- A cost that can be configured. -/
abbrev Cost := { n : ℕ // 1 ≤ n ∧ n ≤ 65535 }

/-- An interface in the configuration of OSPF. -/
structure OspfInterface where
  area : Option ℕ := none
  cost : Option Cost := none
deriving DecidableEq

/-- A BGP neighbor; its attributes are the further lines of its configuration. -/
structure Neighbor where
  remoteAs : ℤ
  attributes : List String := []
deriving DecidableEq

/-- The address family of a BGP instance; its settings are its further lines. -/
structure AddressFamily where
  imports : Finset String := ∅
  settings : List String := []
deriving DecidableEq

structure Bgp where
  asNumber : ℤ
  neighbors : String → Option Neighbor := fun _ => none
  ipv4Unicast : AddressFamily := {}

/-- The configuration that daemons read when they start. -/
structure Startup where
  bgp : String → Option Bgp
  ospf : String → OspfInterface

/-- A router; it has no `bgp` while bgpd is not running. -/
structure Router where
  links : String → Option Link
  ospf : String → OspfInterface
  bgp : Option (String → Option Bgp)
  startup : Startup

/-- The network VM: the containers of the routers, and its bridges with whether they are up. -/
structure Host where
  routers : String → Option Router
  bridges : String → Option Bool

/-! ## Commands -/

/-- What the restart of bgpd restarts, by the service manager of the container. -/
inductive Restart where
  | nothing
  | bgpd
  | frr
deriving DecidableEq

/-- What the programs make of their arguments, and what they show. -/
structure Tools where
  /-- The address with its length that `ip addr` takes a text for. -/
  address : String → Option String
  /-- `tc` takes the text for a rate. -/
  rate : String → Bool
  /-- The neighbor that `vtysh` takes a text for. -/
  peer : String → Option String
  area : String → Option ℕ
  routeTarget : String → Option String
  /-- `vtysh` takes `ip mtu` with this number. -/
  mtu : ℤ → Bool
  /-- `vtysh` takes `no address-family ipv4 unicast`. -/
  noAddressFamily : Bool
  /-- `vtysh` takes `no route-target import` of a target that is not imported. -/
  noAbsentTarget : Bool
  /-- The lines of `show ip ospf interface`. -/
  showOspfInterface : Router → String → List String
  restart : Restart
  /-- `ansible_runner` reports the facts that a playbook has set. -/
  captures : Bool

/-- What `ip link`, `ip addr`, `tc` and `ip mtu` do to an interface. -/
inductive LinkChange where
  | up
  | down
  | txqueuelen (n : ℤ)
  | addAddress (text : String)
  | delAddress (text : String)
  | addNetem (rate : String)
  | delRoot
  | mtu (n : ℤ)

namespace LinkChange

variable (t : Tools)

/-- The interface after the command, unless it fails. -/
def apply : LinkChange → Link → Option Link
  | up, l => some { l with up := true }
  | down, l => some { l with up := false }
  | txqueuelen n, l =>
    if 0 ≤ n ∧ n < UInt32.size then some { l with txqueuelen := .ofNat n.toNat } else none
  | addAddress text, l => (t.address text).bind fun a =>
    if a ∈ l.addresses then none else some { l with addresses := l.addresses ++ [a] }
  | delAddress text, l => (t.address text).bind fun a =>
    if a ∈ l.addresses then some { l with addresses := l.addresses.erase a } else none
  | addNetem rate, l =>
    if t.rate rate ∧ l.root = none then
      some { l with root := some ("netem loss " ++ rate ++ " corrupt " ++ rate) }
    else none
  | delRoot, l => if l.root = none then none else some { l with root := none }
  | mtu n, l => if t.mtu n then some { l with mtu := n.toNat } else none

end LinkChange

/-- A line below `interface` in `vtysh`. -/
inductive OspfLine where
  | noArea (text : String)
  | area (text : String)
  | cost (n : ℤ)

/-- The interface after the line, unless it fails: an area is given up whichever it is, and has
to be before another one is given. -/
def OspfLine.apply (t : Tools) : OspfLine → OspfInterface → Option OspfInterface
  | noArea text, o => (t.area text).bind fun _ =>
    if o.area = none then none else some { o with area := none }
  | area text, o => (t.area text).bind fun id =>
    if o.area = none ∨ o.area = some id then some { o with area := some id } else none
  | cost n, o =>
    if h : 1 ≤ n.toNat ∧ n.toNat ≤ 65535 then some { o with cost := some ⟨n.toNat, h⟩ } else none

/-- A line below `router bgp` in `vtysh`; those about targets are in the address family. -/
inductive BgpLine where
  | noNeighbor (text : String)
  | neighbor (text : String) (remoteAs : ℤ)
  | noAddressFamily
  | noRouteTarget (text : String)
  | routeTarget (text : String)

def validAs (n : ℤ) : Prop := 1 ≤ n ∧ n ≤ 4294967295

instance (n : ℤ) : Decidable (validAs n) := inferInstanceAs (Decidable (_ ∧ _))

namespace BgpLine

variable (t : Tools)

def apply : BgpLine → Bgp → Option Bgp
  | noNeighbor text, b => (t.peer text).map fun peer =>
    { b with neighbors := Function.update b.neighbors peer none }
  | neighbor text remoteAs, b => (t.peer text).bind fun peer =>
    if validAs remoteAs then
      let attributes := ((b.neighbors peer).map Neighbor.attributes).getD []
      some { b with neighbors := Function.update b.neighbors peer (some ⟨remoteAs, attributes⟩) }
    else none
  | noAddressFamily, b => if t.noAddressFamily then some { b with ipv4Unicast := {} } else none
  | noRouteTarget text, b => (t.routeTarget text).bind fun rt =>
    if rt ∈ b.ipv4Unicast.imports then
      some { b with ipv4Unicast.imports := b.ipv4Unicast.imports.erase rt }
    else if t.noAbsentTarget then some b else none
  | routeTarget text, b => (t.routeTarget text).map fun rt =>
    { b with ipv4Unicast.imports := insert rt b.ipv4Unicast.imports }

/-- Lines up to the first that fails, and whether none does. -/
def run : List BgpLine → Bgp → Bgp × Bool
  | [], b => (b, true)
  | line :: lines, b =>
    match line.apply t b with
    | none => (b, false)
    | some b => run lines b

end BgpLine

/-- `router bgp`, which makes an instance where there is none. -/
def enterBgp (vrf : String) (asNumber : ℤ) (instances : String → Option Bgp) : Option Bgp :=
  if vrf ≠ "" ∧ validAs asNumber then
    ((instances vrf).or (some { asNumber })).filter fun b => b.asNumber = asNumber
  else none

/-- `vtysh` with lines below `router bgp`. -/
def Router.configureBgp (t : Tools) (vrf : String) (asNumber : ℤ) (lines : List BgpLine)
    (r : Router) : Router × Bool :=
  match r.bgp with
  | none => (r, false)
  | some instances =>
    match enterBgp vrf asNumber instances with
    | none => (r, false)
    | some b =>
      let (b, ok) := BgpLine.run t lines b
      ({ r with bgp := some (Function.update instances vrf (some b)) }, ok)

/-- bgpd, or all daemons, start with the saved configuration. -/
def Restart.apply : Restart → Router → Router
  | nothing, r => r
  | bgpd, r => { r with bgp := some r.startup.bgp }
  | frr, r => { r with bgp := some r.startup.bgp, ospf := r.startup.ospf }

/-- A command on the network VM; all but that for a bridge run in the container of a router. -/
inductive Command where
  | link (router interface : String) (change : LinkChange)
  | ospf (router interface : String) (line : OspfLine)
  | bgp (router vrf : String) (asNumber : ℤ) (lines : List BgpLine)
  | killBgpd (router : String)
  | restartBgpd (router : String)
  | bridge (name : String) (up : Bool)

/-! ### Parts of the state -/

def Host.router (name : String) : StatePart Host Router where
  get? h := h.routers name
  set r h := { h with routers := (StatePart.entry name).set r h.routers }
  get?_set b h := (StatePart.entry name).get?_set b h
  set_get? {h _} hget := congrArg (Host.mk · h.bridges) ((StatePart.entry name).set_get? hget)
  set_set _ _ h := congrArg (Host.mk · h.bridges) ((StatePart.entry name).set_set ..)

def Host.bridge (name : String) : StatePart Host Bool where
  get? h := h.bridges name
  set up h := { h with bridges := (StatePart.entry name).set up h.bridges }
  get?_set b h := (StatePart.entry name).get?_set b h
  set_get? {h _} hget := congrArg (Host.mk h.routers) ((StatePart.entry name).set_get? hget)
  set_set _ _ h := congrArg (Host.mk h.routers) ((StatePart.entry name).set_set ..)

def Router.link (interface : String) : StatePart Router Link where
  get? r := r.links interface
  set l r := { r with links := (StatePart.entry interface).set l r.links }
  get?_set b h := (StatePart.entry interface).get?_set b h
  set_get? {r _} hget := congrArg (fun links => { r with links })
    ((StatePart.entry interface).set_get? hget)
  set_set _ _ r := congrArg (fun links => { r with links }) ((StatePart.entry interface).set_set ..)

/-- Every name can be configured, also one that no interface has. -/
def Router.ospfInterface (interface : String) : StatePart Router OspfInterface where
  get? r := some (r.ospf interface)
  set o r := { r with ospf := Function.update r.ospf interface o }
  get?_set b _ := congrArg some (Function.update_self ..)
  set_get? {r _} hget := congrArg (fun ospf => { r with ospf }) <| by
    rw [← Option.some.inj hget, Function.update_eq_self]
  set_set _ _ r := congrArg (fun ospf => { r with ospf }) (Function.update_idem ..)

/-- The interface of a router. -/
def Host.link (router interface : String) : StatePart Host Link :=
  (Host.router router).comp (Router.link interface)

/-- The interface in the OSPF of a router. -/
def Host.ospf (router interface : String) : StatePart Host OspfInterface :=
  (Host.router router).comp (Router.ospfInterface interface)

/-! ### Running commands -/

/-- The state after a change, and whether it succeeds. -/
def attempt (h : Host) (changed : Option Host) : Host × Bool := (changed.getD h, changed.isSome)

def Command.exec (t : Tools) (h : Host) : Command → Host × Bool
  | link router interface change => attempt h <|
    if interface = "" then none else (Host.link router interface).change (change.apply t) h
  | ospf router interface line => attempt h <|
    if interface = "" then none else (Host.ospf router interface).change (line.apply t) h
  | bgp router vrf asNumber lines =>
    match h.routers router with
    | none => (h, false)
    | some r =>
      let (r, ok) := r.configureBgp t vrf asNumber lines
      ((Host.router router).set r h, ok)
  | killBgpd router => attempt h <|
    (Host.router router).change (fun r => some { r with bgp := none }) h
  | restartBgpd router => attempt h <|
    (Host.router router).change (fun r => some (t.restart.apply r)) h
  | bridge name up => attempt h <|
    if name = "" then none else (Host.bridge name).change (fun _ => some up) h

/-- A command, and whether the playbook goes on when it fails. -/
structure Task where
  command : Command
  ignoreErrors : Bool := false

/-- The state after the tasks of a playbook, unless one fails. -/
def runTasks (t : Tools) : List Task → Host → Option Host
  | [], h => some h
  | task :: tasks, h =>
    let (h, ok) := task.command.exec t h
    if ok || task.ignoreErrors then runTasks t tasks h else none

/-! ## Injection -/

/-- `original_state` -/
structure OriginalState where
  mtu : Option ℤ := none
  peerIp : Option String := none
  remoteAs : Option ℤ := none
  vrf : Option String := none
  method : Option String := none
  router : Option String := none
  interface : Option String := none
  hadExistingQdisc : Option Bool := none
  mode : Option String := none
  bridge : Option String := none
  peerRouter : Option String := none
  correctArea : Option String := none
  wrongArea : Option String := none
  duplicateIp : Option String := none
  originalQueueLength : Option ℤ := none
  originalOspfCost : Option ℤ := none
  correctRt : Option String := none
  wrongRt : Option String := none
deriving DecidableEq

/-- `extravars` of the injection. -/
structure InjectVars where
  failureType : Kind
  router : String
  interface : String
  peerIp : String
  vrf : String
  peerRouter : String
  linkDownMode : String
  bridge : String
  mtu : ℤ
  errorRate : String
  method : String
  remoteAs : ℤ
  wrongArea : String
  correctArea : String
  duplicateIp : String
  queueLength : ℤ
  ospfCost : ℤ
  wrongRt : String
  correctRt : String

def injectVars (spec : Spec) (derivedBridge : String) : InjectVars where
  failureType := spec.failureType
  router := spec.target.router.getD "None"
  interface := spec.target.interface.getD ""
  peerIp := spec.target.peerIp.getD ""
  vrf := spec.target.vrf.getD "global"
  peerRouter := spec.target.peerRouter.getD ""
  linkDownMode :=
    if spec.failureType = .known .linkDown then
      if given spec.target.peerRouter then "bridge" else "interface"
    else ""
  bridge := derivedBridge
  mtu := spec.parameters.mtu.getD 1400
  errorRate := spec.parameters.errorRate.getD "5%"
  method := spec.parameters.method.getD "loopback_disable"
  remoteAs := spec.parameters.remoteAs.getD 0
  wrongArea := spec.parameters.wrongArea.getD ""
  correctArea := spec.parameters.correctArea.getD "0.0.0.0"
  duplicateIp := spec.parameters.duplicateIp.getD ""
  queueLength := spec.parameters.queueLength.getD 20
  ospfCost := spec.parameters.ospfCost.getD 65535
  wrongRt := spec.parameters.wrongRt.getD ""
  correctRt := spec.parameters.correctRt.getD ""

/-- The instance that a VRF of a fault means. -/
def bgpVrf (vrf : String) : String := if vrf = "global" then "default" else vrf

/-- The blank-separated fields of a line. -/
def fields (line : String) : List String :=
  ((line.toList.splitOnP Char.isWhitespace).filter (· ≠ [])).map String.ofList

/-- `awk '/Cost:/ {print $2}' | head -1`, as a number; `int` makes 0 of what is none. -/
def readCost (lines : List String) : ℤ :=
  match lines.find? fun line => decide ("Cost:".toList <:+: line.toList) with
  | none => 0
  | some line => ((fields line)[1]?.bind String.toInt?).getD 0

/-- `tc qdisc show` lists a qdisc other than `noqueue` and `mq`. -/
def Link.hasQdisc (l : Link) : Bool :=
  [l.root, l.ingress].any fun qdisc => qdisc.any fun text =>
    !("noqueue".toList.isPrefixOf text.toList || "mq".toList.isPrefixOf text.toList)

namespace InjectVars

variable (t : Tools) (v : InjectVars)

/-- What the playbook saves before it changes anything; what cannot be read is 0. -/
def facts (h : Host) : Option OriginalState :=
  let link := (Host.link v.router v.interface).get? h
  match v.failureType with
  | .unknown _ => none
  | .known .mtuMismatch => some { mtu := some ((link.map fun l => (l.mtu : ℤ)).getD 0) }
  | .known .bgpSessionDown =>
    some { peerIp := some v.peerIp, remoteAs := some v.remoteAs, vrf := some v.vrf }
  | .known .processCrash => some { method := some v.method, router := some v.router }
  | .known .packetCorruption =>
    some { interface := some v.interface, hadExistingQdisc := some (link.any Link.hasQdisc) }
  | .known .linkDown =>
    if v.linkDownMode = "interface" then
      some { mode := some "interface", interface := some v.interface, router := some v.router }
    else if v.linkDownMode = "bridge" then
      some
        { mode := some "bridge", bridge := some v.bridge, router := some v.router
          peerRouter := some v.peerRouter }
    else none
  | .known .ospfAreaMismatch =>
    some
      { interface := some v.interface, correctArea := some v.correctArea
        wrongArea := some v.wrongArea }
  | .known .duplicateIp => some { interface := some v.interface, duplicateIp := some v.duplicateIp }
  | .known .txqueueStarvation =>
    some
      { interface := some v.interface
        originalQueueLength := some ((link.map fun l => (l.txqueuelen.toNat : ℤ)).getD 0) }
  | .known .ospfCostInflation =>
    some
      { interface := some v.interface
        originalOspfCost := some ((h.routers v.router).elim 0 fun r =>
          readCost (t.showOspfInterface r v.interface)) }
  | .known .vrfRtMisconfiguration =>
    some { vrf := some v.vrf, correctRt := some v.correctRt, wrongRt := some v.wrongRt }

/-- The commands of `failure_inject`. -/
def tasks : List Task :=
  match v.failureType with
  | .unknown _ => []
  | .known .mtuMismatch => [⟨.link v.router v.interface (.mtu v.mtu), false⟩]
  | .known .bgpSessionDown =>
    [⟨.bgp v.router (bgpVrf v.vrf) v.remoteAs [.noNeighbor v.peerIp], false⟩]
  | .known .processCrash =>
    if v.method = "process_kill" then [⟨.killBgpd v.router, true⟩]
    else if v.method = "loopback_disable" then [⟨.link v.router "lo" .down, false⟩]
    else []
  | .known .packetCorruption =>
    [⟨.link v.router v.interface .delRoot, true⟩,
      ⟨.link v.router v.interface (.addNetem v.errorRate), false⟩]
  | .known .linkDown =>
    if v.linkDownMode = "interface" then [⟨.link v.router v.interface .down, false⟩]
    else if v.linkDownMode = "bridge" then [⟨.bridge v.bridge false, false⟩]
    else []
  | .known .ospfAreaMismatch =>
    [⟨.ospf v.router v.interface (.noArea v.correctArea), false⟩,
      ⟨.ospf v.router v.interface (.area v.wrongArea), false⟩]
  | .known .duplicateIp => [⟨.link v.router v.interface (.addAddress v.duplicateIp), false⟩]
  | .known .txqueueStarvation => [⟨.link v.router v.interface (.txqueuelen v.queueLength), false⟩]
  | .known .ospfCostInflation => [⟨.ospf v.router v.interface (.cost v.ospfCost), false⟩]
  | .known .vrfRtMisconfiguration =>
    [⟨.bgp v.router v.vrf 65001 [.noAddressFamily], true⟩,
      ⟨.bgp v.router v.vrf 65001 [.noRouteTarget v.correctRt, .routeTarget v.wrongRt], false⟩]

/-- `original_state` with the bridge, which the runner may not have reported. -/
def keepBridge (saved : OriginalState) : OriginalState :=
  if v.failureType = .known .linkDown ∧ v.linkDownMode = "bridge" ∧ v.bridge ≠ "" ∧
      saved.bridge.getD "" = "" then
    { saved with
      bridge := some v.bridge
      mode := saved.mode.or (some "bridge")
      router := saved.router.or (some v.router)
      peerRouter := saved.peerRouter.or (some v.peerRouter) }
  else saved

end InjectVars

/-- `inject_failure`, when it reports success: the `original_state`, and what it leaves. -/
def injectFailure (t : Tools) (spec : Spec) (derivedBridge : String) (h : Host) :
    Option (OriginalState × Host) := do
  let v := injectVars spec derivedBridge
  -- the playbook ends with a message that shows the fact
  let facts ← v.facts t h
  let h ← runTasks t v.tasks h
  return (v.keepBridge (if t.captures then facts else {}), h)

/-! ## Restoration -/

/-- `extravars` of the restoration, without those that the playbook does not use. -/
structure RestoreVars where
  failureType : Kind
  router : String
  interface : String
  peerIp : String
  vrf : String
  linkDownMode : String
  bridge : String
  method : String
  originalMtu : ℤ
  originalRemoteAs : ℤ
  correctArea : String
  wrongArea : String
  duplicateIp : String
  originalQueueLength : ℤ
  originalOspfCost : ℤ
  correctRt : String
  wrongRt : String

def restoreVars (spec : Spec) (saved : OriginalState) : RestoreVars where
  failureType := spec.failureType
  router := spec.target.router.getD "None"
  interface :=
    if saved.interface.getD "" = "" then spec.target.interface.getD "" else saved.interface.getD ""
  peerIp := spec.target.peerIp.getD ""
  vrf := spec.target.vrf.getD "global"
  linkDownMode := saved.mode.getD (if given spec.target.peerRouter then "bridge" else "interface")
  bridge := saved.bridge.getD ""
  method := spec.parameters.method.getD (saved.method.getD "loopback_disable")
  originalMtu := saved.mtu.getD 1500
  originalRemoteAs := saved.remoteAs.getD (spec.parameters.remoteAs.getD 0)
  correctArea := saved.correctArea.getD (spec.parameters.correctArea.getD "0.0.0.0")
  wrongArea := saved.wrongArea.getD (spec.parameters.wrongArea.getD "")
  duplicateIp := saved.duplicateIp.getD (spec.parameters.duplicateIp.getD "")
  originalQueueLength := saved.originalQueueLength.getD 1000
  originalOspfCost := saved.originalOspfCost.getD 1
  correctRt := saved.correctRt.getD (spec.parameters.correctRt.getD "")
  wrongRt := saved.wrongRt.getD (spec.parameters.wrongRt.getD "")

/-- The commands of `failure_restore`. -/
def RestoreVars.tasks (v : RestoreVars) : List Task :=
  match v.failureType with
  | .unknown _ => []
  | .known .mtuMismatch => [⟨.link v.router v.interface (.mtu v.originalMtu), false⟩]
  | .known .bgpSessionDown =>
    [⟨.bgp v.router (bgpVrf v.vrf) v.originalRemoteAs [.neighbor v.peerIp v.originalRemoteAs],
      false⟩]
  | .known .processCrash =>
    if v.method = "process_kill" then [⟨.restartBgpd v.router, true⟩]
    else if v.method = "loopback_disable" then [⟨.link v.router "lo" .up, false⟩]
    else []
  | .known .packetCorruption => [⟨.link v.router v.interface .delRoot, true⟩]
  | .known .linkDown =>
    if v.linkDownMode = "interface" then [⟨.link v.router v.interface .up, false⟩]
    else if v.linkDownMode = "bridge" ∧ v.bridge ≠ "" then [⟨.bridge v.bridge true, false⟩]
    else []
  | .known .ospfAreaMismatch =>
    [⟨.ospf v.router v.interface (.noArea v.wrongArea), false⟩,
      ⟨.ospf v.router v.interface (.area v.correctArea), false⟩]
  | .known .duplicateIp => [⟨.link v.router v.interface (.delAddress v.duplicateIp), true⟩]
  | .known .txqueueStarvation =>
    [⟨.link v.router v.interface (.txqueuelen v.originalQueueLength), false⟩]
  | .known .ospfCostInflation => [⟨.ospf v.router v.interface (.cost v.originalOspfCost), false⟩]
  | .known .vrfRtMisconfiguration =>
    [⟨.bgp v.router v.vrf 65001 [.noRouteTarget v.wrongRt], true⟩,
      ⟨.bgp v.router v.vrf 65001 [.routeTarget v.correctRt], false⟩]

/-- `restore_failure`, when it reports success: what it leaves. -/
def restoreFailure (t : Tools) (spec : Spec) (saved : OriginalState) (h : Host) : Option Host :=
  runTasks t (restoreVars spec saved).tasks h

end GnnSandbox.Operator.Playbook
