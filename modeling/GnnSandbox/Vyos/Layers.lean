import GnnSandbox.Lib.First
import GnnSandbox.Vyos.Patch
import GnnSandbox.Vyos.Topology

/-!
# The layers of a router

The specs of the routers of a namespace, and how the handlers of VyOSInfrastructure, VyOSUnderlay
and VyOSL3VPN change them when every call of the API succeeds, but for a patch of a router that
does not exist, whose error the handlers log. The update handlers are the create handlers.
-/

namespace GnnSandbox.Vyos

open Graph (Json)

/-- The specs of the routers of a namespace, by name. -/
abbrev Routers := String → Option Spec

/-- Change the spec of a router, if it exists. -/
def Routers.modify (routers : Routers) (name : String) (f : Spec → Spec) : Routers :=
  fun n => if n = name then (routers n).map f else routers n

/-- `patch_vyos_router` -/
def patchVyosRouter (name : String) (patch : SpecPatch) (routers : Routers) : Routers :=
  routers.modify name fun spec => spec.patched patch

/-! ## The infrastructure -/

/-- `create_vyos_router`, which patches a router that exists already. -/
def createVyosRouter (routers : Routers) (router : String × Spec) : Routers :=
  fun n => if n = router.1 then
    some (((routers n).map fun spec => spec.patched router.2.patch).getD router.2) else routers n

/-- `create_vyosinfrastructure` and `update_vyosinfrastructure`, after the validation. -/
def applyInfrastructure (spec : Topology) (routers : Routers) : Routers :=
  (generateVyosRouters spec).foldl createVyosRouter routers

/-! ## The underlay -/

structure UnderlayRouter where
  name : String
  protocols : Option Protocols := none
  trafficPolicy : Option Json := none
deriving DecidableEq

/-- `spec` of a VyOSUnderlay. -/
structure Underlay where
  routers : Option (List UnderlayRouter) := none
deriving DecidableEq

/-- `router_patch` of an entry. -/
def UnderlayRouter.patch (router : UnderlayRouter) : SpecPatch where
  protocols := some (router.protocols.getD {})
  trafficPolicy := router.trafficPolicy

/-- `create_vyosunderlay` and `update_vyosunderlay` -/
def applyUnderlay (spec : Underlay) (routers : Routers) : Routers :=
  (spec.routers.getD []).foldl (fun routers r => patchVyosRouter r.name r.patch routers) routers

/-- `router_patch` of an entry when the underlay is deleted. -/
def UnderlayRouter.clearPatch (router : UnderlayRouter) : SpecPatch where
  protocols := some {}
  trafficPolicy := router.trafficPolicy.map fun _ => .obj []

/-- `delete_vyosunderlay` -/
def deleteUnderlay (spec : Underlay) (routers : Routers) : Routers :=
  (spec.routers.getD []).foldl
    (fun routers r => if r.name = "" then routers else patchVyosRouter r.name r.clearPatch routers)
    routers

/-! ## The VPNs -/

/-- A VRF that a VPN declares. The schema of VyOSRouter has no `interfaces` in a VRF. -/
structure VpnVrf where
  vrf : Vrf
  interfaces : Option (List String) := none
deriving DecidableEq

/-- `bgp` of an entry; the handlers read only its VRFs. -/
structure VpnBgp where
  vrfs : Option (List BgpVrf) := none
deriving DecidableEq

structure PeRouter where
  name : String
  vrfs : Option (List VpnVrf) := none
  bgp : Option VpnBgp := none
deriving DecidableEq

structure CeRouter where
  name : String
  protocols : Option Protocols := none
deriving DecidableEq

/-- `spec` of a VyOSL3VPN. -/
structure L3vpn where
  routers : Option (List PeRouter) := none
  ceRouters : Option (List CeRouter) := none
deriving DecidableEq

namespace PeRouter

variable (router : PeRouter)

/-- `vpn_vrfs` -/
def vrfList : List VpnVrf := router.vrfs.getD []

/-- `vpn_bgp_vrfs` -/
def bgpVrfList : List BgpVrf := (router.bgp.bind VpnBgp.vrfs).getD []

/-- `vpn_vrf_names` -/
def vrfNames : List String := router.vrfList.map (·.vrf.name)

/-- `vpn_bgp_vrf_names` -/
def bgpVrfNames : List String := router.bgpVrfList.map (·.name)

end PeRouter

/-- `spec.vrfs or []` -/
def Spec.vrfList (spec : Spec) : List Vrf := spec.vrfs.getD []

/-- `(spec.protocols or {}).get('bgp') or {}` -/
def Spec.bgpDict (spec : Spec) : Bgp := (spec.protocols.bind Protocols.bgp).getD {}

/-- `spec.interfaces or []` -/
def Spec.interfaceList (spec : Spec) : List Interface := spec.interfaces.getD []

/-- `spec.protocols.bgp.vrfs or []` -/
def Spec.bgpVrfList (spec : Spec) : List BgpVrf := spec.bgpDict.vrfs.getD []

/-- `merged_vrfs` -/
def mergedVrfs (spec : Spec) (router : PeRouter) : List Vrf :=
  (spec.vrfList.filter fun v => v.name ∉ router.vrfNames) ++ router.vrfList.map (·.vrf)

/-- `existing_bgp_vrfs + vpn_bgp_vrfs` -/
def mergedBgpVrfs (spec : Spec) (router : PeRouter) : List BgpVrf :=
  (spec.bgpVrfList.filter fun v => v.name ∉ router.bgpVrfNames) ++ router.bgpVrfList

/-- `merged_bgp` -/
def mergedBgp (spec : Spec) (router : PeRouter) : Bgp :=
  { spec.bgpDict with vrfs := some (mergedBgpVrfs spec router) }

/-- `router_patch` of a PE router. -/
def pePatch (spec : Spec) (router : PeRouter) : SpecPatch where
  vrfs := some (mergedVrfs spec router)
  protocols := some { bgp := some (mergedBgp spec router) }

/-- The first interface of that name gets the VRF. -/
def assignInterface (vrf : String) (spec : Spec) (interface : String) : Spec :=
  let assign := modifyFirst (fun i : Interface => i.name = interface) fun i =>
    { i with vrf := some vrf }
  { spec with interfaces := spec.interfaces.map assign }

/-- The JSON patch with the interfaces of a VRF. -/
def assignVrf (spec : Spec) (v : VpnVrf) : Spec :=
  (v.interfaces.getD []).foldl (assignInterface v.vrf.name) spec

/-- What the create handler does to a PE router. -/
def providePe (spec : Spec) (router : PeRouter) : Spec :=
  router.vrfList.foldl assignVrf (spec.patched (pePatch spec router))

/-- `ce_patch` -/
def CeRouter.patch (router : CeRouter) : SpecPatch where
  protocols := some (router.protocols.getD {})

/-- `create_vyosl3vpn` and `update_vyosl3vpn` -/
def applyVpn (spec : L3vpn) (routers : Routers) : Routers :=
  (spec.ceRouters.getD []).foldl (fun routers r => patchVyosRouter r.name r.patch routers)
    ((spec.routers.getD []).foldl
      (fun routers r => routers.modify r.name fun s => providePe s r) routers)

/-! ## Deleting a VPN -/

/-- `vpn_assigned_interfaces` -/
def PeRouter.assignedInterfaces (router : PeRouter) : List String :=
  router.vrfList.flatMap fun v => v.interfaces.getD []

/-- `cleaned_vrfs` -/
def cleanedVrfs (spec : Spec) (router : PeRouter) : List Vrf :=
  spec.vrfList.filter fun v => v.name ∉ router.vrfNames

/-- `cleaned_bgp` -/
def cleanedBgp (spec : Spec) (router : PeRouter) : Bgp :=
  { spec.bgpDict with vrfs := some (spec.bgpVrfList.filter fun v => v.name ∉ router.vrfNames) }

/-- `cleaned_interfaces` -/
def cleanedInterfaces (spec : Spec) (router : PeRouter) : List Interface :=
  spec.interfaceList.map fun i =>
    if i.name ∈ router.assignedInterfaces then { i with vrf := none } else i

/-- `_cleanup_pe_router` -/
def cleanupPe (spec : Spec) (router : PeRouter) : Spec :=
  spec.patched
    { vrfs := some (cleanedVrfs spec router)
      protocols := some { bgp := some (cleanedBgp spec router) }
      interfaces := some (cleanedInterfaces spec router) }

/-- `_cleanup_ce_router` -/
def cleanupCe (spec : Spec) : Spec := spec.patched { protocols := some {} }

/-- `delete_vyosl3vpn`. Each clean-up reads and patches its router without giving way to the
others. -/
def deleteVpn (spec : L3vpn) (routers : Routers) : Routers :=
  (spec.ceRouters.getD []).foldl
    (fun routers r => if r.name = "" then routers else routers.modify r.name cleanupCe)
    ((spec.routers.getD []).foldl
      (fun routers r => if r.name = "" then routers else
        routers.modify r.name fun s => cleanupPe s r) routers)

end GnnSandbox.Vyos
