import GnnSandbox.Graph.Json
import GnnSandbox.Lib.Registry
import Mathlib.Data.Int.Notation

/-!
# The custom resources that faults are injected into

The specs of VyOSInfrastructure, VyOSUnderlay and VyOSL3VPN, as far as the injection looks at
them; what it does not look at is kept as it is. A field that may be absent is an `Option`, so
that an absent list differs from an empty one.
-/

namespace GnnSandbox.Operator

open Graph (Json)

/-! ## VyOSInfrastructure -/

structure ConnectedRouter where
  routerName : String
  interface : String
  other : Json
deriving DecidableEq

structure Network where
  name : String
  mtu : Option ℤ
  connectedRouters : Option (List ConnectedRouter)
  other : Json
deriving DecidableEq

structure InfrastructureSpec where
  networks : Option (List Network)
  other : Json
deriving DecidableEq

/-! ## VyOSUnderlay -/

structure Area where
  area : String
  type : Option String
  other : Json
deriving DecidableEq

structure InterfaceCost where
  interface : Option String
  cost : Option ℤ
  other : Json
deriving DecidableEq

structure Ospf where
  areas : Option (List Area)
  interfaceCosts : Option (List InterfaceCost)
  other : Json
deriving DecidableEq

structure Protocols where
  ospf : Option Ospf
  other : Json
deriving DecidableEq

structure UnderlayRouter where
  name : String
  protocols : Option Protocols
  trafficPolicy : Option Json
  other : Json
deriving DecidableEq

structure UnderlaySpec where
  routers : Option (List UnderlayRouter)
  other : Json
deriving DecidableEq

/-! ## VyOSL3VPN -/

structure BgpVrf where
  name : String
  neighbors : Option (List Json)
  other : Json
deriving DecidableEq

structure VpnBgp where
  vrfs : Option (List BgpVrf)
  other : Json
deriving DecidableEq

structure VpnVrf where
  name : String
  rtImport : Option (List String)
  other : Json
deriving DecidableEq

structure VpnRouter where
  name : String
  vrfs : Option (List VpnVrf)
  bgp : Option VpnBgp
  other : Json
deriving DecidableEq

structure L3vpnSpec where
  routers : Option (List VpnRouter)
  other : Json
deriving DecidableEq

/-! ## NetworkFailure -/

inductive FailureType where
  | mtuMismatch
  | bgpSessionDown
  | processCrash
  | packetCorruption
  | linkDown
  | ospfAreaMismatch
  | duplicateIp
  | txqueueStarvation
  | ospfCostInflation
  | vrfRtMisconfiguration
deriving DecidableEq, Repr

def FailureType.name : FailureType → String
  | mtuMismatch => "MTU_MISMATCH"
  | bgpSessionDown => "BGP_SESSION_DOWN"
  | processCrash => "PROCESS_CRASH"
  | packetCorruption => "PACKET_CORRUPTION"
  | linkDown => "LINK_DOWN"
  | ospfAreaMismatch => "OSPF_AREA_MISMATCH"
  | duplicateIp => "DUPLICATE_IP"
  | txqueueStarvation => "TXQUEUE_STARVATION"
  | ospfCostInflation => "OSPF_COST_INFLATION"
  | vrfRtMisconfiguration => "VRF_RT_MISCONFIGURATION"

structure Target where
  router : String
  interface : Option String
  peerIp : Option String
  vrf : Option String
deriving DecidableEq

structure Parameters where
  mtu : Option ℤ
  errorRate : Option String
  delay : Option String
  wrongArea : Option String
  correctArea : Option String
  ospfCost : Option ℤ
  wrongRt : Option String
  correctRt : Option String
deriving DecidableEq

structure NetworkFailure where
  name : String
  resourceNamespace : String
  failureType : FailureType
  target : Target
  parameters : Parameters
deriving DecidableEq

/-! ## The resources of a namespace -/

/-- `metadata.name`, which is never empty. -/
abbrev ResourceName := { name : String // name ≠ "" }

/-- The resources of a namespace, in the order in which they are listed. -/
structure Cluster where
  infrastructures : Registry ResourceName InfrastructureSpec
  underlays : Registry ResourceName UnderlaySpec
  l3vpns : Registry ResourceName L3vpnSpec
deriving DecidableEq

end GnnSandbox.Operator
