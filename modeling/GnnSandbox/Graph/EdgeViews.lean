import GnnSandbox.Graph.Schema
import GnnSandbox.Lib.Scd

/-!
# Edges of the property graph

The views `ConnectsTo_Edge`, `LinkedTo_Edge` and `AssociatedWith_Edge` join the versions of two
node tables over an edge table. Each compares the validity of the two nodes only: the interval
that the edge table keeps for the edge is not read.
-/

namespace GnnSandbox.Graph

/-- `9999-12-31T23:59:59Z`, in microseconds. -/
def endOfTime : Timestamp := 253402300799000000

/-- An edge between two versions: their ids and `valid_start_ts`. -/
abbrev Edge := Scd.Pair String Timestamp

/-! ## The views -/

def connectsToEdge (db : Database) : List Edge :=
  Scd.join endOfTime PhysicalInterface.id InterfaceLink.interfaceId InterfaceLink.linkId
    PhysicalLink.id (db .physicalInterface) (db .interfaceLink) (db .physicalLink)

def linkedToEdge (db : Database) : List Edge :=
  Scd.join endOfTime PhysicalLink.id InterfaceLink.linkId InterfaceLink.interfaceId
    PhysicalInterface.id (db .physicalLink) (db .interfaceLink) (db .physicalInterface)

def associatedWithEdge (db : Database) : List Edge :=
  Scd.join endOfTime PhysicalInterface.id SubnetAssociation.entityId SubnetAssociation.subnetId
    LogicalSubnet.id (db .physicalInterface) (db .subnetAssociation) (db .logicalSubnet)

/-! ## What they hold -/

section Views

variable (db : Database) (i : Scd.Version Timestamp PhysicalInterface)
  (l : Scd.Version Timestamp PhysicalLink) (s : Scd.Version Timestamp LogicalSubnet)

def interfaceLinkEdge : Edge := .of PhysicalInterface.id PhysicalLink.id i l

def linkInterfaceEdge : Edge := .of PhysicalLink.id PhysicalInterface.id l i

def interfaceSubnetEdge : Edge := .of PhysicalInterface.id LogicalSubnet.id i s

/-- An `Interface_Link` row of the ids is valid at an instant of both versions. -/
def Linked : Prop :=
  Scd.Joined PhysicalInterface.id InterfaceLink.interfaceId InterfaceLink.linkId PhysicalLink.id
    (db .interfaceLink) i l

/-- A `Subnet_Association` row of the ids is valid at an instant of both versions. -/
def Associated : Prop :=
  Scd.Joined PhysicalInterface.id SubnetAssociation.entityId SubnetAssociation.subnetId
    LogicalSubnet.id (db .subnetAssociation) i s

/-- Versions of an interface and a link that overlap while a row names them, at any time, are
linked. -/
def LinkHeld : Prop :=
  Scd.Held endOfTime PhysicalInterface.id InterfaceLink.interfaceId InterfaceLink.linkId
    PhysicalLink.id (db .interfaceLink) i l

def AssociationHeld : Prop :=
  Scd.Held endOfTime PhysicalInterface.id SubnetAssociation.entityId SubnetAssociation.subnetId
    LogicalSubnet.id (db .subnetAssociation) i s

/-- The edges are the rows valid at an instant of both their ends, in either direction. -/
structure RespectsHistory : Prop where
  connectsTo : ∀ i ∈ db .physicalInterface, ∀ l ∈ db .physicalLink,
    (interfaceLinkEdge i l ∈ connectsToEdge db ↔ Linked db i l)
  linkedTo : ∀ i ∈ db .physicalInterface, ∀ l ∈ db .physicalLink,
    (linkInterfaceEdge i l ∈ linkedToEdge db ↔ Linked db i l)
  associatedWith : ∀ i ∈ db .physicalInterface, ∀ s ∈ db .logicalSubnet,
    (interfaceSubnetEdge i s ∈ associatedWithEdge db ↔ Associated db i s)
  converse : ∀ e : Edge, e ∈ connectsToEdge db ↔ e.swap ∈ linkedToEdge db

/-- Versions that overlap are joined by a row valid while they do, if any row names them. -/
structure EdgesHeld : Prop where
  link : ∀ i ∈ db .physicalInterface, ∀ l ∈ db .physicalLink, LinkHeld db i l
  association : ∀ i ∈ db .physicalInterface, ∀ s ∈ db .logicalSubnet, AssociationHeld db i s

end Views

section Holds

variable {db : Database} {now : Timestamp}

/-- The two directions of a link are converses of each other. -/
theorem mem_connectsToEdge_iff (e : Edge) : e ∈ connectsToEdge db ↔ e.swap ∈ linkedToEdge db :=
  Scd.swap_mem_join.symm

theorem mem_linkedToEdge_iff {i : Scd.Version Timestamp PhysicalInterface}
    {l : Scd.Version Timestamp PhysicalLink} :
    linkInterfaceEdge i l ∈ linkedToEdge db ↔ interfaceLinkEdge i l ∈ connectsToEdge db :=
  Scd.swap_mem_join (p := interfaceLinkEdge i l)

theorem linked_iff {i : Scd.Version Timestamp PhysicalInterface}
    {l : Scd.Version Timestamp PhysicalLink}
    (hwi : Scd.WellFormed PhysicalInterface.id now (db .physicalInterface))
    (hwl : Scd.WellFormed PhysicalLink.id now (db .physicalLink))
    (hi : i ∈ db .physicalInterface) (hl : l ∈ db .physicalLink) :
    (interfaceLinkEdge i l ∈ connectsToEdge db ↔ Linked db i l) ↔ LinkHeld db i l :=
  Scd.join_iff_joined hwi hwl hi hl

theorem associated_iff {i : Scd.Version Timestamp PhysicalInterface}
    {s : Scd.Version Timestamp LogicalSubnet}
    (hwi : Scd.WellFormed PhysicalInterface.id now (db .physicalInterface))
    (hws : Scd.WellFormed LogicalSubnet.id now (db .logicalSubnet))
    (hi : i ∈ db .physicalInterface) (hs : s ∈ db .logicalSubnet) :
    (interfaceSubnetEdge i s ∈ associatedWithEdge db ↔ Associated db i s) ↔
      AssociationHeld db i s :=
  Scd.join_iff_joined hwi hws hi hs

/-- **The views respect the history of the edges** exactly when no edge row names versions that
overlap outside of its own validity. -/
theorem respectsHistory_iff
    (hi : Scd.WellFormed Row.key now (db .physicalInterface))
    (hl : Scd.WellFormed Row.key now (db .physicalLink))
    (hs : Scd.WellFormed Row.key now (db .logicalSubnet)) :
    RespectsHistory db ↔ EdgesHeld db := by
  have hwi : Scd.WellFormed PhysicalInterface.id now _ := Scd.WellFormed.of_comp (f := Key.id) hi
  have hwl : Scd.WellFormed PhysicalLink.id now _ := Scd.WellFormed.of_comp (f := Key.id) hl
  have hws : Scd.WellFormed LogicalSubnet.id now _ := Scd.WellFormed.of_comp (f := Key.id) hs
  constructor
  · intro h
    exact ⟨fun i hi l hl => (linked_iff hwi hwl hi hl).mp (h.connectsTo i hi l hl),
      fun i hi s hs => (associated_iff hwi hws hi hs).mp (h.associatedWith i hi s hs)⟩
  · intro h
    have hlinked : ∀ i ∈ db .physicalInterface, ∀ l ∈ db .physicalLink,
        (interfaceLinkEdge i l ∈ connectsToEdge db ↔ Linked db i l) :=
      fun i hi l hl => (linked_iff hwi hwl hi hl).mpr (h.link i hi l hl)
    exact
      { connectsTo := hlinked
        linkedTo := fun i hi l hl => mem_linkedToEdge_iff.trans (hlinked i hi l hl)
        associatedWith := fun i hi s hs =>
          (associated_iff hwi hws hi hs).mpr (h.association i hi s hs)
        converse := mem_connectsToEdge_iff }

end Holds

/-! ## A connection that was removed -/

section Removed

def cabled : PhysicalInterface where
  id := "pe1:interface:eth1"
  routerId := "pe1"
  name := "eth1"
  speed := none
  mediaType := none
  ipAddress := none
  macAddress := none
  status := some "UP"

def upgraded : Scd.Version Timestamp PhysicalInterface :=
  ⟨{ cabled with speed := some "10G" }, 5, none⟩

def cable : Scd.Version Timestamp PhysicalLink :=
  ⟨{ id := "link:core", name := none, bandwidth := none, status := none, properties := none },
    1, none⟩

/-- The interface left the link at 3 and got a new version at 5. -/
def unplugged : Database
  | .physicalInterface => [⟨cabled, 1, some 5⟩, upgraded]
  | .physicalLink => [cable]
  | .interfaceLink => [⟨⟨"pe1:interface:eth1", "link:core"⟩, 2, some 3⟩]
  | _ => []

theorem wellFormed_interfaces : Scd.WellFormed Row.key 6 (unplugged .physicalInterface) where
  started := by decide
  ended := by simp [unplugged, upgraded]
  nonempty := by simp [unplugged, upgraded]
  follows := by simp [unplugged, Scd.Follows, upgraded]

theorem wellFormed_unplugged (n : TableName) : Scd.WellFormed Row.key 6 (unplugged n) := by
  cases n with
  | physicalInterface => exact wellFormed_interfaces
  | physicalLink => exact Scd.wellFormed_singleton (by decide) (by simp [cable])
  | interfaceLink => exact Scd.wellFormed_singleton (by decide) (by simp)
  | _ => exact Scd.wellFormed_nil 6

theorem respectsHistory_iff_unplugged : RespectsHistory unplugged ↔ EdgesHeld unplugged :=
  respectsHistory_iff (wellFormed_unplugged _) (wellFormed_unplugged _) (wellFormed_unplugged _)

/-- The new version of the interface is connected to the link that it left before. -/
theorem unplugged_still_connected :
    (∀ n, Scd.WellFormed Row.key 6 (unplugged n)) ∧ ¬ RespectsHistory unplugged := by
  refine ⟨wellFormed_unplugged, fun h => ?_⟩
  have hedge : interfaceLinkEdge upgraded cable ∈ connectsToEdge unplugged := by decide
  obtain ⟨e, he, -, -, t, hnew, hold, -⟩ :=
    (h.connectsTo upgraded (by decide) cable (by decide)).mp hedge
  obtain rfl := List.mem_singleton.mp he
  exact absurd (hold.2 3 rfl) (Nat.not_lt.mpr ((by decide : 3 ≤ 5).trans hnew.1))

end Removed

end GnnSandbox.Graph
