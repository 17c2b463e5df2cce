import GnnSandbox.Graph.Performed

/-!
# What a sync of a VyOSRouter performs

The revision of the router's row, then those of its interfaces. The speed of an interface
depends on the links of the store, which the sync does not write.
-/

namespace GnnSandbox.Graph

open Scd Effect

namespace Router

variable {env : Env} {w : World} {r : VyOSRouter} {status : String}
  {iface : InterfaceSpec}

/-- The speed that the sync finds for an interface. -/
def foundSpeed (env : Env) (db : Database) (r : VyOSRouter) (iface : InterfaceSpec) : String :=
  if ifaceName iface = "lo" then "N/A"
  else speedFrom iface (env.read (linksOf (ifaceId r iface) db) PhysicalLink.id)

/-- The columns of an interface that are compared. -/
def ifaceColumns (row : PhysicalInterface) :
    Option String × Option String × Option String × Option String × Option String :=
  (row.speed, row.mediaType, row.ipAddress, row.macAddress, row.status)

/-- The values with which they are compared. -/
def ifaceComputed (env : Env) (db : Database) (r : VyOSRouter) (status : String)
    (iface : InterfaceSpec) :
    Option String × Option String × Option String × Option String × Option String :=
  (some (foundSpeed env db r iface), some (mediaType iface), some (ipAddress iface),
    some ((ifaceData iface).mac.getD ""), some (ifaceStatus r status iface))

def reviseIface (env : Env) (db : Database) (r : VyOSRouter) (status : String)
    (iface : InterfaceSpec) : Revising :=
  .upsert .physicalInterface (ifaceRow env r status iface (foundSpeed env db r iface))
    fun row : PhysicalInterface => row.speed = some (foundSpeed env db r iface) ∧
      row.mediaType = some (mediaType iface) ∧ row.ipAddress = some (ipAddress iface) ∧
      row.macAddress = some ((ifaceData iface).mac.getD "") ∧
      row.status = some (ifaceStatus r status iface)

def reviseSubnet (addr : String) (iface : InterfaceSpec) : Revising :=
  .upsert .logicalSubnet (subnetRow addr iface) fun row : LogicalSubnet =>
    row.properties = some (.obj [])

def planInterface (env : Env) (db : Database) (r : VyOSRouter) (status : String)
    (iface : InterfaceSpec) : List Revising :=
  reviseIface env db r status iface ::
    match addrCidr iface with
    | none => []
    | some addr =>
      [reviseSubnet addr iface, .ensure .subnetAssociation (assocRow r iface addr)]

def planInterfaces (env : Env) (db : Database) (r : VyOSRouter) (status : String) :
    List Revising := (r.spec.interfaces.getD []).flatMap (planInterface env db r status)

/-- The stored router is up to date. -/
def isCurrent (env : Env) (db : Database) (r : VyOSRouter) (status : String) : Bool :=
  (openRow db .physicalRouter (.id (routerId r))).any (routerUnchanged env r status)

/-- The revisions of `sync_physical_router`. Without a row to insert the transaction goes
through only when the stored router is up to date. -/
def plan (env : Env) (db : Database) (r : VyOSRouter) : List Revising :=
  match routerStatus r with
  | none => []
  | some status =>
    match routerRow env r status with
    | some row => .upsert .physicalRouter row (routerUnchanged env r status) ::
        planInterfaces env db r status
    | none => if isCurrent env db r status then planInterfaces env db r status else []

theorem mem_planInterface {db : Database} {v : Revising} :
    v ∈ planInterface env db r status iface ↔ v = reviseIface env db r status iface ∨
      ∃ addr, addrCidr iface = some addr ∧ (v = reviseSubnet addr iface ∨
        v = .ensure .subnetAssociation (assocRow r iface addr)) := by
  unfold planInterface
  match addrCidr iface with
  | none => simp
  | some addr => simp

theorem foundSpeed_congr {db db' : Database} (hedges : db' .interfaceLink = db .interfaceLink)
    (hlinks : db' .physicalLink = db .physicalLink) (iface : InterfaceSpec) :
    foundSpeed env db' r iface = foundSpeed env db r iface := by
  unfold foundSpeed linksOf
  rw [hedges, hlinks]

theorem planInterface_congr {db db' : Database}
    (hedges : db' .interfaceLink = db .interfaceLink)
    (hlinks : db' .physicalLink = db .physicalLink) (iface : InterfaceSpec) :
    planInterface env db' r status iface = planInterface env db r status iface := by
  unfold planInterface reviseIface
  rw [foundSpeed_congr hedges hlinks]

/-- The lookup of an interface's speed has no choice. -/
def ReadsSpeed (env : Env) (db : Database) (r : VyOSRouter) (iface : InterfaceSpec) : Prop :=
  env.Decides (linksOf (ifaceId r iface) db) PhysicalLink.id

/-- The lookups of the sync have no choice. -/
def Reads (env : Env) (db : Database) (r : VyOSRouter) : Prop :=
  ∀ iface ∈ r.spec.interfaces.getD [], ReadsSpeed env db r iface

theorem reads_of_steady (hsteady : env.Steady) (db : Database) (r : VyOSRouter) :
    Reads env db r := fun _ _ => hsteady.decides _ _

theorem readsSpeed_congr {db db' : Database} (hedges : db' .interfaceLink = db .interfaceLink)
    (hlinks : db' .physicalLink = db .physicalLink) (h : ReadsSpeed env db r iface) :
    ReadsSpeed env db' r iface := by
  unfold ReadsSpeed linksOf at h ⊢
  rwa [hedges, hlinks]

/-- A lookup changes nothing and finds what the state holds. -/
theorem performs_lookupSpeed (hok : env.Reliable) (hread : ReadsSpeed env w.db r iface) :
    (after (lookupSpeed env r iface) w).db = w.db ∧
      result (lookupSpeed env r iface) w = foundSpeed env w.db r iface := by
  unfold lookupSpeed foundSpeed
  by_cases hlo : ifaceName iface = "lo"
  · rw [if_pos hlo, if_pos hlo]
    exact ⟨rfl, rfl⟩
  · rw [if_neg hlo, if_neg hlo, after_bind, after_pure, after_snapshot, result_bind, result_pure,
      result_snapshot_eq hok hread]
    exact ⟨rfl, rfl⟩

theorem performs_syncInterface (hok : env.Reliable) (hread : ReadsSpeed env w.db r iface)
    (hw : Single w.db) :
    Performs noSide (syncInterface env r status iface) w (planInterface env w.db r status iface) := by
  obtain ⟨hdb, hspeed⟩ := performs_lookupSpeed hok hread
  unfold syncInterface
  refine Performs.bind_read hdb ?_
  rw [hspeed]
  have hw₁ : Single (after (lookupSpeed env r iface) w).db := hdb ▸ hw
  generalize after (lookupSpeed env r iface) w = w₁ at hw₁ ⊢
  have hiface : Performs noSide
      (attempt env (sqlUpsertIface env r status iface (foundSpeed env w.db r iface))) w₁
      [reviseIface env w.db r status iface] :=
    (performs_upsert noSide (n := .physicalInterface) _ _ hok hw₁).2
  have hw₂ := Performed.single hiface hw₁
  generalize hafter : after (attempt env (sqlUpsertIface env r status iface
    (foundSpeed env w.db r iface))) w₁ = w₂ at hw₂
  unfold planInterface
  match addrCidr iface with
  | none => exact Performs.bind hiface (Performs.pure ())
  | some addr =>
    have hsubnet : result (runInTransaction env (sqlUpsertSubnet addr iface)) w₂ = true ∧
        Performs noSide (runInTransaction env (sqlUpsertSubnet addr iface)) w₂
          [reviseSubnet addr iface] := performs_upsert noSide (n := .logicalSubnet) _ _ hok hw₂
    have hw₃ := Performed.single hsubnet.2 hw₂
    have hassoc : Performs noSide (attempt env (sqlUpsertSubnetAssoc r iface addr))
        (after (runInTransaction env (sqlUpsertSubnet addr iface)) w₂)
        [.ensure .subnetAssociation (assocRow r iface addr)] :=
      (performs_upsert noSide (n := .subnetAssociation) _ (fun _ => true) hok hw₃).2
    refine Performs.bind hiface ?_
    rw [hafter]
    refine Performs.bind hsubnet.2 ?_
    rw [hsubnet.1]
    exact hassoc

theorem ne_of_mem_planInterfaces {db : Database} {v : Revising}
    (h : v ∈ planInterfaces env db r status) : v.n ≠ .interfaceLink ∧ v.n ≠ .physicalLink ∧
      v.n ≠ .physicalRouter := by
  obtain ⟨iface, -, h⟩ := List.mem_flatMap.mp h
  rcases mem_planInterface.mp h with rfl | ⟨addr, -, rfl | rfl⟩
  all_goals exact ⟨(nomatch ·), (nomatch ·), (nomatch ·)⟩

theorem planInterfaces_congr {db db' : Database} (hedges : db' .interfaceLink = db .interfaceLink)
    (hlinks : db' .physicalLink = db .physicalLink) :
    planInterfaces env db' r status = planInterfaces env db r status :=
  congrArg (List.flatMap · (r.spec.interfaces.getD []))
    (funext fun iface => planInterface_congr hedges hlinks iface)

theorem performs_syncInterfaces (status : String) (hok : env.Reliable)
    (hreads : Reads env w.db r) (hw : Single w.db) :
    Performs noSide (forM (r.spec.interfaces.getD []) (syncInterface env r status)) w
      (planInterfaces env w.db r status) := by
  refine Performs.loop (fun n => n = .interfaceLink ∨ n = .physicalLink) hw
    (fun n _ => not_noSide n) ?_ ?_
  · intro iface hiface v hv hn
    have hv' : v ∈ planInterfaces env w.db r status := List.mem_flatMap.mpr ⟨iface, hiface, hv⟩
    obtain ⟨hne, hne', -⟩ := ne_of_mem_planInterfaces hv'
    exact hn.elim hne hne'
  · intro iface hiface v hv hsame
    have hedges := hsame _ (Or.inl rfl)
    have hlinks := hsame _ (Or.inr rfl)
    rw [← planInterface_congr hedges hlinks]
    exact performs_syncInterface hok (readsSpeed_congr hedges hlinks (hreads iface hiface)) hv

/-- Without a row to insert, the transaction of the router only looks at what is stored. -/
theorem sqlUpsertRouter_of_none {db : Database} (hdb : Single db)
    (hrow : routerRow env r status = none) (now : Timestamp) :
    sqlUpsertRouter env r status now db = if isCurrent env db r status then some db else none := by
  have hone := hdb .physicalRouter (.id (routerId r))
  unfold sqlUpsertRouter isCurrent openRow
  rw [hrow]
  dsimp only
  match hv : db.active .physicalRouter (.id (routerId r)) with
  | [] => rfl
  | [v] => rfl
  | _ :: _ :: _ =>
    rw [hv] at hone
    simp at hone

theorem performs (hok : env.Reliable) (hreads : Reads env w.db r) (hw : Single w.db) :
    Performs noSide (syncPhysicalRouter env r) w (plan env w.db r) := by
  unfold syncPhysicalRouter plan
  cases hs : routerStatus r with
  | none => exact Performs.pure ()
  | some status =>
    dsimp only
    cases hrow : routerRow env r status with
    | some row =>
      have htx : sqlUpsertRouter env r status =
          sqlUpsert .physicalRouter row (routerUnchanged env r status) := by
        unfold sqlUpsertRouter
        rw [hrow]
      rw [htx]
      obtain ⟨hres, hrouter⟩ := performs_upsert noSide (n := .physicalRouter) row
        (routerUnchanged env r status) hok hw
      have hne : ∀ v ∈ [Revising.upsert .physicalRouter row (routerUnchanged env r status)],
          v.n = .physicalRouter := fun v hv => by rw [List.mem_singleton.mp hv]; rfl
      have hedges₁ := Performed.table_eq (n := .interfaceLink) hrouter id fun v hv h => by
        rw [hne v hv] at h
        cases h
      have hlinks₁ := Performed.table_eq (n := .physicalLink) hrouter id fun v hv h => by
        rw [hne v hv] at h
        cases h
      have hloop := performs_syncInterfaces status hok
        (fun iface hiface => readsSpeed_congr hedges₁ hlinks₁ (hreads iface hiface))
        (Performed.single hrouter hw)
      rw [planInterfaces_congr hedges₁ hlinks₁] at hloop
      refine Performs.bind hrouter ?_
      rw [hres]
      exact hloop
    | none =>
      have htx := sqlUpsertRouter_of_none hw hrow (env.commitTs w.calls)
      rcases runInTransaction_cases env (sqlUpsertRouter env r status) w with
        ⟨db, -, hdb, hres, hafter⟩ | ⟨hfail, hres, hafter⟩
      · rw [htx] at hdb
        split at hdb
        · next hcurrent =>
          cases hdb
          have hdb' : (after (runInTransaction env (sqlUpsertRouter env r status)) w).db = w.db := by
            rw [hafter]
          have hloop := performs_syncInterfaces (w := ⟨w.db, w.calls + 1⟩) status hok hreads hw
          refine Performs.bind_read hdb' ?_
          rw [hres, hafter, if_pos hcurrent]
          exact hloop
        · cases hdb
      · have hstale : ¬isCurrent env w.db r status = true := by
          intro hcurrent
          rw [htx, if_pos hcurrent, hok] at hfail
          rcases hfail with hfail | hfail <;> cases hfail
        have hdb' : (after (runInTransaction env (sqlUpsertRouter env r status)) w).db = w.db := by
          rw [hafter]
        refine Performs.bind_read hdb' ?_
        rw [hres, if_neg hstale]
        exact Performs.pure ()

theorem mem_plan {db : Database} {v : Revising} : v ∈ plan env db r ↔
    ∃ status, routerStatus r = some status ∧
      ((∃ row, routerRow env r status = some row ∧
        v = .upsert .physicalRouter row (routerUnchanged env r status)) ∨
      (((routerRow env r status).isSome ∨ isCurrent env db r status = true) ∧
        v ∈ planInterfaces env db r status)) := by
  unfold plan
  cases routerStatus r with
  | none => simp
  | some status =>
    cases hrow : routerRow env r status with
    | some row => simp [hrow]
    | none => simp [hrow]

theorem ne_of_mem_plan {db : Database} {v : Revising} (h : v ∈ plan env db r) :
    v.n ≠ .interfaceLink ∧ v.n ≠ .physicalLink := by
  obtain ⟨status, -, ⟨row, -, rfl⟩ | ⟨-, h⟩⟩ := mem_plan.mp h
  · exact ⟨(nomatch ·), (nomatch ·)⟩
  · obtain ⟨hedges, hlinks, -⟩ := ne_of_mem_planInterfaces h
    exact ⟨hedges, hlinks⟩

/-- The sync does not write what its plan depends on. -/
theorem plan_after (hok : env.Reliable) (hsteady : env.Steady) (hw : Single w.db)
    (r : VyOSRouter) : plan env (after (syncPhysicalRouter env r) w).db r = plan env w.db r := by
  have h := performs hok (reads_of_steady hsteady _ r) hw
  have hedges := Performed.table_eq (n := .interfaceLink) h id fun v hv => (ne_of_mem_plan hv).1
  have hlinks := Performed.table_eq (n := .physicalLink) h id fun v hv => (ne_of_mem_plan hv).2
  cases hs : routerStatus r with
  | none =>
    unfold plan
    rw [hs]
  | some status =>
    cases hrow : routerRow env r status with
    | some row =>
      unfold plan
      simp only [hs, hrow, planInterfaces_congr hedges hlinks]
    | none =>
      -- no router is written, so the stored one is up to date as before
      have hrouters := Performed.table_eq (n := .physicalRouter) h id fun v hv hn => by
        obtain ⟨status', hs', ⟨row, hrow', -⟩ | ⟨-, hv⟩⟩ := mem_plan.mp hv
        · rw [hs, Option.some.injEq] at hs'
          rw [← hs', hrow] at hrow'
          cases hrow'
        · exact (ne_of_mem_planInterfaces hv).2.2 hn
      have hcurrent : isCurrent env (after (syncPhysicalRouter env r) w).db r status =
          isCurrent env w.db r status := by
        unfold isCurrent openRow Database.active
        rw [hrouters]
      unfold plan
      simp only [hs, hrow, hcurrent, planInterfaces_congr hedges hlinks]

/-! ## When the revisions are accepted -/

section Stable

variable {db : Database}

/-- The transaction of the router commits. -/
def Commits (env : Env) (db : Database) (r : VyOSRouter) (status : String) : Prop :=
  routerStatus r = some status ∧
    ((routerRow env r status).isSome ∨ isCurrent env db r status = true)

/-- If the router's transaction commits, then entries of one interface compare alike, and
the status of an interface is not changed by lowering unless the stored interface is up to
date. -/
def Stable (env : Env) (db : Database) (r : VyOSRouter) : Prop :=
  ∀ status, Commits env db r status → ∀ iface ∈ r.spec.interfaces.getD [],
    (∀ iface' ∈ r.spec.interfaces.getD [], ifaceName iface' = ifaceName iface →
      ifaceComputed env db r status iface' = ifaceComputed env db r status iface) ∧
    (env.lower (ifaceStatus r status iface) = ifaceStatus r status iface ∨
      (openRow db .physicalInterface (.id (ifaceId r iface))).map ifaceColumns =
        some (ifaceComputed env db r status iface))

/-- The interfaces that the sync gets to, with the status of the router. -/
def Reaches (env : Env) (db : Database) (r : VyOSRouter) (p : String × InterfaceSpec) : Prop :=
  Commits env db r p.1 ∧ p.2 ∈ r.spec.interfaces.getD []

/-- The interfaces with an address that the sync gets to. -/
def ReachesAddr (env : Env) (db : Database) (r : VyOSRouter) (p : InterfaceSpec × String) : Prop :=
  (∃ status, Reaches env db r (status, p.1)) ∧ addrCidr p.1 = some p.2

/-- The status of a router and the row to insert. -/
def IsRow (env : Env) (r : VyOSRouter) (p : String × PhysicalRouter) : Prop :=
  routerStatus r = some p.1 ∧ routerRow env r p.1 = some p.2

theorem mem_plan_iff {v : Revising} : v ∈ plan env db r ↔
    (∃ p : String × PhysicalRouter, IsRow env r p ∧
      v = .upsert .physicalRouter p.2 (routerUnchanged env r p.1)) ∨
    (∃ p : String × InterfaceSpec, Reaches env db r p ∧ v = reviseIface env db r p.1 p.2) ∨
    ∃ p : InterfaceSpec × String, ReachesAddr env db r p ∧
      (v = reviseSubnet p.2 p.1 ∨ v = .ensure .subnetAssociation (assocRow r p.1 p.2)) := by
  rw [mem_plan]
  constructor
  · rintro ⟨status, hs, ⟨row, hrow, rfl⟩ | ⟨hcommit, h⟩⟩
    · exact Or.inl ⟨(status, row), ⟨hs, hrow⟩, rfl⟩
    · obtain ⟨iface, hiface, h⟩ := List.mem_flatMap.mp h
      have hreach : Reaches env db r (status, iface) := ⟨⟨hs, hcommit⟩, hiface⟩
      rcases mem_planInterface.mp h with rfl | ⟨addr, haddr, h⟩
      · exact Or.inr (Or.inl ⟨(status, iface), hreach, rfl⟩)
      · exact Or.inr (Or.inr ⟨(iface, addr), ⟨⟨status, hreach⟩, haddr⟩, h⟩)
  · rintro (⟨p, ⟨hs, hrow⟩, rfl⟩ | ⟨p, ⟨⟨hs, hcommit⟩, hiface⟩, rfl⟩ |
      ⟨p, ⟨⟨status, ⟨hs, hcommit⟩, hiface⟩, haddr⟩, h⟩)
    · exact ⟨p.1, hs, Or.inl ⟨p.2, hrow, rfl⟩⟩
    · refine ⟨p.1, hs, Or.inr ⟨hcommit, List.mem_flatMap.mpr ⟨p.2, hiface, ?_⟩⟩⟩
      exact mem_planInterface.mpr (Or.inl rfl)
    · refine ⟨status, hs, Or.inr ⟨hcommit, List.mem_flatMap.mpr ⟨p.1, hiface, ?_⟩⟩⟩
      exact mem_planInterface.mpr (Or.inr ⟨p.2, haddr, h⟩)

theorem compares_router : Compares (plan env db r) .physicalRouter (IsRow env r) Prod.snd
    (fun row => (row.config, row.status))
    (fun p => (some (sanitizeK8sBody r), some (env.lower p.1)))
    fun p => routerUnchanged env r p.1 := by
  refine ⟨fun v => ⟨?_, ?_⟩, fun p row => by simp [routerUnchanged]⟩
  · rintro ⟨hv, hn⟩
    rcases mem_plan_iff.mp hv with h | ⟨_, _, rfl⟩ | ⟨_, _, rfl | rfl⟩
    · exact h
    all_goals cases hn
  · rintro ⟨p, hp, rfl⟩
    exact ⟨mem_plan_iff.mpr (Or.inl ⟨p, hp, rfl⟩), rfl⟩

theorem compares_iface : Compares (plan env db r) .physicalInterface (Reaches env db r)
    (fun p => ifaceRow env r p.1 p.2 (foundSpeed env db r p.2)) ifaceColumns
    (fun p => ifaceComputed env db r p.1 p.2) fun p row =>
      decide (row.speed = some (foundSpeed env db r p.2) ∧
        row.mediaType = some (mediaType p.2) ∧ row.ipAddress = some (ipAddress p.2) ∧
        row.macAddress = some ((ifaceData p.2).mac.getD "") ∧
        row.status = some (ifaceStatus r p.1 p.2)) := by
  refine ⟨fun v => ⟨?_, ?_⟩, fun p row => by simp [ifaceColumns, ifaceComputed]⟩
  · rintro ⟨hv, hn⟩
    rcases mem_plan_iff.mp hv with ⟨_, _, rfl⟩ | h | ⟨_, _, rfl | rfl⟩
    · cases hn
    · exact h
    all_goals cases hn
  · rintro ⟨p, hp, rfl⟩
    exact ⟨mem_plan_iff.mpr (Or.inr (Or.inl ⟨p, hp, rfl⟩)), rfl⟩

theorem compares_subnet : Compares (plan env db r) .logicalSubnet (ReachesAddr env db r)
    (fun p => subnetRow p.2 p.1) LogicalSubnet.properties (fun _ => some (.obj []))
    fun _ row => decide (row.properties = some (.obj [])) := by
  refine ⟨fun v => ⟨?_, ?_⟩, fun p row => decide_eq_true_iff⟩
  · rintro ⟨hv, hn⟩
    rcases mem_plan_iff.mp hv with ⟨_, _, rfl⟩ | ⟨_, _, rfl⟩ | ⟨p, hp, rfl | rfl⟩
    · cases hn
    · cases hn
    · exact ⟨p, hp, rfl⟩
    · cases hn
  · rintro ⟨p, hp, rfl⟩
    exact ⟨mem_plan_iff.mpr (Or.inr (Or.inr ⟨p, hp, Or.inl rfl⟩)), rfl⟩

theorem compares_assoc : Compares (plan env db r) .subnetAssociation (ReachesAddr env db r)
    (fun p => assocRow r p.1 p.2) (fun _ => ()) (fun _ => ()) fun _ _ => true := by
  refine ⟨fun v => ⟨?_, ?_⟩, fun p row => ⟨fun _ => rfl, fun _ => rfl⟩⟩
  · rintro ⟨hv, hn⟩
    rcases mem_plan_iff.mp hv with ⟨_, _, rfl⟩ | ⟨_, _, rfl⟩ | ⟨p, hp, rfl | rfl⟩
    · cases hn
    · cases hn
    · cases hn
    · exact ⟨p, hp, rfl⟩
  · rintro ⟨p, hp, rfl⟩
    exact ⟨mem_plan_iff.mpr (Or.inr (Or.inr ⟨p, hp, Or.inr rfl⟩)), rfl⟩

/-- Only the status of an interface is stored otherwise than it is compared. -/
theorem ifaceColumns_ifaceRow {iface : InterfaceSpec} {status : String} :
    ifaceColumns (ifaceRow env r status iface (foundSpeed env db r iface)) =
        ifaceComputed env db r status iface ↔
      env.lower (ifaceStatus r status iface) = ifaceStatus r status iface := by
  simp [ifaceColumns, ifaceRow, ifaceComputed]

theorem routerRow_columns {row : PhysicalRouter} (h : routerRow env r status = some row) :
    row.config = some (sanitizeK8sBody r) ∧
      row.status = some (env.lower status) := by
  unfold routerRow at h
  simp only [Option.bind_eq_bind, Option.bind_eq_some_iff, Option.pure_def,
    Option.some.injEq] at h
  obtain ⟨lat, -, lon, -, rfl⟩ := h
  exact ⟨rfl, rfl⟩

theorem Commits.eq {status status' : String} (h : Commits env db r status)
    (h' : Commits env db r status') : status' = status :=
  Option.some.inj (h'.1.symm.trans h.1)

theorem acceptedIn_iface : AcceptedIn (plan env db r) db .physicalInterface ↔ Stable env db r := by
  rw [compares_iface.acceptedIn_iff]
  · constructor
    · intro h status hcommits iface hiface
      obtain ⟨hsame, hpass⟩ := h (status, iface) ⟨hcommits, hiface⟩
      refine ⟨fun iface' hiface' hname => ?_, hpass.imp_left ifaceColumns_ifaceRow.mp⟩
      refine hsame (status, iface') ⟨hcommits, hiface'⟩ ?_
      exact congrArg (fun name => Key.id (routerId r ++ ":interface:" ++ name)) hname
    · rintro h ⟨status, iface⟩ ⟨hcommits, hiface⟩
      obtain ⟨hsame, hpass⟩ := h status hcommits iface hiface
      refine ⟨?_, hpass.imp_left ifaceColumns_ifaceRow.mpr⟩
      rintro ⟨status', iface'⟩ ⟨hcommits', hiface'⟩ hk
      obtain rfl : status' = status := hcommits.eq hcommits'
      have hid : routerId r ++ ":interface:" ++ ifaceName iface' =
          routerId r ++ ":interface:" ++ ifaceName iface := Key.id.inj hk
      exact hsame iface' hiface' (append_right_inj hid)
  · intro p p' _ _ _ hcomp hcol
    have hstatus : ifaceStatus r p'.1 p'.2 = ifaceStatus r p.1 p.2 :=
      Option.some.inj (congrArg (fun c => c.2.2.2.2) hcomp)
    have hlower := ifaceColumns_ifaceRow.mp hcol
    rw [hstatus] at hlower
    exact ifaceColumns_ifaceRow.mpr hlower

/-- The revisions accept what they settle on exactly in a stable state. -/
theorem accepted_plan : Accepted (plan env db r) db ↔ Stable env db r := by
  rw [accepted_iff]
  refine ⟨fun h => acceptedIn_iface.mp (h .physicalInterface), fun h n => ?_⟩
  cases n with
  | physicalRouter =>
    refine compares_router.acceptedIn (fun p p' hp hp' _ => ?_) fun p hp => ?_
    · have hstatus : p'.1 = p.1 := Option.some.inj (hp'.1.symm.trans hp.1)
      rw [hstatus]
    · obtain ⟨hconfig, hstatus⟩ := routerRow_columns hp.2
      rw [hconfig, hstatus]
  | physicalInterface => exact acceptedIn_iface.mpr h
  | logicalSubnet => exact compares_subnet.acceptedIn (fun _ _ _ _ _ => rfl) fun _ _ => rfl
  | subnetAssociation => exact compares_assoc.acceptedIn (fun _ _ _ _ _ => rfl) fun _ _ => rfl
  | _ =>
    intro v hv hn
    rcases mem_plan_iff.mp hv with ⟨_, _, rfl⟩ | ⟨_, _, rfl⟩ | ⟨_, _, rfl | rfl⟩ <;> cases hn

end Stable

end Router

end GnnSandbox.Graph
