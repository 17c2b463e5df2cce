import GnnSandbox.Vyos.Generation
import GnnSandbox.Lib.JsonText
import Mathlib.Data.List.Nodup
import Mathlib.Data.List.Pairwise
import Mathlib.Data.List.TakeWhile

/-!
# Conflicts in a valid topology

What the validators leave open. Every address of a router interface is looked up in the tables by
network and by router, and there the subnets do not overlap and no address of a network repeats:
two interfaces have one address only if their names repeat. The names themselves, the router ids
of the loopbacks and the connections that no interface answers are not checked.
-/

namespace GnnSandbox.Vyos

/-! ## Addresses -/

theorem notMem_toString {c : Char} (hc : c.isDigit = false) (n : ℕ) : c ∉ (toString n).toList := by
  intro h
  have hrepr : (toString n).toList = Nat.toDigits 10 n := String.toList_ofList
  rw [hrepr] at h
  have hdigit := Nat.isDigit_of_mem_toDigits (by decide) (by decide) h
  rw [hc] at hdigit
  exact Bool.false_ne_true hdigit

/-- The four numbers of an address. -/
def octets (a : Ipv4) : List ℕ := [24, 16, 8, 0].map fun k => a.val / 2 ^ k % 256

theorem octets_inj {a b : Ipv4} (h : octets a = octets b) : a = b := by
  simp only [octets, List.map_cons, List.map_nil, List.cons.injEq, and_true] at h
  have ha := a.isLt
  have hb := b.isLt
  exact Fin.ext (by omega)

theorem toList_ipText (a : Ipv4) :
    (ipText a).toList = ['.'].intercalate ((octets a).map fun n => (toString n).toList) := by
  rw [ipText, String.toList_intercalate]
  rfl

theorem ipText_inj {a b : Ipv4} (h : ipText a = ipText b) : a = b := by
  have hsplit (a : Ipv4) :
      (ipText a).toList.splitOn '.' = (octets a).map fun n => (toString n).toList := by
    rw [toList_ipText]
    refine List.splitOn_intercalate '.' (fun l hl => ?_) (by simp [octets])
    obtain ⟨n, -, rfl⟩ := List.mem_map.1 hl
    exact notMem_toString rfl n
  have hparts := hsplit a
  rw [h, hsplit b] at hparts
  refine octets_inj (List.map_injective_iff.2 ?_ hparts.symm)
  intro m n hmn
  have hint : toString (m : ℤ) = toString (n : ℤ) := String.toList_inj.1 hmn
  exact_mod_cast JsonText.toString_inj.1 hint

/-- An interface address without its prefix length. -/
def hostPart (address : String) : String := String.ofList (address.toList.takeWhile (· ≠ '/'))

theorem hostPart_append (s t : String) : hostPart (s ++ "/" ++ t) = hostPart s := by
  have hslash : (s ++ "/" ++ t).toList = s.toList ++ '/' :: t.toList := by simp
  have hstop (l rest : List Char) :
      (l ++ '/' :: rest).takeWhile (· ≠ '/') = l.takeWhile (· ≠ '/') := by
    induction l with
    | nil => rfl
    | cons c l ih =>
      by_cases hc : c = '/'
      · simp [hc]
      · simp [hc] at ih ⊢
        exact ih
  rw [hostPart, hslash, hstop, hostPart]

theorem hostPart_ipText (a : Ipv4) : hostPart (ipText a) = ipText a := by
  have hall : ∀ c ∈ (ipText a).toList, decide (c ≠ '/') = true := by
    intro c hc
    rw [toList_ipText] at hc
    refine decide_eq_true fun hslash => ?_
    subst hslash
    obtain ⟨l, hl, hmem⟩ : ∃ l ∈ (octets a).map fun n => (toString n).toList, '/' ∈ l := by
      simpa [octets, List.intercalate] using hc
    obtain ⟨n, -, rfl⟩ := List.mem_map.1 hl
    exact notMem_toString rfl n hmem
  rw [hostPart, List.takeWhile_eq_self_iff.2 hall, String.ofList_toList]

/-- Subnets that share an address overlap. -/
theorem overlaps_of_contains {s t : Subnet} {a : Ipv4} (hs : s.contains a) (ht : t.contains a) :
    s.overlaps t := by
  -- the longer prefix is cut to the shorter
  have hcut {s t : Subnet} (hs : s.contains a) (ht : t.contains a)
      (hle : s.prefixlen ≤ t.prefixlen) : s.contains t.base := by
    have hpow : 2 ^ (32 - s.prefixlen) =
        2 ^ (32 - t.prefixlen) * 2 ^ (t.prefixlen - s.prefixlen) := by
      rw [← Nat.pow_add]
      congr 1
      have := t.prefixlen_le
      omega
    unfold Subnet.contains at hs ht ⊢
    rw [← hs, hpow, ← Nat.div_div_eq_div_mul, ← Nat.div_div_eq_div_mul, ht]
  rcases Nat.le_total s.prefixlen t.prefixlen with hle | hle
  · exact .inl (hcut hs ht hle)
  · exact .inr (hcut ht hs hle)

/-! ## The plan -/

def Interface.ip (i : Interface) : String := hostPart i.address

def NetworkDef.IsLoopback (net : NetworkDef) : Prop :=
  net.name = "loopbacks" ∨ net.networkType = some "loopback"

namespace Topology

variable (spec : Topology)

/-- The names that `generate_linux_networks` gives. -/
def linuxNetworks : List String :=
  (spec.networkList.filter fun net => net.name ≠ "loopbacks").map (·.name)

/-- Every connection names a router of the spec and an interface which that router attaches to the
network. -/
def Answered : Prop :=
  ∀ net ∈ spec.networkList, ∀ conn ∈ net.connections,
    ∃ router ∈ spec.routerList, router.name = conn.routerName ∧
      ∃ i ∈ router.interfaces.getD [], i.name = conn.interface ∧ i.network = net.name

/-- The addresses of a plan. -/
def planned (plan : List (String × Spec)) : List String :=
  plan.flatMap fun router => (router.2.interfaces.getD []).map Interface.ip

structure ConflictFree : Prop where
  networks : spec.linuxNetworks.Nodup
  routers : ((generateVyosRouters spec).map (·.1)).Nodup
  interfaces : ∀ router ∈ generateVyosRouters spec,
    ((router.2.interfaces.getD []).map (·.name)).Nodup
  addresses : (planned (generateVyosRouters spec)).Nodup
  loopbacks : ∀ router ∈ generateVyosRouters spec, ∀ i ∈ router.2.interfaces.getD [],
    i.name = "lo" → ∀ net ∈ spec.networkList, ∀ a, net.subnet.contains a → ipText a = i.ip →
      net.IsLoopback
  answered : spec.Answered

/-! ## What the spec leaves open -/

/-- The routers with a loopback. -/
def loopbackRouters : List RouterDef :=
  spec.routerList.filter fun router => "lo" ∈ (router.interfaces.getD []).map (·.name)

/-- No name is used twice, every connection is answered, and the router ids of the loopbacks
differ, lie in no subnet but that of a loopback network, and are not the address that the tables
hold for a connection. -/
structure Unambiguous : Prop where
  networks : spec.linuxNetworks.Nodup
  routers : (spec.routerList.map (·.name)).Nodup
  interfaces : ∀ router ∈ spec.routerList, ((router.interfaces.getD []).map (·.name)).Nodup
  answered : spec.Answered
  routerIds : (spec.loopbackRouters.map fun router => hostPart router.routerId).Nodup
  outside : ∀ router ∈ spec.loopbackRouters, ∀ net ∈ spec.networkList, ∀ a,
    net.subnet.contains a → ipText a = hostPart router.routerId → net.IsLoopback
  unused : ∀ router ∈ spec.loopbackRouters, ∀ net conn,
    lastNetwork spec.networkList net.name = some net →
    net.connection conn.routerName = some conn → conn.interface ≠ "lo" →
      ipText conn.ipAddress ≠ hostPart router.routerId

end Topology

/-! ## Addresses of the tables -/

/-- A connection that the tables by network and by router hold. -/
structure Held (networks : List NetworkDef) (net : NetworkDef) (conn : Connection) : Prop where
  network : lastNetwork networks net.name = some net
  connection : net.connection conn.routerName = some conn

/-- What the generation writes as the address of an entry. -/
def entryIp (spec : Topology) (router : RouterDef) (i : InterfaceDef) : Option String :=
  (generateRouterInterface router spec.networkList i).map Interface.ip

theorem entryIp_lo {spec : Topology} {router : RouterDef} {i : InterfaceDef} (h : i.name = "lo") :
    entryIp spec router i = some (hostPart router.routerId) := by
  have haddress : router.routerId ++ "/32" = router.routerId ++ "/" ++ "32" := by
    rw [String.append_assoc]
    rfl
  have hip : (loopbackInterface router i).ip = hostPart router.routerId :=
    (congrArg hostPart haddress).trans (hostPart_append router.routerId "32")
  rw [entryIp, generateRouterInterface, if_pos h, Option.map_some, hip]

theorem ip_networkInterface (i : InterfaceDef) (net : NetworkDef) (conn : Connection) :
    (networkInterface i net conn).ip = ipText conn.ipAddress :=
  (hostPart_append _ _).trans (hostPart_ipText _)

theorem entryIp_of_held {spec : Topology} {router : RouterDef} {i : InterfaceDef}
    {net : NetworkDef} {conn : Connection} (hheld : Held spec.networkList net conn)
    (hlo : i.name ≠ "lo") (hnetwork : i.network = net.name)
    (hrouter : router.name = conn.routerName) :
    entryIp spec router i = some (ipText conn.ipAddress) := by
  rw [entryIp, generateRouterInterface, if_neg hlo, hnetwork, hheld.network, hrouter]
  simp only [Option.bind_some, hheld.connection, Option.map_some, ip_networkInterface]

/-- In a valid topology the address of an entry, but for a loopback, is that of its connection. -/
theorem exists_held {spec : Topology} (hvalid : spec.Valid) {router : RouterDef}
    (hrouter : router ∈ spec.routerList) {i : InterfaceDef} (hi : i ∈ router.interfaces.getD [])
    (hlo : i.name ≠ "lo") :
    ∃ net conn, Held spec.networkList net conn ∧ net.name = i.network ∧
      conn.routerName = router.name ∧ conn.interface = i.name ∧
      entryIp spec router i = some (ipText conn.ipAddress) := by
  obtain ⟨net, hnet, conn, hconn, hinterface⟩ := hvalid.interfaceMappings router hrouter i hi hlo
  obtain ⟨-, hname⟩ := mem_of_lastNetwork hnet
  obtain ⟨-, hrouterName⟩ := mem_of_connection hconn
  have hheld : Held spec.networkList net conn := ⟨hname ▸ hnet, hrouterName ▸ hconn⟩
  exact ⟨net, conn, hheld, hname, hrouterName, hinterface.symm,
    entryIp_of_held hheld hlo hname.symm hrouterName.symm⟩

theorem mem_lastNetworks {networks : List NetworkDef} {name : String} {net : NetworkDef}
    (h : lastNetwork networks name = some net) : net ∈ Topology.lastNetworks networks := by
  induction networks with
  | nil => cases h
  | cons first networks ih =>
    unfold lastNetwork at h ih
    rw [List.reverse_cons, List.find?_append] at h
    unfold Topology.lastNetworks
    cases hlast : networks.reverse.find? fun net => net.name = name with
    | some last =>
      rw [hlast, Option.some_or] at h
      have hmem := ih (hlast.trans h)
      split_ifs
      · exact hmem
      · exact List.mem_cons_of_mem first hmem
    | none =>
      rw [hlast, Option.none_or, List.find?_singleton] at h
      split_ifs at h with hname
      obtain rfl := Option.some.inj h
      have hlastOne : first.name ∉ networks.map (·.name) := by
        intro hagain
        obtain ⟨again, hmem, heq⟩ := List.mem_map.1 hagain
        have hne := List.find?_eq_none.1 hlast again (List.mem_reverse.2 hmem)
        exact hne (by simpa [heq] using hname)
      rw [if_neg hlastOne]
      exact List.mem_cons_self ..

/-- Two connections of the tables with one address are one. -/
theorem Held.eq_of_ip {spec : Topology} (hips : spec.IpAssignments) {net net' : NetworkDef}
    {conn conn' : Connection} (h : Held spec.networkList net conn)
    (h' : Held spec.networkList net' conn')
    (hip : ipText conn.ipAddress = ipText conn'.ipAddress) : net = net' ∧ conn = conn' := by
  have hsame : conn.ipAddress = conn'.ipAddress := ipText_inj hip
  obtain ⟨hmem, -⟩ := mem_of_lastNetwork h.network
  obtain ⟨hmem', -⟩ := mem_of_lastNetwork h'.network
  obtain ⟨hconn, -⟩ := mem_of_connection h.connection
  obtain ⟨hconn', -⟩ := mem_of_connection h'.connection
  have hin : net.subnet.contains conn.ipAddress := (hips.2 net hmem).1 net h.network conn hconn
  have hin' : net'.subnet.contains conn.ipAddress := by
    rw [hsame]
    exact (hips.2 net' hmem').1 net' h'.network conn' hconn'
  have hnet : net = net' := by
    by_contra hne
    have hsymm : Std.Symm fun a b : NetworkDef => ¬a.subnet.overlaps b.subnet :=
      ⟨fun _ _ hab hba => hab hba.symm⟩
    exact hips.1.forall (mem_lastNetworks h.network) (mem_lastNetworks h'.network) hne
      (overlaps_of_contains hin hin')
  subst hnet
  exact ⟨rfl, List.inj_on_of_nodup_map (hips.2 net hmem).2 hconn hconn' hsame⟩

/-! ## The plan by its entries -/

section Entries

variable {α β γ : Type} {entries : α → List β} {value : α → β → Option γ} {l : List α}

/-- A value that no two entries share has one entry. -/
theorem entry_of_nodup (h : (l.flatMap fun a => (entries a).filterMap (value a)).Nodup) {a a' : α}
    {b b' : β} {c : γ} (ha : a ∈ l) (ha' : a' ∈ l) (hb : b ∈ entries a) (hb' : b' ∈ entries a')
    (hc : value a b = some c) (hc' : value a' b' = some c) : a = a' ∧ b = b' := by
  obtain ⟨hone, hpair⟩ := List.nodup_flatMap.1 h
  have hmem : c ∈ (entries a).filterMap (value a) := List.mem_filterMap.2 ⟨b, hb, hc⟩
  have hmem' : c ∈ (entries a').filterMap (value a') := List.mem_filterMap.2 ⟨b', hb', hc'⟩
  have haa : a = a' := by
    by_contra hne
    have hsymm : Std.Symm (Function.onFun List.Disjoint fun a => (entries a).filterMap (value a)) :=
      ⟨fun _ _ hab c hc hc' => hab hc' hc⟩
    exact hpair.forall ha ha' hne hmem hmem'
  subst haa
  refine ⟨rfl, ?_⟩
  by_contra hne
  have hsymm : Std.Symm fun b b' => ∀ c ∈ value a b, ∀ c' ∈ value a b', c ≠ c' :=
    ⟨fun _ _ hbb c hc c' hc' hcc => hbb c' hc' c hc hcc.symm⟩
  exact (List.pairwise_filterMap.1 (hone a ha)).forall hb hb' hne c hc c hc' rfl

/-- Entries with different names share no value. -/
theorem nodup_of_entry {name : α → String} {name' : β → String} (hname : (l.map name).Nodup)
    (hname' : ∀ a ∈ l, ((entries a).map name').Nodup)
    (hvalue : ∀ a ∈ l, ∀ a' ∈ l, ∀ b ∈ entries a, ∀ b' ∈ entries a', ∀ c,
      value a b = some c → value a' b' = some c → name a = name a' ∧ name' b = name' b') :
    (l.flatMap fun a => (entries a).filterMap (value a)).Nodup := by
  refine List.nodup_flatMap.2 ⟨fun a ha => List.pairwise_filterMap.2 ?_, ?_⟩
  · refine (List.pairwise_map.1 (hname' a ha)).imp_of_mem fun hb hb' hne c hc c' hc' hcc => ?_
    exact hne (hvalue a ha a ha _ hb _ hb' c hc (hcc ▸ hc')).2
  · refine (List.pairwise_map.1 hname).imp_of_mem fun ha ha' hne c hc hc' => ?_
    obtain ⟨b, hb, hbc⟩ := List.mem_filterMap.1 hc
    obtain ⟨b', hb', hbc'⟩ := List.mem_filterMap.1 hc'
    exact hne (hvalue _ ha _ ha' b hb b' hb' c hbc hbc').1

end Entries

namespace Topology

variable {spec : Topology}

theorem planned_generateVyosRouters :
    planned (generateVyosRouters spec) =
      spec.routerList.flatMap fun router =>
        (router.interfaces.getD []).filterMap (entryIp spec router) := by
  unfold planned generateVyosRouters
  rw [List.flatMap_map]
  refine List.flatMap_congr fun router _ => ?_
  exact List.map_filterMap

theorem names_generateVyosRouters :
    (generateVyosRouters spec).map (·.1) = spec.routerList.map (·.name) := by
  unfold generateVyosRouters
  rw [List.map_map]
  rfl

/-- The validators keep every interface. -/
theorem generateRouterInterfaces_carries (hvalid : spec.Valid) {router : RouterDef}
    (hrouter : router ∈ spec.routerList) :
    List.Forall₂ (Carries spec.networkList router.name) (router.interfaces.getD [])
      (generateRouterInterfaces router spec.networkList) :=
  forall₂_filterMap fun i hi => generateRouterInterface_carries hvalid.ipAssignments
    (hvalid.interfaceMappings router hrouter i hi)

theorem names_generateRouterInterfaces (hvalid : spec.Valid) {router : RouterDef}
    (hrouter : router ∈ spec.routerList) :
    (generateRouterInterfaces router spec.networkList).map (·.name) =
      (router.interfaces.getD []).map (·.name) := by
  have hnames : List.Forall₂ (· = ·) ((router.interfaces.getD []).map (·.name))
      ((generateRouterInterfaces router spec.networkList).map (·.name)) :=
    List.forall₂_map_left_iff.2 (List.forall₂_map_right_iff.2
      ((generateRouterInterfaces_carries hvalid hrouter).imp fun _ _ h => h.name.symm))
  rw [List.forall₂_eq_eq_eq] at hnames
  exact hnames.symm

theorem forall_generateVyosRouters {p : List Interface → Prop} :
    (∀ router ∈ generateVyosRouters spec, p (router.2.interfaces.getD [])) ↔
      ∀ router ∈ spec.routerList, p (generateRouterInterfaces router spec.networkList) :=
  List.forall_mem_map

/-- The loopback of a router in the plan. -/
theorem forall_loopback_iff {router : RouterDef} {p : String → Prop} :
    (∀ i ∈ generateRouterInterfaces router spec.networkList, i.name = "lo" → p i.ip) ↔
      ("lo" ∈ (router.interfaces.getD []).map (·.name) → p (hostPart router.routerId)) := by
  constructor
  · intro h hlo
    obtain ⟨i, hi, hname⟩ := List.mem_map.1 hlo
    have hgenerated : generateRouterInterface router spec.networkList i =
        some (loopbackInterface router i) := if_pos hname
    have hip : (loopbackInterface router i).ip = hostPart router.routerId := by
      have hentry := @entryIp_lo spec router i hname
      rw [entryIp, hgenerated] at hentry
      exact Option.some.inj hentry
    exact hip ▸ h _ (List.mem_filterMap.2 ⟨i, hi, hgenerated⟩) rfl
  · intro h generated hgenerated hlo
    obtain ⟨i, hi, hsome⟩ := List.mem_filterMap.1 hgenerated
    by_cases hname : i.name = "lo"
    · have hentry := @entryIp_lo spec router i hname
      rw [entryIp, hsome] at hentry
      rw [Option.some.inj hentry]
      exact h (List.mem_map.2 ⟨i, hi, hname⟩)
    · rw [generateRouterInterface, if_neg hname] at hsome
      obtain ⟨net, -, hmap⟩ := Option.bind_eq_some_iff.1 hsome
      obtain ⟨conn, -, rfl⟩ := Option.map_eq_some_iff.1 hmap
      exact absurd hlo hname

theorem mem_loopbackRouters {router : RouterDef} : router ∈ spec.loopbackRouters ↔
    router ∈ spec.routerList ∧ "lo" ∈ (router.interfaces.getD []).map (·.name) := by
  rw [loopbackRouters, List.mem_filter, decide_eq_true_eq]

theorem exists_entry_of_loopback {router : RouterDef} (h : router ∈ spec.loopbackRouters) :
    router ∈ spec.routerList ∧ ∃ i ∈ router.interfaces.getD [],
      entryIp spec router i = some (hostPart router.routerId) ∧ i.name = "lo" := by
  obtain ⟨hrouter, hlo⟩ := mem_loopbackRouters.1 h
  obtain ⟨i, hi, hname⟩ := List.mem_map.1 hlo
  exact ⟨hrouter, i, hi, entryIp_lo hname, hname⟩

/-- Without a repeated address the router ids of the loopbacks differ, from each other and from
the addresses of the tables. -/
theorem routerIds_of_addresses (hrouters : (spec.routerList.map (·.name)).Nodup)
    (haddresses : (spec.routerList.flatMap fun router =>
      (router.interfaces.getD []).filterMap (entryIp spec router)).Nodup) :
    (spec.loopbackRouters.map fun router => hostPart router.routerId).Nodup := by
  refine List.Nodup.map_on (fun router hr router' hr' hid => ?_)
    ((List.Nodup.of_map _ hrouters).filter _)
  obtain ⟨hrouter, i, hi, hip, -⟩ := exists_entry_of_loopback hr
  obtain ⟨hrouter', i', hi', hip', -⟩ := exists_entry_of_loopback hr'
  exact (entry_of_nodup haddresses hrouter hrouter' hi hi' hip (hid ▸ hip')).1

theorem unused_of_addresses (hanswered : spec.Answered)
    (haddresses : (spec.routerList.flatMap fun router =>
      (router.interfaces.getD []).filterMap (entryIp spec router)).Nodup)
    {router : RouterDef} (hr : router ∈ spec.loopbackRouters) {net : NetworkDef}
    {conn : Connection} (hheld : Held spec.networkList net conn) (hconn : conn.interface ≠ "lo") :
    ipText conn.ipAddress ≠ hostPart router.routerId := by
  intro hid
  obtain ⟨hrouter, i, hi, hip, hlo⟩ := exists_entry_of_loopback hr
  obtain ⟨router', hrouter', hname, i', hi', hinterface, hnetwork⟩ := hanswered net
    (mem_of_lastNetwork hheld.network).1 conn (mem_of_connection hheld.connection).1
  have hip' := entryIp_of_held hheld (hinterface ▸ hconn) hnetwork hname
  obtain ⟨-, rfl⟩ := entry_of_nodup haddresses hrouter hrouter' hi hi' hip (hid ▸ hip')
  exact hconn (hinterface.symm.trans hlo)

/-- Two entries of an unambiguous spec with one address have the same names. -/
theorem Unambiguous.names_of_ip (h : spec.Unambiguous) (hvalid : spec.Valid)
    {router router' : RouterDef} (hrouter : router ∈ spec.routerList)
    (hrouter' : router' ∈ spec.routerList) {i i' : InterfaceDef}
    (hi : i ∈ router.interfaces.getD []) (hi' : i' ∈ router'.interfaces.getD []) {ip : String}
    (hip : entryIp spec router i = some ip) (hip' : entryIp spec router' i' = some ip) :
    router.name = router'.name ∧ i.name = i'.name := by
  by_cases hlo : i.name = "lo"
  · have hmem := mem_loopbackRouters.2 ⟨hrouter, List.mem_map.2 ⟨i, hi, hlo⟩⟩
    rw [entryIp_lo hlo] at hip
    by_cases hlo' : i'.name = "lo"
    · have hmem' := mem_loopbackRouters.2 ⟨hrouter', List.mem_map.2 ⟨i', hi', hlo'⟩⟩
      rw [entryIp_lo hlo', ← hip] at hip'
      have hsame := List.inj_on_of_nodup_map h.routerIds hmem hmem' (Option.some.inj hip').symm
      exact ⟨congrArg (·.name) hsame, hlo.trans hlo'.symm⟩
    · obtain ⟨net, conn, hheld, -, -, hinterface, hentry⟩ := exists_held hvalid hrouter' hi' hlo'
      rw [hentry, ← hip] at hip'
      exact absurd (Option.some.inj hip')
        (h.unused router hmem net conn hheld.network hheld.connection (hinterface ▸ hlo'))
  · obtain ⟨net, conn, hheld, -, hname, hinterface, hentry⟩ := exists_held hvalid hrouter hi hlo
    rw [hentry] at hip
    by_cases hlo' : i'.name = "lo"
    · have hmem' := mem_loopbackRouters.2 ⟨hrouter', List.mem_map.2 ⟨i', hi', hlo'⟩⟩
      rw [entryIp_lo hlo', ← hip] at hip'
      exact absurd (Option.some.inj hip').symm
        (h.unused router' hmem' net conn hheld.network hheld.connection (hinterface ▸ hlo))
    · obtain ⟨net', conn', hheld', -, hname', hinterface', hentry'⟩ :=
        exists_held hvalid hrouter' hi' hlo'
      rw [hentry', ← hip] at hip'
      obtain ⟨-, rfl⟩ := hheld.eq_of_ip hvalid.ipAssignments hheld' (Option.some.inj hip').symm
      exact ⟨hname.symm.trans hname', hinterface.symm.trans hinterface'⟩

theorem Unambiguous.addresses (h : spec.Unambiguous) (hvalid : spec.Valid) :
    (planned (generateVyosRouters spec)).Nodup := by
  rw [planned_generateVyosRouters]
  exact nodup_of_entry h.routers h.interfaces fun _ hr _ hr' _ hi _ hi' _ hip hip' =>
    h.names_of_ip hvalid hr hr' hi hi' hip hip'

/-- **Conflicts.** A valid topology is generated without a conflict exactly if it is
unambiguous. -/
theorem conflictFree_iff (spec : Topology) (hvalid : spec.Valid) :
    spec.ConflictFree ↔ spec.Unambiguous := by
  have hinterfaces : (∀ router ∈ generateVyosRouters spec,
        ((router.2.interfaces.getD []).map (·.name)).Nodup) ↔
      ∀ router ∈ spec.routerList, ((router.interfaces.getD []).map (·.name)).Nodup := by
    rw [forall_generateVyosRouters (p := fun is => (is.map (·.name)).Nodup)]
    exact forall₂_congr fun router hrouter => by
      rw [names_generateRouterInterfaces hvalid hrouter]
  have hloopbacks : (∀ router ∈ generateVyosRouters spec, ∀ i ∈ router.2.interfaces.getD [],
        i.name = "lo" → ∀ net ∈ spec.networkList, ∀ a, net.subnet.contains a →
          ipText a = i.ip → net.IsLoopback) ↔
      ∀ router ∈ spec.loopbackRouters, ∀ net ∈ spec.networkList, ∀ a, net.subnet.contains a →
        ipText a = hostPart router.routerId → net.IsLoopback := by
    rw [forall_generateVyosRouters (p := fun is => ∀ i ∈ is, i.name = "lo" →
      ∀ net ∈ spec.networkList, ∀ a, net.subnet.contains a → ipText a = i.ip → net.IsLoopback)]
    simp only [mem_loopbackRouters, and_imp]
    exact forall₂_congr fun router _ => forall_loopback_iff (p := fun ip =>
      ∀ net ∈ spec.networkList, ∀ a, net.subnet.contains a → ipText a = ip → net.IsLoopback)
  constructor
  · intro h
    have hrouters := names_generateVyosRouters ▸ h.routers
    have haddresses := planned_generateVyosRouters ▸ h.addresses
    exact ⟨h.networks, hrouters, hinterfaces.1 h.interfaces, h.answered,
      routerIds_of_addresses hrouters haddresses, hloopbacks.1 h.loopbacks,
      fun router hr net conn hnet hconn hlo =>
        unused_of_addresses h.answered haddresses hr ⟨hnet, hconn⟩ hlo⟩
  · intro h
    exact ⟨h.networks, names_generateVyosRouters ▸ h.routers, hinterfaces.2 h.interfaces,
      h.addresses hvalid, hloopbacks.2 h.outside, h.answered⟩

end Topology

/-- Two routers on a link, with further connections. -/
def linkTopology (further : List Connection) : Topology where
  networks := some
    [{ name := "mgmt", subnet := .management,
       networkType := some "management",
       connectedRouters := some [⟨"pe1", "eth0", 3232266763⟩, ⟨"pe2", "eth0", 3232266764⟩] },
     { name := "pe1-pe2", subnet := ⟨2886729728, 29, by decide, by decide⟩,
       connectedRouters := some
         (⟨"pe1", "eth1", 2886729729⟩ :: ⟨"pe2", "eth1", 2886729730⟩ :: further) }]
  routers := some
    [{ name := "pe1", hostname := "pe1", routerId := "10.0.0.1",
       interfaces := some [⟨"eth0", "mgmt", none, none, none⟩, ⟨"lo", "loopbacks", none, none, none⟩,
         ⟨"eth1", "pe1-pe2", none, none, none⟩] },
     { name := "pe2", hostname := "pe2", routerId := "10.0.0.2",
       interfaces := some [⟨"eth0", "mgmt", none, none, none⟩,
         ⟨"eth1", "pe1-pe2", none, none, none⟩] }]

theorem link_conflictFree_iff :
    (linkTopology []).ConflictFree ↔ (linkTopology []).Unambiguous :=
  Topology.conflictFree_iff (linkTopology []) (by decide)

/-- A connection that names no router passes the validators. -/
theorem stray_connection : (linkTopology [⟨"pe9", "eth1", 2886729731⟩]).Valid ∧
    ¬(linkTopology [⟨"pe9", "eth1", 2886729731⟩]).ConflictFree := by
  refine ⟨by decide, fun h => absurd h.answered ?_⟩
  unfold Topology.Answered
  decide

end GnnSandbox.Vyos
