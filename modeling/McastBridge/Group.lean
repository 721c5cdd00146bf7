import McastBridge.Bridge
/-
**The group table of an IGMP or MLD interface.**

Each interface the IGMP (MLD) subsystem watches has a group table, `group_list`, of
`group_list_allocated` records.  The first `group_list_fixed_limit` of them are the groups that
bridge interfaces registered at start-up, each with its list of subscribed outbound interfaces
(`bridge_interface_list`); the rest are learned from reports, occupy the slots below
`group_list_count`, and are reused once inactive.  The two subsystems share the table code up to
the link-scope test of `*_interface_find_group`, which is a parameter here.

The MLD group record has no `v1_host_present`; the MLD functions of
`McastBridge.Subsystem` never read or write that field, so one record type serves both.

Main definitions:

* `McastBridge.interfaceFindGroup` — `igmp_interface_find_group` / `mld_interface_find_group`;
* `McastBridge.tightenGroupListCount` — the release of trailing inactive slots in
  `*_group_timeout`;
* `McastBridge.registerInterface`, `McastBridge.registerAll`, `McastBridge.initializeGroupList`
  — `*_register_interface` as `initialize_interfaces` calls it, and the finalisation of
  `initialize_igmp` / `initialize_mld`;
* `McastBridge.joinActivateAt`, `McastBridge.groupTimeoutAt` — what `*_join_common` and
  `*_group_timeout` do to the group record and to the data plane.

Main results:

* `McastBridge.scanDynamic_eq` — the dynamic-slot loop of `*_interface_find_group` returns the
  first active slot holding the address, and otherwise the first inactive slot;
* `McastBridge.interfaceFindGroup_eq_some` — a found slot is one the loops scanned, and comes
  with the table unchanged or the slot set to the address; or it is a new slot, set and counted.
-/

set_option relaxedAutoImplicit false
set_option autoImplicit false

namespace McastBridge

/-! ### Records -/

/-- `igmp_group_t` / `mld_group_t`. -/
structure Group where
  bridgeInterfaceList : List BridgeHandle
  active : Bool
  mcastAddr : Nat
  v1HostPresent : Bool
  groupQueriesRemaining : Nat
  deriving DecidableEq, Repr, Inhabited

/-- `igmp_interface_t` / `mld_interface_t`, without the capture handle and the prebuilt packets.
The response and last-member intervals are in tenths of a second for IGMP and in milliseconds
for MLD. -/
structure Interface where
  groupList : List Group
  groupListCount : Nat
  groupListFixedLimit : Nat
  ifIndex : Nat
  ifAddr : Nat
  querierAddr : Nat
  querierRobustness : Nat
  querierIntervalSec : Nat
  querierResponseInterval : Nat
  querierLastmbrInterval : Nat
  mrdInitialAdvertisementsRemaining : Nat
  startupQueriesRemaining : Nat
  deriving DecidableEq, Repr, Inhabited

/-- `group_list_allocated`: the table's size. -/
def Interface.groupListAllocated (ifc : Interface) : Nat := ifc.groupList.length

/-- The record in slot `g`. -/
def Interface.group (ifc : Interface) (g : Nat) : Group := ifc.groupList.getD g default

/-- Apply `f` to the record in slot `g`. -/
def Interface.modifyGroup (ifc : Interface) (g : Nat) (f : Group → Group) : Interface :=
  { ifc with groupList := ifc.groupList.modify f g }

@[simp] theorem Interface.groupListAllocated_modifyGroup (ifc : Interface) (g : Nat)
    (f : Group → Group) : (ifc.modifyGroup g f).groupListAllocated = ifc.groupListAllocated :=
  List.length_modify _ _ _

theorem Interface.group_modifyGroup (ifc : Interface) (g j : Nat) (f : Group → Group)
    (hj : j < ifc.groupListAllocated) :
    (ifc.modifyGroup g f).group j = if g = j then f (ifc.group j) else ifc.group j :=
  getD_modify _ _ _ _ _ hj

theorem Interface.group_of_le (ifc : Interface) (g : Nat) (hg : ifc.groupListAllocated ≤ g) :
    ifc.group g = default :=
  List.getD_eq_default _ _ hg

theorem Interface.group_modifyGroup_eq (ifc : Interface) (g j : Nat) (f : Group → Group) :
    (ifc.modifyGroup g f).group j =
      if g = j ∧ j < ifc.groupListAllocated then f (ifc.group j) else ifc.group j := by
  by_cases hj : j < ifc.groupListAllocated
  · rw [Interface.group_modifyGroup _ _ _ _ hj]; simp [hj]
  · have hj' : (ifc.modifyGroup g f).groupListAllocated ≤ j := by simpa using Nat.le_of_not_lt hj
    simp only [hj, and_false, if_false]
    rw [Interface.group_of_le _ _ hj', Interface.group_of_le _ _ (Nat.le_of_not_lt hj)]

theorem Interface.group_modifyGroup_ne (ifc : Interface) {g j : Nat} (f : Group → Group)
    (h : g ≠ j) : (ifc.modifyGroup g f).group j = ifc.group j := by
  rw [Interface.group_modifyGroup_eq, if_neg fun hc => h hc.1]

/-- A field that `f` keeps is kept in every slot by `modifyGroup`. -/
theorem Interface.modifyGroup_keeps {β : Type} (φ : Group → β) (ifc : Interface) (g j : Nat)
    {f : Group → Group} (hf : ∀ grp, φ (f grp) = φ grp) :
    φ ((ifc.modifyGroup g f).group j) = φ (ifc.group j) := by
  rw [Interface.group_modifyGroup_eq]
  split
  · exact hf _
  · rfl

/-! ### `*_interface_find_group` -/

/-- The first of the `n` slots from `g` on that holds `addr`: the fixed-group loop of
`*_interface_find_group`, and the group search of `*_register_interface`. -/
def findAddr (gl : List Group) (addr g n : Nat) : Option Nat :=
  (List.range' g n).find? fun k => (gl.getD k default).mcastAddr = addr

/-- The dynamic-group loop of `*_interface_find_group` over `n` slots from `g`: `.inl` of an
active slot holding `addr`, or `.inr` of the first inactive slot seen. -/
def scanDynamic (gl : List Group) (addr g : Nat) (firstEmpty : Option Nat) :
    Nat → Nat ⊕ Option Nat
  | 0 => .inr firstEmpty
  | n + 1 =>
      if (gl.getD g default).active then
        if (gl.getD g default).mcastAddr = addr then .inl g
        else scanDynamic gl addr (g + 1) firstEmpty n
      else scanDynamic gl addr (g + 1) (some (firstEmpty.getD g)) n

/-- Slot `g` now holds `addr`. -/
def Interface.setAddr (ifc : Interface) (g addr : Nat) : Interface :=
  ifc.modifyGroup g fun grp => { grp with mcastAddr := addr }

/-- `*_interface_find_group`: the interface with the chosen slot set to `addr`, and the slot;
`none` for a link-scope address or a full table. -/
def interfaceFindGroup (isLinkScope : Nat → Bool) (ifc : Interface) (addr : Nat) :
    Option (Interface × Nat) :=
  if isLinkScope addr then none
  else
    match findAddr ifc.groupList addr 0 ifc.groupListFixedLimit with
    | some g => some (ifc, g)
    | none =>
        match scanDynamic ifc.groupList addr ifc.groupListFixedLimit none
            (ifc.groupListCount - ifc.groupListFixedLimit) with
        | .inl g => some (ifc, g)
        | .inr (some g) => some (ifc.setAddr g addr, g)
        | .inr none =>
            if ifc.groupListCount ≥ ifc.groupListAllocated then none
            else some ({ ifc.setAddr ifc.groupListCount addr with
              groupListCount := ifc.groupListCount + 1 }, ifc.groupListCount)

/-- The dynamic-slot loop returns the first active slot holding `addr`, and otherwise the first
inactive slot (or the one seen before, `firstEmpty`). -/
theorem scanDynamic_eq (gl : List Group) (addr g : Nat) (firstEmpty : Option Nat) (n : Nat) :
    scanDynamic gl addr g firstEmpty n =
      match (List.range' g n).find? (fun k =>
          (gl.getD k default).active && (gl.getD k default).mcastAddr == addr) with
      | some k => .inl k
      | none => .inr (firstEmpty.or
          ((List.range' g n).find? fun k => !(gl.getD k default).active)) := by
  induction n generalizing g firstEmpty with
  | zero => simp [scanDynamic]
  | succ n ih =>
      rw [scanDynamic, List.range'_succ, List.find?_cons, List.find?_cons, ih, ih]
      rcases gl.getD g default with ⟨_, _ | _, m, _, _⟩
      · cases firstEmpty <;> simp
      · by_cases hm : m = addr
        · simp [hm]
        · simp [hm, beq_eq_false_iff_ne.2 hm]

/-- A slot the dynamic-slot loop returns is one of the `n` it scans. -/
theorem scanDynamic_lt {gl : List Group} {addr g n k : Nat}
    (h : scanDynamic gl addr g none n = .inl k ∨ scanDynamic gl addr g none n = .inr (some k)) :
    k < g + n := by
  have hmem : ∀ {p : Nat → Bool}, (List.range' g n).find? p = some k → k < g + n :=
    fun hp => (List.mem_range'_1.1 (List.mem_of_find?_eq_some hp)).2
  rw [scanDynamic_eq] at h
  split at h
  · rename_i k' hk'
    rcases h with h | h <;> cases h
    exact hmem hk'
  · rcases h with h | h
    · cases h
    · simp only [Option.none_or, Sum.inr.injEq] at h
      exact hmem h

theorem findAddr_some {gl : List Group} {addr g n k : Nat} (h : findAddr gl addr g n = some k) :
    g ≤ k ∧ k < g + n ∧ (gl.getD k default).mcastAddr = addr := by
  have hm := List.mem_range'_1.1 (List.mem_of_find?_eq_some h)
  exact ⟨hm.1, hm.2, by simpa using List.find?_some h⟩

/-- A found slot is one the loops scanned, and comes with the table unchanged or with the slot
set to the address; or it is a new slot at `group_list_count`, which the table had room for, set
to the address and counted. -/
theorem interfaceFindGroup_eq_some {isLinkScope : Nat → Bool} {ifc : Interface} {addr : Nat}
    {ifc' : Interface} {g : Nat} (h : interfaceFindGroup isLinkScope ifc addr = some (ifc', g)) :
    (ifc' = ifc ∨ ifc' = ifc.setAddr g addr) ∧
        g < max ifc.groupListFixedLimit ifc.groupListCount ∨
      (g = ifc.groupListCount ∧ ifc.groupListCount < ifc.groupListAllocated ∧
        ifc' = { ifc.setAddr g addr with groupListCount := g + 1 }) := by
  unfold interfaceFindGroup at h
  split at h
  · cases h
  · split at h
    · rename_i k hk
      cases h; exact .inl ⟨.inl rfl, by have := (findAddr_some hk).2.1; omega⟩
    · split at h
      · rename_i k hk
        cases h; exact .inl ⟨.inl rfl, by have := scanDynamic_lt (.inl hk); omega⟩
      · rename_i k hk
        cases h; exact .inl ⟨.inr rfl, by have := scanDynamic_lt (.inr hk); omega⟩
      · split at h
        · cases h
        · cases h; exact .inr ⟨rfl, by omega, rfl⟩

/-- The tightening loop of `*_group_timeout`, from `group_list_count = c`: release slot `c - 1`
while it is inactive and `c - 1 > group_list_fixed_limit`. -/
def tightenGroupListCount (gl : List Group) (fixedLimit : Nat) : Nat → Nat
  | 0 => 0
  | c + 1 =>
      if c > fixedLimit ∧ (gl.getD c default).active = false then
        tightenGroupListCount gl fixedLimit c
      else c + 1

/-! ### Registration and start-up -/

/-- The group part of `*_register_interface`: find the group `addr` among the
`group_list_count` groups, or add it, and append the subscriber `h`. -/
def addGroupSubscriber (ifc : Interface) (addr : Nat) (h : BridgeHandle) : Interface :=
  match findAddr ifc.groupList addr 0 ifc.groupListCount with
  | some g => ifc.modifyGroup g fun grp =>
      { grp with bridgeInterfaceList := grp.bridgeInterfaceList ++ [h] }
  | none =>
      { ifc with
        groupList := ifc.groupList ++
          [{ (default : Group) with mcastAddr := addr, bridgeInterfaceList := [h] }]
        groupListCount := ifc.groupListCount + 1 }

/-- `*_register_interface`: find or add the interface with the bridge interface's index (its
address read by `ifAddrOf`), then register the bridge's group on it. -/
def registerInterface (ifAddrOf : BridgeInterface → Nat) (bl : List BridgeInstance)
    (ifs : List Interface) (h : BridgeHandle) : List Interface :=
  let bi := interfaceAt bl h
  let addr := (bl.getD h.bridgeIndex default).dstAddr
  match (List.range ifs.length).find? fun k => (ifs.getD k default).ifIndex = bi.ifIndex with
  | some k => ifs.modify (addGroupSubscriber · addr h) k
  | none => ifs ++
      [addGroupSubscriber { (default : Interface) with ifIndex := bi.ifIndex, ifAddr := ifAddrOf bi }
        addr h]

/-- The dynamic outbound interfaces of the bridges of family `fam`, in the order in which
`initialize_interfaces` registers them. -/
def dynamicOutboundHandles (fam : Family) (bl : List BridgeInstance) : List BridgeHandle :=
  (List.range bl.length).flatMap fun b =>
    if (bl.getD b default).family = fam then
      ((List.range (bl.getD b default).interfaceList.length).filter fun k =>
        ((bl.getD b default).interfaceList.getD k default).outboundConfiguration = .dynamic).map
        fun k => ⟨b, k⟩
    else []

/-- The interface list of a subsystem after every registration of `initialize_interfaces`. -/
def registerAll (ifAddrOf : BridgeInterface → Nat) (fam : Family) (bl : List BridgeInstance) :
    List Interface :=
  (dynamicOutboundHandles fam bl).foldl (registerInterface ifAddrOf bl) []

/-- The finalisation of one interface by `initialize_igmp` / `initialize_mld`: the registered
groups become the fixed prefix, followed by `non_configured_groups` zeroed slots. -/
def initializeGroupList (nonConfiguredGroups : Nat) (ifc : Interface) : Interface :=
  { ifc with
    groupListFixedLimit := ifc.groupListCount
    groupList := ifc.groupList.take ifc.groupListCount ++
      List.replicate nonConfiguredGroups default }

/-! ### Groups and the data plane -/

/-- What `*_join_common` does besides its timer: an inactive group becomes active and each of
its subscribed outbound interfaces is activated, in order. -/
def joinActivateAt (bl : List BridgeInstance) (ifc : Interface) (g : Nat) :
    List BridgeInstance × Interface :=
  if (ifc.group g).active then (bl, ifc)
  else ((ifc.group g).bridgeInterfaceList.foldl interfaceActivateOutbound bl,
    ifc.modifyGroup g fun grp => { grp with active := true })

/-- `*_group_timeout`: the group becomes inactive; a registered group deactivates its
subscribed outbound interfaces, a learned one releases the trailing inactive slots. -/
def groupTimeoutAt (bl : List BridgeInstance) (ifc : Interface) (g : Nat) :
    List BridgeInstance × Interface :=
  let subscribers := (ifc.group g).bridgeInterfaceList
  let ifc := ifc.modifyGroup g fun grp => { grp with active := false }
  if subscribers ≠ [] then (subscribers.foldl interfaceDeactivateOutbound bl, ifc)
  else (bl, { ifc with groupListCount :=
    tightenGroupListCount ifc.groupList ifc.groupListFixedLimit ifc.groupListCount })

/-! ### What registration builds

Registration fills each interface's table up to `group_list_count`, every group with at least
one subscriber, and subscribes each dynamic outbound interface exactly once. -/

section Flatten

variable {α β : Type} [Inhabited β] (F : β → List α)

theorem mem_flatten_map_iff (hF : F default = []) (L : List β) (x : α) :
    x ∈ (L.map F).flatten ↔ ∃ k, x ∈ F (L.getD k default) := by
  simp only [List.mem_flatten, List.mem_map]
  constructor
  · rintro ⟨_, ⟨b, hb, rfl⟩, hx⟩
    obtain ⟨k, hk, rfl⟩ := List.mem_iff_getElem.1 hb
    exact ⟨k, by rwa [List.getD_eq_getElem _ _ hk]⟩
  · rintro ⟨k, hx⟩
    by_cases hk : k < L.length
    · rw [List.getD_eq_getElem _ _ hk] at hx
      exact ⟨_, ⟨_, List.getElem_mem hk, rfl⟩, hx⟩
    · rw [List.getD_eq_default _ _ (Nat.le_of_not_lt hk), hF] at hx
      exact absurd hx (List.not_mem_nil x)

theorem nodup_of_nodup_flatten_map {L : List β} (hN : (L.map F).flatten.Nodup) (hF : F default = [])
    (k : Nat) : (F (L.getD k default)).Nodup := by
  by_cases hk : k < L.length
  · rw [List.getD_eq_getElem _ _ hk]
    exact List.nodup_flatten.1 hN |>.1 _ (List.mem_map_of_mem F (List.getElem_mem hk))
  · rw [List.getD_eq_default _ _ (Nat.le_of_not_lt hk), hF]; exact List.nodup_nil

/-- In a duplicate-free concatenation, an element comes from one position only. -/
theorem eq_of_mem_flatten_map (hF : F default = []) {L : List β} (hN : (L.map F).flatten.Nodup)
    {x : α} : ∀ {i j : Nat}, x ∈ F (L.getD i default) → x ∈ F (L.getD j default) → i = j := by
  induction L with
  | nil => intro i _ hi; simp [hF] at hi
  | cons b L ih =>
      rw [List.map_cons, List.flatten_cons, List.nodup_append] at hN
      have hmem : ∀ {k}, x ∈ F (L.getD k default) → x ∈ (L.map F).flatten :=
        fun hx => (mem_flatten_map_iff F hF L x).2 ⟨_, hx⟩
      intro i j hi hj
      rcases i with _ | i <;> rcases j with _ | j <;>
        simp only [List.getD_cons_zero, List.getD_cons_succ] at hi hj
      · rfl
      · exact (hN.2.2 hi (hmem hj)).elim
      · exact (hN.2.2 hj (hmem hi)).elim
      · exact congrArg (· + 1) (ih hN.2.1 hi hj)

/-- Modifying one element of a list so that its image gains `x` adds `x` to the
concatenation. -/
theorem flatten_map_modify_perm (f : β → β) (x : α) :
    ∀ (L : List β) (k : Nat), k < L.length →
      List.Perm (F (f (L.getD k default))) (F (L.getD k default) ++ [x]) →
      List.Perm ((L.modify f k).map F).flatten ((L.map F).flatten ++ [x])
  | [], _, hk, _ => absurd hk (Nat.not_lt_zero _)
  | b :: L, 0, _, hf => by
      simp only [List.modify_zero_cons, List.map_cons, List.flatten_cons, List.getD_cons_zero] at hf ⊢
      refine (hf.append_right _).trans ?_
      simp only [List.append_assoc]
      exact List.perm_append_comm.append_left _
  | b :: L, k + 1, hk, hf => by
      simp only [List.modify_succ_cons, List.map_cons, List.flatten_cons, List.getD_cons_succ,
        List.append_assoc] at hf ⊢
      exact (flatten_map_modify_perm f x L k (Nat.lt_of_succ_lt_succ hk) hf).append_left _

end Flatten

section Registration

/-- The subscribers of an interface's groups, slot by slot. -/
def subscribersOf (ifc : Interface) : List BridgeHandle :=
  (ifc.groupList.map (·.bridgeInterfaceList)).flatten

/-- The subscribers of every group of every interface of the list. -/
def allSubscribers (ifs : List Interface) : List BridgeHandle :=
  (ifs.map subscribersOf).flatten

theorem mem_subscribersOf (ifc : Interface) (h : BridgeHandle) :
    h ∈ subscribersOf ifc ↔ ∃ g, h ∈ (ifc.group g).bridgeInterfaceList :=
  mem_flatten_map_iff _ rfl _ _

theorem mem_allSubscribers (ifs : List Interface) (h : BridgeHandle) :
    h ∈ allSubscribers ifs ↔ ∃ k g, h ∈ ((ifs.getD k default).group g).bridgeInterfaceList := by
  simp only [allSubscribers, mem_flatten_map_iff subscribersOf rfl, mem_subscribersOf]

/-- What registration leaves in an interface: the slots in use fill the table, and each holds a
group with a subscriber and no other state. -/
structure Interface.RegisteredShape (ifc : Interface) : Prop where
  allocated_eq : ifc.groupListAllocated = ifc.groupListCount
  group : ∀ g < ifc.groupListCount, (ifc.group g).bridgeInterfaceList ≠ [] ∧
    (ifc.group g).active = false ∧ (ifc.group g).v1HostPresent = false ∧
    (ifc.group g).groupQueriesRemaining = 0

/-- Every interface of the list has the shape registration leaves. -/
def AllRegistered (ifs : List Interface) : Prop := ∀ k, (ifs.getD k default).RegisteredShape

theorem Interface.RegisteredShape.of_groupList_nil {ifc : Interface} (h : ifc.groupList = [])
    (hc : ifc.groupListCount = 0) : ifc.RegisteredShape :=
  ⟨by simp [Interface.groupListAllocated, h, hc], fun _ hg => absurd hg (by omega)⟩

theorem Interface.RegisteredShape.addGroupSubscriber {ifc : Interface}
    (hifc : ifc.RegisteredShape) (addr : Nat) (h : BridgeHandle) :
    (McastBridge.addGroupSubscriber ifc addr h).RegisteredShape := by
  unfold McastBridge.addGroupSubscriber
  split
  · refine ⟨by simpa using hifc.allocated_eq, fun g' hg' => ?_⟩
    rw [Interface.group_modifyGroup _ _ _ _ (hifc.allocated_eq ▸ hg')]
    have := hifc.group g' hg'
    split <;> simp_all
  · have hlen := hifc.allocated_eq
    simp only [Interface.groupListAllocated] at hlen
    refine ⟨by simp [Interface.groupListAllocated, hlen], fun g' hg' => ?_⟩
    change g' < ifc.groupListCount + 1 at hg'
    simp only [Interface.group]
    rcases Nat.lt_or_ge g' ifc.groupListCount with hlt | hge
    · rw [List.getD_append _ _ _ _ (hlen ▸ hlt)]; exact hifc.group g' hlt
    · rw [List.getD_append_right _ _ _ _ (by omega), show g' - ifc.groupList.length = 0 by omega]
      simp [default]

@[simp] theorem ifAddr_addGroupSubscriber (ifc : Interface) (addr : Nat) (h : BridgeHandle) :
    (addGroupSubscriber ifc addr h).ifAddr = ifc.ifAddr := by
  unfold addGroupSubscriber; split <;> rfl

/-- Registration keeps a property `Q` of the interfaces' addresses that holds of the address
`ifAddrOf` reads from the registered bridge interface. -/
theorem registerInterface_ifAddr (Q : Nat → Prop) {ifAddrOf : BridgeInterface → Nat}
    {bl : List BridgeInstance} {ifs : List Interface} {h : BridgeHandle}
    (hifs : ∀ k < ifs.length, Q (ifs.getD k default).ifAddr)
    (hh : Q (ifAddrOf (interfaceAt bl h))) :
    ∀ k < (registerInterface ifAddrOf bl ifs h).length,
      Q ((registerInterface ifAddrOf bl ifs h).getD k default).ifAddr := by
  dsimp only [registerInterface]
  split
  · intro k hk
    rw [List.length_modify] at hk
    rw [getD_modify _ _ _ _ _ hk]
    split
    · rw [ifAddr_addGroupSubscriber]; exact hifs k hk
    · exact hifs k hk
  · intro k hk
    rw [List.length_append, List.length_singleton] at hk
    rcases Nat.lt_or_ge k ifs.length with hlt | hge
    · rw [List.getD_append _ _ _ _ hlt]; exact hifs k hlt
    · rw [List.getD_append_right _ _ _ _ hge, show k - ifs.length = 0 by omega]
      simpa using hh

theorem AllRegistered.registerInterface {ifs : List Interface} (hifs : AllRegistered ifs)
    (ifAddrOf : BridgeInterface → Nat) (bl : List BridgeInstance) (h : BridgeHandle) :
    AllRegistered (McastBridge.registerInterface ifAddrOf bl ifs h) := by
  intro k
  simp only [McastBridge.registerInterface]
  split
  · rcases getD_modify_cases (addGroupSubscriber · _ h) ifs _ k default with e | e <;> rw [e]
    · exact hifs k
    · exact (hifs k).addGroupSubscriber _ h
  · rcases getD_append_singleton_cases ifs _ k default with e | e <;> rw [e]
    · exact hifs k
    · exact (Interface.RegisteredShape.of_groupList_nil rfl rfl).addGroupSubscriber _ h

theorem subscribersOf_addGroupSubscriber {ifc : Interface} (hifc : ifc.RegisteredShape)
    (addr : Nat) (h : BridgeHandle) :
    List.Perm (subscribersOf (addGroupSubscriber ifc addr h)) (subscribersOf ifc ++ [h]) := by
  unfold addGroupSubscriber
  split
  · rename_i g hg
    have hlt : g < ifc.groupList.length := by
      have := (findAddr_some hg).2.1; have := hifc.allocated_eq
      simp only [Interface.groupListAllocated] at *; omega
    exact flatten_map_modify_perm _ _ h _ _ hlt (List.Perm.refl _)
  · simp [subscribersOf]

theorem allSubscribers_registerInterface {ifs : List Interface} (hifs : AllRegistered ifs)
    (ifAddrOf : BridgeInterface → Nat) (bl : List BridgeInstance) (h : BridgeHandle) :
    List.Perm (allSubscribers (registerInterface ifAddrOf bl ifs h)) (allSubscribers ifs ++ [h]) := by
  simp only [registerInterface]
  split
  · rename_i k hk
    exact flatten_map_modify_perm _ _ h _ _ (List.mem_range.1 (List.mem_of_find?_eq_some hk))
      (subscribersOf_addGroupSubscriber (hifs k) _ h)
  · simp only [allSubscribers, List.map_append, List.flatten_append, List.map_cons, List.map_nil,
      List.flatten_cons, List.flatten_nil, List.append_nil]
    exact (subscribersOf_addGroupSubscriber (.of_groupList_nil rfl rfl) _ h).append_left _

/-- **Registration subscribes each dynamic outbound interface of the family once**, and leaves
every interface in the shape `McastBridge.Interface.RegisteredShape`. -/
theorem registerAll_spec (ifAddrOf : BridgeInterface → Nat) (fam : Family)
    (bl : List BridgeInstance) :
    AllRegistered (registerAll ifAddrOf fam bl) ∧
      List.Perm (allSubscribers (registerAll ifAddrOf fam bl)) (dynamicOutboundHandles fam bl) := by
  have key : ∀ (hs : List BridgeHandle) (ifs : List Interface), AllRegistered ifs →
      AllRegistered (hs.foldl (registerInterface ifAddrOf bl) ifs) ∧
        List.Perm (allSubscribers (hs.foldl (registerInterface ifAddrOf bl) ifs))
          (allSubscribers ifs ++ hs) := by
    intro hs
    induction hs with
    | nil => intro ifs h; exact ⟨h, by simp⟩
    | cons h hs ih =>
        intro ifs hifs
        obtain ⟨h₁, h₂⟩ := ih _ (hifs.registerInterface ifAddrOf bl h)
        refine ⟨h₁, h₂.trans ?_⟩
        simpa using (allSubscribers_registerInterface hifs ifAddrOf bl h).append_right hs
  obtain ⟨h₁, h₂⟩ := key (dynamicOutboundHandles fam bl) []
    fun _ => .of_groupList_nil rfl rfl
  exact ⟨h₁, by simpa [allSubscribers] using h₂⟩

theorem mem_dynamicOutboundHandles (fam : Family) (bl : List BridgeInstance) (h : BridgeHandle) :
    h ∈ dynamicOutboundHandles fam bl ↔ h.Valid bl ∧
      (interfaceAt bl h).outboundConfiguration = .dynamic ∧
      (bl.getD h.bridgeIndex default).family = fam := by
  obtain ⟨b, k⟩ := h
  simp only [dynamicOutboundHandles, List.mem_flatMap, List.mem_range, BridgeHandle.Valid,
    interfaceAt]
  constructor
  · rintro ⟨b', hb', hmem⟩
    split at hmem
    · obtain ⟨k', hk', he⟩ := List.mem_map.1 hmem
      cases he
      simp only [List.mem_filter, List.mem_range, decide_eq_true_eq] at hk'
      exact ⟨⟨hb', hk'.1⟩, hk'.2, ‹_›⟩
    · exact absurd hmem (List.not_mem_nil _)
  · rintro ⟨⟨hb, hk⟩, hd, hf⟩
    refine ⟨b, hb, ?_⟩
    rw [if_pos hf]
    simp only [List.mem_map, List.mem_filter, List.mem_range, decide_eq_true_eq]
    exact ⟨k, ⟨hk, hd⟩, rfl⟩

theorem nodup_dynamicOutboundHandles (fam : Family) (bl : List BridgeInstance) :
    (dynamicOutboundHandles fam bl).Nodup := by
  have hidx : ∀ b x, x ∈ (if (bl.getD b default).family = fam then
      ((List.range (bl.getD b default).interfaceList.length).filter fun k =>
        ((bl.getD b default).interfaceList.getD k default).outboundConfiguration =
          .dynamic).map fun k => (⟨b, k⟩ : BridgeHandle) else []) → x.bridgeIndex = b := by
    intro b x hx
    split at hx
    · obtain ⟨_, -, rfl⟩ := List.mem_map.1 hx; rfl
    · exact absurd hx (List.not_mem_nil _)
  refine List.nodup_flatMap.2 ⟨fun b _ => ?_, (List.nodup_range _).pairwise_of_forall_ne
    fun b _ b' _ hne x hx hx' => hne ((hidx b x hx).symm.trans (hidx b' x hx'))⟩
  split
  · exact ((List.nodup_range _).filter _).map fun _ _ e => (BridgeHandle.mk.inj e).2
  · exact List.nodup_nil

section
variable (ifAddrOf : BridgeInterface → Nat) (fam : Family) (bl : List BridgeInstance)

/-- A registered subscriber is a dynamic outbound interface of a bridge of the family. -/
theorem registerAll_subscriber {h : BridgeHandle} {k g : Nat}
    (hm : h ∈ (((registerAll ifAddrOf fam bl).getD k default).group g).bridgeInterfaceList) :
    h.Valid bl ∧ (interfaceAt bl h).outboundConfiguration = .dynamic ∧
      (bl.getD h.bridgeIndex default).family = fam :=
  (mem_dynamicOutboundHandles fam bl h).1 <|
    (registerAll_spec ifAddrOf fam bl).2.mem_iff.1 ((mem_allSubscribers _ _).2 ⟨k, g, hm⟩)

/-- Every dynamic outbound interface of a bridge of the family is subscribed to a group. -/
theorem registerAll_complete {h : BridgeHandle} (hv : h.Valid bl)
    (hd : (interfaceAt bl h).outboundConfiguration = .dynamic)
    (hf : (bl.getD h.bridgeIndex default).family = fam) :
    ∃ k g, h ∈ (((registerAll ifAddrOf fam bl).getD k default).group g).bridgeInterfaceList :=
  (mem_allSubscribers _ _).1 <|
    (registerAll_spec ifAddrOf fam bl).2.mem_iff.2 ((mem_dynamicOutboundHandles fam bl h).2 ⟨hv, hd, hf⟩)

/-- A dynamic outbound interface is subscribed to one group of one interface only. -/
theorem registerAll_unique {h : BridgeHandle} {k g k' g' : Nat}
    (h₁ : h ∈ (((registerAll ifAddrOf fam bl).getD k default).group g).bridgeInterfaceList)
    (h₂ : h ∈ (((registerAll ifAddrOf fam bl).getD k' default).group g').bridgeInterfaceList) :
    k = k' ∧ g = g' := by
  have hN : (allSubscribers (registerAll ifAddrOf fam bl)).Nodup :=
    (registerAll_spec ifAddrOf fam bl).2.nodup_iff.2 (nodup_dynamicOutboundHandles fam bl)
  obtain rfl : k = k' := eq_of_mem_flatten_map subscribersOf rfl hN
    ((mem_subscribersOf _ _).2 ⟨g, h₁⟩) ((mem_subscribersOf _ _).2 ⟨g', h₂⟩)
  have hN' : ((((registerAll ifAddrOf fam bl).getD k default).groupList.map
      (·.bridgeInterfaceList)).flatten).Nodup := nodup_of_nodup_flatten_map subscribersOf hN rfl k
  exact ⟨rfl, eq_of_mem_flatten_map _ rfl hN' h₁ h₂⟩

/-- Every registered interface has the address `ifAddrOf` reads from one of the family's dynamic
outbound interfaces, so it has any property `Q` all of those addresses have. -/
theorem registerAll_ifAddr (Q : Nat → Prop)
    (hQ : ∀ h ∈ dynamicOutboundHandles fam bl, Q (ifAddrOf (interfaceAt bl h))) :
    ∀ k < (registerAll ifAddrOf fam bl).length,
      Q ((registerAll ifAddrOf fam bl).getD k default).ifAddr := by
  suffices key : ∀ (hs : List BridgeHandle) (ifs : List Interface),
      (∀ h ∈ hs, Q (ifAddrOf (interfaceAt bl h))) →
      (∀ k < ifs.length, Q (ifs.getD k default).ifAddr) →
      ∀ k < (hs.foldl (registerInterface ifAddrOf bl) ifs).length,
        Q ((hs.foldl (registerInterface ifAddrOf bl) ifs).getD k default).ifAddr from
    key _ [] hQ fun _ hk => absurd hk (Nat.not_lt_zero _)
  intro hs
  induction hs with
  | nil => exact fun _ _ h => h
  | cons h hs ih =>
      intro ifs hhs hifs
      exact ih _ (fun h' hh' => hhs h' (.tail _ hh'))
        (registerInterface_ifAddr Q hifs (hhs h (.head _)))

end

/-- The finalisation keeps every slot of a registered table and adds empty ones. -/
theorem Interface.RegisteredShape.group_initializeGroupList {ifc : Interface}
    (hifc : ifc.RegisteredShape) (nonConfiguredGroups g : Nat) :
    (initializeGroupList nonConfiguredGroups ifc).group g = ifc.group g := by
  have hlen := hifc.allocated_eq
  simp only [Interface.groupListAllocated] at hlen
  simp only [initializeGroupList, Interface.group, ← hlen, List.take_length]
  rcases Nat.lt_or_ge g ifc.groupList.length with hlt | hge
  · exact List.getD_append _ _ _ _ hlt
  · rw [List.getD_append_right _ _ _ _ hge, List.getD_eq_default _ _ hge,
      List.getD_eq_getElem?_getD, List.getElem?_getD_replicate_default_eq]

/-- A registered slot is inactive, with no group-specific query to send. -/
theorem Interface.RegisteredShape.group_quiet {ifc : Interface} (hifc : ifc.RegisteredShape)
    (g : Nat) : (ifc.group g).active = false ∧ (ifc.group g).groupQueriesRemaining = 0 := by
  rcases Nat.lt_or_ge g ifc.groupListCount with hg | hg
  · exact ⟨(hifc.group g hg).2.1, (hifc.group g hg).2.2.2⟩
  · rw [Interface.group_of_le _ _ (hifc.allocated_eq ▸ hg)]
    exact ⟨rfl, rfl⟩

end Registration

/-! ### The querier side of an interface

The table operations of this module change an interface's group list and its count only: its
querier state, what `McastBridge.Interface.querierView` keeps, is left as it is. -/

/-- An interface with its group table erased. -/
def Interface.querierView (ifc : Interface) : Interface :=
  { ifc with groupList := [], groupListCount := 0, groupListFixedLimit := 0 }

theorem Interface.ifAddr_eq_of_querierView {a b : Interface} (h : a.querierView = b.querierView) :
    a.ifAddr = b.ifAddr := by
  have := congrArg Interface.ifAddr h; exact this

theorem Interface.querierAddr_eq_of_querierView {a b : Interface}
    (h : a.querierView = b.querierView) : a.querierAddr = b.querierAddr := by
  have := congrArg Interface.querierAddr h; exact this

@[simp] theorem Interface.querierView_modifyGroup (ifc : Interface) (g : Nat) (f : Group → Group) :
    (ifc.modifyGroup g f).querierView = ifc.querierView := rfl

theorem querierView_joinActivateAt (bl : List BridgeInstance) (ifc : Interface) (g : Nat) :
    (joinActivateAt bl ifc g).2.querierView = ifc.querierView := by
  unfold joinActivateAt; split <;> rfl

theorem querierView_groupTimeoutAt (bl : List BridgeInstance) (ifc : Interface) (g : Nat) :
    (groupTimeoutAt bl ifc g).2.querierView = ifc.querierView := by
  dsimp only [groupTimeoutAt]; split <;> rfl

theorem querierView_of_interfaceFindGroup {isLinkScope : Nat → Bool} {ifc : Interface}
    {addr : Nat} {ifc' : Interface} {g : Nat}
    (h : interfaceFindGroup isLinkScope ifc addr = some (ifc', g)) :
    ifc'.querierView = ifc.querierView := by
  rcases interfaceFindGroup_eq_some h with ⟨rfl | rfl, -⟩ | ⟨-, -, rfl⟩ <;> rfl

end McastBridge
