import McastBridge.Table
/-
**The timers of the MLD subsystem.**

`initialize_mld` creates the subsystem's event manager with room for
`2 · mld_interface_list_count + 2 · Σ group_list_allocated` timers, and the handlers of `mld.c`
keep the pending timers in step with the interfaces' records: every interface has its router
advertisement pending; its general query exactly when it is the querier, which then has
robustness 2; its other-querier timer only when it is not; and every group slot has its
membership timer exactly while it is active and its group-specific query exactly while queries
of a burst remain.  No timer is pending twice, and every pending timer is one of those a record
allows, of which there are never more than the room reserved: `evm_add_timer` never finds the
table full, and never drops a timer, which the subsystem's log records.

`McastBridge.TimerInv` is that invariant up to a set `flux` of timers that a handler has
cancelled, popped, or newly made due, and not yet set again; none of them is pending.  Its
parameter `started` is the set of interfaces whose querier state start-up has set, the only ones
held to robustness 2.  Start-up begins with the interface timers of every interface in flux and
releases them one interface at a time.

The one assumption is that no interface's link-local address is all ones, the querier address
of an open election: `read_config` stores in `ipv6_addr_ll` only an address of `fe80::/10`, and
leaves it zero when the interface has none.

Main definitions:

* `McastBridge.TimerKey.AllowedBy`, `McastBridge.TimerKey.RequiredBy` — the timers an
  interface's record allows, and requires, to be pending;
* `McastBridge.timerBudget` — the room `initialize_mld` reserves for one interface;
* `McastBridge.TimerInv` — the invariant of the timers, up to the timers in flux;
* `McastBridge.MldTimers` — what the invariant shows of a state.

Main results:

* `McastBridge.length_le_of_allowed` — allowed timers, each once, fit in the reserved room;
* `McastBridge.TimerInv.mldStep`, `McastBridge.TimerInv.start` — every event keeps the
  invariant, and start-up establishes it;
* `McastBridge.mld_timers` — **in every state the MLD subsystem reaches, in any querier mode,
  the pending timers are exactly those the records call for, and no timer is ever dropped**.
-/

set_option relaxedAutoImplicit false
set_option autoImplicit false

namespace McastBridge

/-! ### The timers a record calls for -/

/-- The interface a timer belongs to. -/
def TimerKey.iface : TimerKey → Nat
  | .sendMrdAdvertisement i => i
  | .sendGeneralQuery i => i
  | .querierTimeout i => i
  | .sendGroupSpecificQuery i _ => i
  | .groupTimeout i _ => i
  | .v1HostTimeout i _ => i

/-- A timer of an interface as such, not of one of its group slots. -/
def TimerKey.IsInterfaceTimer : TimerKey → Prop
  | .sendMrdAdvertisement _ | .sendGeneralQuery _ | .querierTimeout _ => True
  | _ => False

/-- The MLD timers an interface whose record is `ifc` may have pending: its router
advertisement; its general query only as the querier, and its other-querier timer only when it
is not; a slot's membership timer while the slot is active, and its group-specific query while
queries remain.  MLD has no v1-host timer. -/
def TimerKey.AllowedBy (ifc : Interface) : TimerKey → Prop
  | .sendMrdAdvertisement _ => True
  | .sendGeneralQuery _ => ifc.querierAddr = ifc.ifAddr
  | .querierTimeout _ => ifc.querierAddr ≠ ifc.ifAddr
  | .sendGroupSpecificQuery _ g => 0 < (ifc.group g).groupQueriesRemaining
  | .groupTimeout _ g => (ifc.group g).active = true
  | .v1HostTimeout _ _ => False

/-- The timers the record requires to be pending: all it allows but the other-querier timer,
which an interface that has not heard another querier does not have. -/
def TimerKey.RequiredBy (ifc : Interface) : TimerKey → Prop
  | .querierTimeout _ => False
  | k => k.AllowedBy ifc

/-- A timer of an interface of the list that the interface's record allows. -/
def TimerKey.Allowed (s : Sys) (k : TimerKey) : Prop :=
  k.iface < s.interfaceList.length ∧ k.AllowedBy (s.iface k.iface)

/-- A timer of an interface of the list that the interface's record requires. -/
def TimerKey.Required (s : Sys) (k : TimerKey) : Prop :=
  k.iface < s.interfaceList.length ∧ k.RequiredBy (s.iface k.iface)

namespace TimerKey

variable {a b : Interface}

theorem allowedBy_of_requiredBy {k : TimerKey} (h : k.RequiredBy a) : k.AllowedBy a := by
  cases k
  case querierTimeout => exact h.elim
  all_goals exact h

theorem requiredBy_iff {k : TimerKey} (h : k.AllowedBy a ↔ k.AllowedBy b) :
    k.RequiredBy a ↔ k.RequiredBy b := by
  cases k
  case querierTimeout => exact Iff.rfl
  all_goals exact h

theorem not_required_querierTimeout (s : Sys) (i : Nat) : ¬(querierTimeout i).Required s :=
  fun h => h.2

/-- The timers in flux while start-up has set the interfaces below `n`: the interface timers of
the others. -/
def StartFlux (n : Nat) (k : TimerKey) : Prop := k.IsInterfaceTimer ∧ n ≤ k.iface

theorem startFlux_iff (n : Nat) (k : TimerKey) : k.StartFlux n ↔ k.StartFlux (n + 1) ∨
    k = sendMrdAdvertisement n ∨ k = sendGeneralQuery n ∨ k = querierTimeout n := by
  cases k <;> simp only [StartFlux, IsInterfaceTimer, iface, true_and, false_and, reduceCtorEq,
    sendMrdAdvertisement.injEq, sendGeneralQuery.injEq, querierTimeout.injEq, or_false,
    false_or] <;> omega

/-- A timer past start-up's front is not one of interface `n`'s. -/
theorem StartFlux.ne {n : Nat} {x y : TimerKey} (hx : x.StartFlux (n + 1)) (hy : y.iface = n) :
    x ≠ y := by
  rintro rfl
  exact absurd hx.2 (by omega)

/-- The timers start-up's pass over interface `n` takes out of the flux: its advertisement, its
general query and its other-querier timer. -/
theorem StartFlux.eq_querierTimeout {n : Nat} {k : TimerKey} (hk : k.StartFlux n)
    (hk' : ¬k.StartFlux (n + 1)) (hm : k ≠ sendMrdAdvertisement n) (hg : k ≠ sendGeneralQuery n) :
    k = querierTimeout n :=
  ((((startFlux_iff n k).1 hk).resolve_left hk').resolve_left hm).resolve_left hg

end TimerKey

/-! ### Updates of a record -/

/-- Two records that agree on everything the MLD timers depend on. -/
structure Interface.SameTimers (a b : Interface) : Prop where
  ifAddr : a.ifAddr = b.ifAddr
  querierAddr : a.querierAddr = b.querierAddr
  querierRobustness : a.querierRobustness = b.querierRobustness
  groupListAllocated : a.groupListAllocated = b.groupListAllocated
  active : ∀ g, (a.group g).active = (b.group g).active
  remaining : ∀ g, (a.group g).groupQueriesRemaining = (b.group g).groupQueriesRemaining

namespace Interface.SameTimers

variable {a b : Interface}

theorem allowedBy (h : a.SameTimers b) (k : TimerKey) : k.AllowedBy a ↔ k.AllowedBy b := by
  cases k <;> simp only [TimerKey.AllowedBy, h.ifAddr, h.querierAddr, h.active, h.remaining]

/-- A found slot, set to its address or counted, changes nothing the timers depend on. -/
theorem of_interfaceFindGroup {L : Nat → Bool} {ifc ifc' : Interface} {addr g : Nat}
    (h : interfaceFindGroup L ifc addr = some (ifc', g)) : ifc'.SameTimers ifc := by
  have hset : (ifc.setAddr g addr).SameTimers ifc :=
    ⟨rfl, rfl, rfl, Interface.groupListAllocated_modifyGroup _ _ _,
      fun j => Interface.modifyGroup_keeps (·.active) _ _ j fun _ => rfl,
      fun j => Interface.modifyGroup_keeps (·.groupQueriesRemaining) _ _ j fun _ => rfl⟩
  rcases interfaceFindGroup_eq_some h with ⟨rfl | rfl, -⟩ | ⟨-, -, rfl⟩
  · exact ⟨rfl, rfl, rfl, rfl, fun _ => rfl, fun _ => rfl⟩
  · exact hset
  · exact ⟨hset.1, hset.2, hset.3, hset.4, hset.5, hset.6⟩

end Interface.SameTimers

/-- What a change of an interface's querier state keeps: its address and its table. -/
def Interface.tableView (ifc : Interface) : Nat × List Group × Nat × Nat :=
  (ifc.ifAddr, ifc.groupList, ifc.groupListCount, ifc.groupListFixedLimit)

/-- The slot counts of a table are in order:
`group_list_fixed_limit ≤ group_list_count ≤ group_list_allocated`. -/
def Interface.Bounded (ifc : Interface) : Prop :=
  ifc.groupListFixedLimit ≤ ifc.groupListCount ∧ ifc.groupListCount ≤ ifc.groupListAllocated

namespace Interface

theorem lt_allocated_of_active {ifc : Interface} {g : Nat} (h : (ifc.group g).active = true) :
    g < ifc.groupListAllocated :=
  Nat.lt_of_not_le fun hg => by rw [ifc.group_of_le g hg] at h; exact Bool.false_ne_true h

theorem lt_allocated_of_remaining {ifc : Interface} {g : Nat}
    (h : 0 < (ifc.group g).groupQueriesRemaining) : g < ifc.groupListAllocated :=
  Nat.lt_of_not_le fun hg => by rw [ifc.group_of_le g hg] at h; exact Nat.lt_irrefl 0 h

theorem Bounded.of_tableView {a b : Interface} (hb : b.Bounded) (h : a.tableView = b.tableView) :
    a.Bounded := by
  simp only [tableView, Prod.mk.injEq] at h
  simpa only [Bounded, groupListAllocated, h] using hb

theorem Bounded.modifyGroup {ifc : Interface} (hb : ifc.Bounded) (g : Nat) (f : Group → Group) :
    (ifc.modifyGroup g f).Bounded :=
  ⟨hb.1, by simpa using hb.2⟩

/-- A find in an ordered table leaves it ordered, and returns one of its slots. -/
theorem Bounded.interfaceFindGroup {L : Nat → Bool} {ifc ifc' : Interface} {addr g : Nat}
    (hb : ifc.Bounded) (h : McastBridge.interfaceFindGroup L ifc addr = some (ifc', g)) :
    ifc'.Bounded ∧ g < ifc'.groupListAllocated := by
  obtain ⟨hfc, hca⟩ := hb
  have hset : (ifc.setAddr g addr).groupListAllocated = ifc.groupListAllocated :=
    groupListAllocated_modifyGroup _ _ _
  rcases interfaceFindGroup_eq_some h with ⟨rfl | rfl, hg⟩ | ⟨rfl, hroom, rfl⟩
  · exact ⟨⟨hfc, hca⟩, by omega⟩
  · exact ⟨Bounded.modifyGroup ⟨hfc, hca⟩ g _, by omega⟩
  · exact ⟨⟨Nat.le_succ_of_le hfc,
      show ifc.groupListCount + 1 ≤ (ifc.setAddr _ addr).groupListAllocated by omega⟩,
      show ifc.groupListCount < (ifc.setAddr _ addr).groupListAllocated by omega⟩

theorem Bounded.groupTimeoutAt {ifc : Interface} (hb : ifc.Bounded) (bl : List BridgeInstance)
    (g : Nat) : (McastBridge.groupTimeoutAt bl ifc g).2.Bounded := by
  have hb' := hb.modifyGroup g fun grp => { grp with active := false }
  dsimp only [McastBridge.groupTimeoutAt]
  split
  · exact hb'
  · exact ⟨le_tightenGroupListCount _ _ _ hb'.1, (tightenGroupListCount_le _ _ _).trans hb'.2⟩

theorem Bounded.joinActivateAt {ifc : Interface} (hb : ifc.Bounded) (bl : List BridgeInstance)
    (g : Nat) : (McastBridge.joinActivateAt bl ifc g).2.Bounded := by
  unfold McastBridge.joinActivateAt
  split
  · exact hb
  · exact hb.modifyGroup g _

theorem RegisteredShape.bounded_initializeGroupList {ifc : Interface} (hifc : ifc.RegisteredShape)
    (n : Nat) : (initializeGroupList n ifc).Bounded := by
  have := hifc.allocated_eq
  simp only [Bounded, initializeGroupList, groupListAllocated, List.length_append,
    List.length_take, List.length_replicate] at this ⊢
  omega

end Interface

/-- `*_join_common` on a slot of the table activates it, and changes no other slot's activity
and no slot's remaining queries. -/
theorem joinActivateAt_slot (bl : List BridgeInstance) (ifc : Interface) {g : Nat}
    (hg : g < ifc.groupListAllocated) (j : Nat) :
    ((joinActivateAt bl ifc g).2.group j).active = (if j = g then true else (ifc.group j).active) ∧
      ((joinActivateAt bl ifc g).2.group j).groupQueriesRemaining =
        (ifc.group j).groupQueriesRemaining := by
  unfold joinActivateAt
  split
  · rename_i hact
    refine ⟨?_, rfl⟩
    split
    · rename_i hj; rw [hj]; exact hact
    · rfl
  · rw [Interface.group_modifyGroup_eq]
    by_cases hj : j = g
    · subst hj; simp [hg]
    · simp [hj, Ne.symm hj]

/-- `*_group_timeout` deactivates its slot, and changes no other slot's activity and no slot's
remaining queries. -/
theorem groupTimeoutAt_slot (bl : List BridgeInstance) (ifc : Interface) (g j : Nat) :
    ((groupTimeoutAt bl ifc g).2.group j).active = (if j = g then false else (ifc.group j).active) ∧
      ((groupTimeoutAt bl ifc g).2.group j).groupQueriesRemaining =
        (ifc.group j).groupQueriesRemaining := by
  have key : ((ifc.modifyGroup g fun grp => { grp with active := false }).group j).active =
      (if j = g then false else (ifc.group j).active) ∧
      ((ifc.modifyGroup g fun grp => { grp with active := false }).group j).groupQueriesRemaining =
        (ifc.group j).groupQueriesRemaining := by
    refine ⟨?_, Interface.modifyGroup_keeps (·.groupQueriesRemaining) _ _ _ fun _ => rfl⟩
    rw [Interface.group_modifyGroup_eq]
    by_cases hj : j = g
    · subst hj
      split
      · simp
      · rename_i hc
        rw [if_pos rfl, ifc.group_of_le j (Nat.le_of_not_lt fun hlt => hc ⟨rfl, hlt⟩)]
        rfl
    · simp [hj, Ne.symm hj]
  dsimp only [groupTimeoutAt]
  split <;> exact key

theorem groupListAllocated_groupTimeoutAt (bl : List BridgeInstance) (ifc : Interface) (g : Nat) :
    (groupTimeoutAt bl ifc g).2.groupListAllocated = ifc.groupListAllocated := by
  dsimp only [groupTimeoutAt]
  split <;> exact Interface.groupListAllocated_modifyGroup _ _ _

theorem groupListAllocated_joinActivateAt (bl : List BridgeInstance) (ifc : Interface) (g : Nat) :
    (joinActivateAt bl ifc g).2.groupListAllocated = ifc.groupListAllocated := by
  unfold joinActivateAt
  split
  · rfl
  · exact Interface.groupListAllocated_modifyGroup _ _ _

theorem Sys.lt_length_of_lt_allocated {s : Sys} {i g : Nat}
    (h : g < (s.iface i).groupListAllocated) : i < s.interfaceList.length :=
  Nat.lt_of_not_le fun hi => by
    rw [Sys.iface, List.getD_eq_default _ _ hi] at h; exact Nat.not_lt_zero g h

/-! ### The room `initialize_mld` reserves -/

/-- The timers interface `i` with record `ifc` may have pending at once: its advertisement, its
general query or its other-querier timer, and a membership timer and a group-specific query per
slot. -/
def timerBudget (i : Nat) (ifc : Interface) : List TimerKey :=
  .sendMrdAdvertisement i ::
    (if ifc.querierAddr = ifc.ifAddr then .sendGeneralQuery i else .querierTimeout i) ::
      ((List.range ifc.groupListAllocated).map (.groupTimeout i) ++
        (List.range ifc.groupListAllocated).map (.sendGroupSpecificQuery i))

/-- The budgets of the interfaces of `ifs`, numbered from `i`. -/
def budgetFrom : List Interface → Nat → List TimerKey
  | [], _ => []
  | ifc :: ifs, i => timerBudget i ifc ++ budgetFrom ifs (i + 1)

theorem length_budgetFrom (ifs : List Interface) (i : Nat) :
    (budgetFrom ifs i).length = ifs.length * 2 + totalGroups ifs * 2 := by
  induction ifs generalizing i with
  | nil => rfl
  | cons ifc ifs ih =>
      simp only [budgetFrom, timerBudget, totalGroups, List.length_append, List.length_cons,
        List.length_map, List.length_range, ih]
      omega

theorem mem_timerBudget {ifc : Interface} {k : TimerKey} (h : k.AllowedBy ifc) :
    k ∈ timerBudget k.iface ifc := by
  cases k with
  | sendMrdAdvertisement i => exact List.mem_cons_self _ _
  | sendGeneralQuery i => simp [timerBudget, TimerKey.iface, show ifc.querierAddr = ifc.ifAddr from h]
  | querierTimeout i => simp [timerBudget, TimerKey.iface, show ifc.querierAddr ≠ ifc.ifAddr from h]
  | sendGroupSpecificQuery i g =>
      simp [timerBudget, TimerKey.iface, Interface.lt_allocated_of_remaining h]
  | groupTimeout i g => simp [timerBudget, TimerKey.iface, Interface.lt_allocated_of_active h]
  | v1HostTimeout i g => exact h.elim

theorem mem_budgetFrom {k : TimerKey} :
    ∀ {ifs : List Interface} {i : Nat}, i ≤ k.iface → k.iface < i + ifs.length →
      k.AllowedBy (ifs.getD (k.iface - i) default) → k ∈ budgetFrom ifs i
  | [], _, h₁, h₂, _ => by rw [List.length_nil, Nat.add_zero] at h₂; omega
  | ifc :: ifs, i, h₁, h₂, h => by
      rw [budgetFrom, List.mem_append]
      rcases Nat.eq_or_lt_of_le h₁ with he | hlt
      · rw [he, Nat.sub_self, List.getD_cons_zero] at h
        exact .inl (he ▸ mem_timerBudget h)
      · refine .inr (mem_budgetFrom (by omega) (by rw [List.length_cons] at h₂; omega) ?_)
        rwa [show k.iface - i = k.iface - (i + 1) + 1 by omega, List.getD_cons_succ] at h

/-- **Timers that the records allow, each at most once, fit in the room `initialize_mld`
reserves.** -/
theorem length_le_of_allowed {s : Sys} {l : List TimerKey} (hnd : l.Nodup)
    (ha : ∀ k ∈ l, k.Allowed s) :
    l.length ≤ s.interfaceList.length * 2 + totalGroups s.interfaceList * 2 := by
  rw [← length_budgetFrom s.interfaceList 0]
  refine (List.subperm_of_subset hnd fun k hk => ?_).length_le
  obtain ⟨hlen, hk⟩ := ha k hk
  exact mem_budgetFrom (Nat.zero_le _) (by simpa using hlen) (by rw [Nat.sub_zero]; exact hk)

/-! ### The invariant -/

/-- The invariant of the MLD timers, up to the timers of `flux`, which none of them is pending:
each pending timer is pending once and allowed, and each required one is pending; the table has
the room `initialize_mld` gave it and nothing was logged; no interface address is all ones; the
interfaces of `started` have robustness 2 as the querier; no burst has more than two queries
left; and the tables' counts are in order. -/
structure TimerInv (flux : TimerKey → Prop) (started : Nat → Prop) (s : Sys) : Prop where
  nodup : s.pending.Nodup
  allowed : ∀ k ∈ s.pending, ¬flux k ∧ k.Allowed s
  required : ∀ k, ¬flux k → k.Required s → k ∈ s.pending
  capacity : s.evm.timerListAllocated =
    s.interfaceList.length * 2 + totalGroups s.interfaceList * 2
  log : s.log = []
  ifAddr : ∀ i < s.interfaceList.length, (s.iface i).ifAddr ≠ mldProto.allOnes
  robustness : ∀ i < s.interfaceList.length, started i →
    (s.iface i).querierAddr = (s.iface i).ifAddr → (s.iface i).querierRobustness = 2
  remaining : ∀ i g, (s.group i g).groupQueriesRemaining ≤ 2
  bounded : ∀ i, (s.iface i).Bounded

namespace TimerInv

variable {flux : TimerKey → Prop} {started : Nat → Prop} {s : Sys}

theorem not_mem (h : TimerInv flux started s) {k : TimerKey} (hk : flux k) : k ∉ s.pending :=
  fun hm => (h.allowed k hm).1 hk

theorem not_mem_of_not_allowed (h : TimerInv flux started s) {k : TimerKey}
    (hk : ¬k.AllowedBy (s.iface k.iface)) : k ∉ s.pending :=
  fun hm => hk (h.allowed k hm).2.2

/-! ### The updates a handler is made of -/

/-- Fewer timers in flux: those left out are not required. -/
theorem mono (h : TimerInv flux started s) {flux' : TimerKey → Prop}
    (h₁ : ∀ k, flux' k → flux k) (h₂ : ∀ k, flux k → ¬flux' k → ¬k.Required s) :
    TimerInv flux' started s where
  nodup := h.nodup
  allowed k hk := ⟨fun hf => (h.allowed k hk).1 (h₁ k hf), (h.allowed k hk).2⟩
  required k hk hr := by
    by_cases hf : flux k
    · exact absurd hr (h₂ k hf hk)
    · exact h.required k hf hr
  capacity := h.capacity
  log := h.log
  ifAddr := h.ifAddr
  robustness := h.robustness
  remaining := h.remaining
  bounded := h.bounded

/-- No timer in flux. -/
theorem settle (h : TimerInv flux started s) (hf : ∀ k, ¬flux k) :
    TimerInv (fun _ => False) started s :=
  h.mono (fun _ => False.elim) fun k hk => absurd hk (hf k)

/-- A timer that is not pending may join the flux. -/
theorem absent (h : TimerInv flux started s) {k : TimerKey} (hk : k ∉ s.pending) :
    TimerInv (fun x => x = k ∨ flux x) started s where
  nodup := h.nodup
  allowed x hx :=
    ⟨not_or.2 ⟨fun e => hk (e ▸ hx), (h.allowed x hx).1⟩, (h.allowed x hx).2⟩
  required x hx hr := h.required x (fun hf => hx (.inr hf)) hr
  capacity := h.capacity
  log := h.log
  ifAddr := h.ifAddr
  robustness := h.robustness
  remaining := h.remaining
  bounded := h.bounded

theorem inject (h : TimerInv flux started s) (p : Injected) :
    TimerInv flux started (s.inject p) :=
  ⟨h.nodup, h.allowed, h.required, h.capacity, h.log, h.ifAddr, h.robustness, h.remaining,
    h.bounded⟩

theorem withBridgeList (h : TimerInv flux started s) (bl : List BridgeInstance) :
    TimerInv flux started { s with bridgeList := bl } :=
  ⟨h.nodup, h.allowed, h.required, h.capacity, h.log, h.ifAddr, h.robustness, h.remaining,
    h.bounded⟩

theorem withClock (h : TimerInv flux started s) (now : Nat) :
    TimerInv flux started { s with clock := now } :=
  ⟨h.nodup, h.allowed, h.required, h.capacity, h.log, h.ifAddr, h.robustness, h.remaining,
    h.bounded⟩

theorem delTimer (h : TimerInv flux started s) (k : TimerKey) :
    TimerInv (fun x => x = k ∨ flux x) started (s.delTimer k) where
  nodup := by rw [Sys.pending_delTimer]; exact h.nodup.erase k
  allowed x hx := by
    rw [Sys.pending_delTimer, h.nodup.mem_erase_iff] at hx
    exact ⟨not_or.2 ⟨hx.1, (h.allowed x hx.2).1⟩, (h.allowed x hx.2).2⟩
  required x hx hr := by
    rw [Sys.pending_delTimer, h.nodup.mem_erase_iff]
    exact ⟨fun e => hx (.inl e), h.required x (fun hf => hx (.inr hf)) hr⟩
  capacity := h.capacity
  log := h.log
  ifAddr := h.ifAddr
  robustness := h.robustness
  remaining := h.remaining
  bounded := h.bounded

/-- Setting a timer of the flux that the record allows: the table has room, so the timer is
pending afterwards and nothing is logged. -/
theorem addTimer (h : TimerInv flux started s) (m : Nat) {k : TimerKey} (hk : flux k)
    (ha : k.Allowed s) : TimerInv (fun x => x ≠ k ∧ flux x) started (s.addTimer m k) := by
  have hnd : (k :: s.pending).Nodup := List.nodup_cons.2 ⟨h.not_mem hk, h.nodup⟩
  have hroom : s.pending.length < s.evm.timerListAllocated := by
    rw [h.capacity]
    exact length_le_of_allowed hnd (List.forall_mem_cons.2 ⟨ha, fun x hx => (h.allowed x hx).2⟩)
  obtain ⟨hperm, hlog⟩ := s.addTimer_of_lt m k hroom
  have hA : ∀ x : TimerKey, x.Allowed (s.addTimer m k) ↔ x.Allowed s := fun x => by
    simp only [TimerKey.Allowed, Sys.interfaceList_addTimer, Sys.iface_addTimer]
  have hR : ∀ x : TimerKey, x.Required (s.addTimer m k) ↔ x.Required s := fun x => by
    simp only [TimerKey.Required, Sys.interfaceList_addTimer, Sys.iface_addTimer]
  refine ⟨hperm.nodup_iff.2 hnd, fun x hx => ?_, fun x hx hr => ?_, by simpa using h.capacity,
    hlog.trans h.log, by simpa using h.ifAddr, by simpa using h.robustness,
    by simpa using h.remaining, by simpa using h.bounded⟩
  · rcases List.mem_cons.1 (hperm.subset hx) with rfl | hx
    · exact ⟨fun hf => hf.1 rfl, (hA _).2 ha⟩
    · exact ⟨fun hf => (h.allowed x hx).1 hf.2, (hA x).2 (h.allowed x hx).2⟩
  · refine hperm.symm.subset ?_
    by_cases e : x = k
    · exact e ▸ List.mem_cons_self _ _
    · exact List.mem_cons_of_mem _ (h.required x (fun hf => hx ⟨e, hf⟩) ((hR x).1 hr))

/-- Cancelling a timer and setting it again, as the handlers re-arm one. -/
theorem reset (h : TimerInv (fun _ => False) started s) (k : TimerKey) (m : Nat)
    (ha : k.Allowed s) : TimerInv (fun _ => False) started ((s.delTimer k).addTimer m k) :=
  ((h.delTimer k).addTimer m (.inl rfl) ha).settle fun _ hx => hx.2.elim hx.1 id

/-- Popping the first timer leaves it in flux. -/
theorem pop (h : TimerInv (fun _ => False) started s) {t : TimerEvent TimerKey}
    {rest : List (TimerEvent TimerKey)} (ht : s.evm.timerList = t :: rest) (now : Nat) :
    TimerInv (· = t.key) started { s with clock := now, evm := { s.evm with timerList := rest } } := by
  have hp : s.pending = t.key :: keys rest := by simp only [Sys.pending, ht, keys_cons]
  obtain ⟨hnot, hnd⟩ := List.nodup_cons.1 (hp ▸ h.nodup)
  refine ⟨hnd, fun x hx => ⟨fun e => hnot (e ▸ hx), (h.allowed x (hp ▸ .tail _ hx)).2⟩,
    fun x hx hr => ?_, h.capacity, h.log, h.ifAddr, h.robustness, h.remaining, h.bounded⟩
  rcases List.mem_cons.1 (hp ▸ h.required x id hr) with e | hm
  · exact absurd e hx
  · exact hm

/-- Fewer interfaces held to robustness 2. -/
theorem restart (h : TimerInv flux started s) {started' : Nat → Prop}
    (hs : ∀ i < s.interfaceList.length, started' i → started i) : TimerInv flux started' s :=
  ⟨h.nodup, h.allowed, h.required, h.capacity, h.log, h.ifAddr,
    fun i hi hs' => h.robustness i hi (hs i hi hs'), h.remaining, h.bounded⟩

/-- An update of interface `i` that keeps its address and its table's size: the pending timers
of `i` stay allowed, what the new record requires beyond the old is in `F`, and no timer of `F`
is pending.  The update may start interface `i`. -/
theorem modifyIface (h : TimerInv flux started s) {started' : Nat → Prop} (i : Nat)
    (f : Interface → Interface) (F : TimerKey → Prop)
    (hst : ∀ j, started' j → started j ∨ j = i)
    (ha : (f (s.iface i)).ifAddr = (s.iface i).ifAddr)
    (hn : (f (s.iface i)).groupListAllocated = (s.iface i).groupListAllocated)
    (hA : ∀ k ∈ s.pending, k.iface = i → k.AllowedBy (s.iface i) → k.AllowedBy (f (s.iface i)))
    (hR : ∀ k, k.iface = i → k.RequiredBy (f (s.iface i)) → k.RequiredBy (s.iface i) ∨ F k)
    (hF : ∀ k, F k → k ∉ s.pending)
    (hrob : i < s.interfaceList.length → started' i →
      (f (s.iface i)).querierAddr = (f (s.iface i)).ifAddr → (f (s.iface i)).querierRobustness = 2)
    (hrem : ∀ g, ((f (s.iface i)).group g).groupQueriesRemaining ≤ 2)
    (hb : (f (s.iface i)).Bounded) :
    TimerInv (fun k => F k ∨ flux k) started' (s.modifyIface i f) where
  nodup := h.nodup
  allowed k hk := by
    obtain ⟨hf, hlen, hby⟩ := h.allowed k hk
    exact ⟨not_or.2 ⟨fun hF' => hF k hF' hk, hf⟩, by simpa using hlen,
      s.iface_modifyIface_cases (fun j ifc => j = k.iface → k.AllowedBy ifc) i f
        (fun _ e => hA k hk e.symm (e ▸ hby)) (fun _ _ e => e ▸ hby) _ rfl⟩
  required k hk hr := by
    have hk' : ¬flux k := fun hf => hk (.inr hf)
    have hlen : k.iface < s.interfaceList.length := by simpa using hr.1
    exact s.iface_modifyIface_cases
      (fun j ifc => j = k.iface → k.RequiredBy ifc → k ∈ s.pending) i f
      (fun _ e hby => h.required k hk' ⟨hlen, e ▸ (hR k e.symm hby).resolve_right (hk ∘ .inl)⟩)
      (fun _ _ e hby => h.required k hk' ⟨hlen, e ▸ hby⟩) _ rfl hr.2
  capacity := by
    rw [Sys.evm_modifyIface, h.capacity, Sys.length_modifyIface]
    simp only [Sys.modifyIface, totalGroups_modify f _ i hn]
  log := h.log
  ifAddr j hj := s.iface_modifyIface_cases
    (fun j ifc => j < s.interfaceList.length → ifc.ifAddr ≠ mldProto.allOnes) i f
    (fun hi _ => ha ▸ h.ifAddr i hi) (fun j _ => h.ifAddr j) j (by simpa using hj)
  robustness j hj hs := s.iface_modifyIface_cases (fun j ifc => j < s.interfaceList.length →
      started' j → ifc.querierAddr = ifc.ifAddr → ifc.querierRobustness = 2) i f
    (fun hi _ => hrob hi)
    (fun j hc hj hs => h.robustness j hj ((hst j hs).resolve_right fun e => hc ⟨e.symm, hj⟩))
    j (by simpa using hj) hs
  remaining j g := s.iface_modifyIface_cases
    (fun _ ifc => (ifc.group g).groupQueriesRemaining ≤ 2) i f (fun _ => hrem g) (fun j _ => h.remaining j g) j
  bounded := s.iface_modifyIface_cases (fun _ ifc => ifc.Bounded) i f (fun _ => hb)
    fun j _ => h.bounded j

/-- An update that changes nothing the timers depend on. -/
theorem modifySame (h : TimerInv flux started s) (i : Nat) (f : Interface → Interface)
    (hf : (f (s.iface i)).SameTimers (s.iface i)) (hb : (f (s.iface i)).Bounded) :
    TimerInv flux started (s.modifyIface i f) :=
  (h.modifyIface i f (fun _ => False) (fun _ => .inl) hf.ifAddr hf.groupListAllocated
    (fun k _ _ hk => (hf.allowedBy k).2 hk)
    (fun k _ hk => .inl ((TimerKey.requiredBy_iff (hf.allowedBy k)).1 hk)) (fun _ => False.elim)
    (fun hi hs hq => by
      rw [hf.querierRobustness]
      exact h.robustness i hi hs (by rwa [hf.querierAddr, hf.ifAddr] at hq))
    (fun g => by rw [hf.remaining]; exact h.remaining i g) hb).mono (fun _ => .inr)
    fun _ hk hk' => (hk.resolve_right hk').elim

/-- An update of interface `i`'s querier state after which another router, or none, is the
querier: the general query must not be pending, and is no longer required.  The update may
start interface `i`. -/
theorem modifyNotQuerier (h : TimerInv flux started s) {started' : Nat → Prop} (i : Nat)
    (f : Interface → Interface) (hst : ∀ j, started' j → started j ∨ j = i)
    (hv : (f (s.iface i)).tableView = (s.iface i).tableView)
    (hq : (f (s.iface i)).querierAddr ≠ (s.iface i).ifAddr)
    (hgq : .sendGeneralQuery i ∉ s.pending) :
    TimerInv (fun k => k ≠ .sendGeneralQuery i ∧ flux k) started' (s.modifyIface i f) := by
  have ha : (f (s.iface i)).ifAddr = (s.iface i).ifAddr := congrArg Prod.fst hv
  have hgl : (f (s.iface i)).groupList = (s.iface i).groupList := congrArg (·.2.1) hv
  have hg : ∀ g, (f (s.iface i)).group g = (s.iface i).group g := fun g => by
    simp only [Interface.group, hgl]
  have hq' : (f (s.iface i)).querierAddr ≠ (f (s.iface i)).ifAddr := ha ▸ hq
  refine (h.modifyIface i f (fun _ => False) hst ha (congrArg List.length hgl) ?_ ?_
    (fun _ => False.elim) (fun _ _ hq'' => absurd hq'' hq')
    (fun g => by rw [hg]; exact h.remaining i g) ((h.bounded i).of_tableView hv)).mono
    (fun k hk => .inr hk.2) ?_
  · intro k hk hki hold
    cases k with
    | sendGeneralQuery j => cases hki; exact absurd hk hgq
    | querierTimeout j => exact hq'
    | sendGroupSpecificQuery j g => show 0 < _; rw [hg]; exact hold
    | groupTimeout j g => show _ = true; rw [hg]; exact hold
    | _ => exact hold
  · intro k _ hk
    cases k with
    | sendGeneralQuery j => exact absurd hk hq'
    | sendGroupSpecificQuery j g => exact .inl (show 0 < _ by rw [← hg]; exact hk)
    | groupTimeout j g => exact .inl (show _ = true by rw [← hg]; exact hk)
    | _ => exact .inl hk
  · rintro k hk hk' ⟨hi, hr⟩
    obtain rfl : k = .sendGeneralQuery i := by_contra fun e => hk' ⟨e, hk.resolve_left id⟩
    rw [TimerKey.iface, Sys.iface_modifyIface_self _ _ _ (by simpa using hi)] at hr
    exact hq' hr

/-- An update of one slot condition of interface `i`, that of `k₀`: the record keeps its
querier state, its table's size and every other slot condition; `k₀` must not be pending, and is
due exactly when `p` holds. -/
theorem modifySlot (h : TimerInv flux started s) (i : Nat) (f : Interface → Interface)
    (k₀ : TimerKey) (hk₀ : k₀.iface = i) (p : Prop)
    (hv : (f (s.iface i)).querierView = (s.iface i).querierView)
    (hn : (f (s.iface i)).groupListAllocated = (s.iface i).groupListAllocated)
    (hslot : ∀ j, (.groupTimeout i j ≠ k₀ →
        ((f (s.iface i)).group j).active = ((s.iface i).group j).active) ∧
      (.sendGroupSpecificQuery i j ≠ k₀ → ((f (s.iface i)).group j).groupQueriesRemaining =
        ((s.iface i).group j).groupQueriesRemaining))
    (hp : k₀.AllowedBy (f (s.iface i)) ↔ p)
    (hrem : ∀ g, ((f (s.iface i)).group g).groupQueriesRemaining ≤ 2)
    (hb : (f (s.iface i)).Bounded) (hk : k₀ ∉ s.pending) :
    TimerInv (fun k => (k = k₀ ∧ p) ∨ (k ≠ k₀ ∧ flux k)) started (s.modifyIface i f) := by
  have ha := Interface.ifAddr_eq_of_querierView hv
  have hq := Interface.querierAddr_eq_of_querierView hv
  have hsame : ∀ k : TimerKey, k.iface = i → k ≠ k₀ →
      (k.AllowedBy (f (s.iface i)) ↔ k.AllowedBy (s.iface i)) := by
    intro k hki hne
    cases k with
    | sendGeneralQuery j => show _ = _ ↔ _ = _; rw [ha, hq]
    | querierTimeout j => show _ ≠ _ ↔ _ ≠ _; rw [ha, hq]
    | sendGroupSpecificQuery j g => cases hki; show 0 < _ ↔ 0 < _; rw [(hslot g).2 hne]
    | groupTimeout j g => cases hki; show _ = true ↔ _ = true; rw [(hslot g).1 hne]
    | _ => exact Iff.rfl
  refine (h.modifyIface i f (fun k => k = k₀ ∧ p) (fun _ => .inl) ha hn
    (fun k hk' hki hold => (hsame k hki fun e => hk (e ▸ hk')).2 hold) (fun k hki hk' => ?_)
    (fun k hF => hF.1 ▸ hk) (fun hi hs hqa => ?_) hrem hb).mono
    (fun k hk' => hk'.elim .inl fun hk' => .inr hk'.2) (fun k hk' hk'' hr => ?_)
  · by_cases e : k = k₀
    · exact .inr ⟨e, hp.1 (e ▸ TimerKey.allowedBy_of_requiredBy hk')⟩
    · exact .inl ((TimerKey.requiredBy_iff (hsame k hki e)).1 hk')
  · have hr := congrArg Interface.querierRobustness hv
    rw [show (f (s.iface i)).querierRobustness = (s.iface i).querierRobustness from hr]
    exact h.robustness i hi hs (by rwa [hq, ha] at hqa)
  · refine hk'.elim (fun hF => hk'' (.inl hF)) fun hf => ?_
    obtain rfl : k = k₀ := by_contra fun e => hk'' (.inr ⟨e, hf⟩)
    obtain ⟨hi, hby⟩ := hr
    rw [hk₀, Sys.length_modifyIface] at hi
    rw [hk₀, Sys.iface_modifyIface_self _ _ _ hi] at hby
    exact hk'' (.inl ⟨rfl, hp.1 (TimerKey.allowedBy_of_requiredBy hby)⟩)

/-- Setting the queries left in slot `g` of interface `i` to `r`: the slot's group-specific query
must not be pending, and is due exactly when `r` is not zero. -/
theorem setRemaining (h : TimerInv flux started s) (i g r : Nat) (hr : r ≤ 2)
    (hg : g < (s.iface i).groupListAllocated) (hk : .sendGroupSpecificQuery i g ∉ s.pending) :
    TimerInv (fun k => (k = .sendGroupSpecificQuery i g ∧ 0 < r) ∨
        (k ≠ .sendGroupSpecificQuery i g ∧ flux k)) started
      (s.modifyGroup i g fun grp => { grp with groupQueriesRemaining := r }) :=
  h.modifySlot i _ (.sendGroupSpecificQuery i g) rfl (0 < r) rfl (Interface.groupListAllocated_modifyGroup _ _ _)
    (fun j => ⟨fun _ => Interface.modifyGroup_keeps (·.active) _ _ j fun _ => rfl,
      fun hne => by rw [Interface.group_modifyGroup_ne _ _ fun e => hne (by rw [e])]⟩)
    (by show 0 < _ ↔ _; rw [Interface.group_modifyGroup _ _ _ _ hg, if_pos rfl])
    (fun j => by
      rw [Interface.group_modifyGroup_eq]
      split
      · exact hr
      · exact h.remaining i j)
    ((h.bounded i).modifyGroup g _) hk

/-! ### Senders and timer callbacks -/

theorem sendMrdAdvertisement (h : TimerInv flux started s) {i : Nat}
    (hk : flux (.sendMrdAdvertisement i)) (hi : i < s.interfaceList.length) (rand : Nat) :
    TimerInv (fun x => x ≠ .sendMrdAdvertisement i ∧ flux x) started
      (McastBridge.sendMrdAdvertisement s i rand) := by
  have h₁ := h.inject (.mrdAdvertisement i)
  dsimp only [McastBridge.sendMrdAdvertisement]
  split
  · exact (h₁.modifySame i _ ⟨rfl, rfl, rfl, rfl, fun _ => rfl, fun _ => rfl⟩ (h.bounded i)).addTimer
      _ hk ⟨by simpa using hi, trivial⟩
  · exact h₁.addTimer _ hk ⟨hi, trivial⟩

theorem handleMrdSolicitation (h : TimerInv (fun _ => False) started s) {i : Nat}
    (hi : i < s.interfaceList.length) (rand : Nat) :
    TimerInv (fun _ => False) started (McastBridge.handleMrdSolicitation s i rand) :=
  ((h.delTimer _).sendMrdAdvertisement (.inl rfl) hi rand).settle fun _ hx => hx.2.elim hx.1 id

/-- A general query from the querier, which has its general query in flux. -/
theorem sendGeneralQuery (h : TimerInv flux started s) {i : Nat}
    (hk : flux (.sendGeneralQuery i)) (ha : (TimerKey.sendGeneralQuery i).Allowed s) :
    TimerInv (fun x => x ≠ .sendGeneralQuery i ∧ flux x) started
      (McastBridge.sendGeneralQuery s i) := by
  have h₁ := h.inject (.generalQuery i)
  dsimp only [McastBridge.sendGeneralQuery]
  split
  · refine (h₁.modifySame i _ ⟨rfl, rfl, rfl, rfl, fun _ => rfl, fun _ => rfl⟩
      (h.bounded i)).addTimer _ hk ⟨by simpa using ha.1, ?_⟩
    show (Sys.iface _ i).querierAddr = (Sys.iface _ i).ifAddr
    rw [Sys.iface_modifyIface_self (s.inject _) _ _ (show i < s.interfaceList.length from ha.1)]
    exact ha.2
  · exact h₁.addTimer _ hk ha

/-- The interface becomes the querier, with robustness 2, and sets its general query; neither
its general query nor its other-querier timer may be pending.  This may start it. -/
theorem activateQuerierMode (h : TimerInv flux started s) {started' : Nat → Prop} {i : Nat}
    (hst : ∀ j, started' j → started j ∨ j = i) (hi : i < s.interfaceList.length)
    (hgq : .sendGeneralQuery i ∉ s.pending) (hqt : .querierTimeout i ∉ s.pending) :
    TimerInv (fun x => x ≠ .sendGeneralQuery i ∧ (x = .sendGeneralQuery i ∨ flux x)) started'
      (McastBridge.activateQuerierMode mldProto s i) := by
  dsimp only [McastBridge.activateQuerierMode]
  refine (h.modifyIface i _ (· = .sendGeneralQuery i) hst rfl rfl ?_ ?_
    (fun k e => by subst e; exact hgq) (fun _ _ _ => rfl) ?_ ?_).sendGeneralQuery (.inl rfl)
    ⟨by simpa using hi, ?_⟩
  · intro k hk hki hold
    cases k with
    | sendGeneralQuery j => rfl
    | querierTimeout j => cases hki; exact absurd hk hqt
    | _ => exact hold
  · intro k hki hk
    cases k with
    | sendGeneralQuery j => cases hki; exact .inr rfl
    | _ => exact .inl hk
  · exact h.remaining i
  · exact h.bounded i
  · show (Sys.iface _ i).querierAddr = (Sys.iface _ i).ifAddr
    rw [Sys.iface_modifyIface_self _ _ _ hi]

/-- The other-querier timer expires on an interface that is not the querier: it becomes the
querier, or in mode never reopens the election. -/
theorem querierTimeout {i : Nat} (h : TimerInv (· = .querierTimeout i) started s)
    (ha : (TimerKey.querierTimeout i).Allowed s) :
    TimerInv (fun _ => False) started (McastBridge.querierTimeout mldProto s i) := by
  have hgq : .sendGeneralQuery i ∉ s.pending := h.not_mem_of_not_allowed fun hq => ha.2 hq
  unfold McastBridge.querierTimeout
  split
  · refine (h.activateQuerierMode (fun _ => .inl) ha.1 hgq (h.not_mem rfl)).mono
      (fun _ => False.elim) fun x hx _ => ?_
    rcases hx.2 with e | rfl
    · exact absurd e hx.1
    · exact TimerKey.not_required_querierTimeout _ _
  · refine (h.modifyNotQuerier i _ (fun _ => .inl) rfl (fun e => h.ifAddr i ha.1 e.symm) hgq).mono
      (fun _ => False.elim) fun x hx _ => ?_
    rw [hx.2]
    exact TimerKey.not_required_querierTimeout _ _

/-- A group-specific query of a burst with queries left: the count goes down by one, and the
next query is set while queries remain. -/
theorem sendGroupSpecificQuery (h : TimerInv flux started s) {i g : Nat}
    (hk : .sendGroupSpecificQuery i g ∉ s.pending)
    (hr : 0 < (s.group i g).groupQueriesRemaining) :
    TimerInv (fun x => x ≠ .sendGroupSpecificQuery i g ∧ flux x) started
      (McastBridge.sendGroupSpecificQuery mldProto s i g) := by
  have hg := Interface.lt_allocated_of_remaining hr
  have hi := Sys.lt_length_of_lt_allocated hg
  have hdec : u32 ((s.group i g).groupQueriesRemaining + (2 ^ 32 - 1)) =
      (s.group i g).groupQueriesRemaining - 1 := by
    have := h.remaining i g
    unfold u32
    omega
  have h₁ := (h.inject (.groupSpecificQuery i (s.group i g).mcastAddr
    ((s.group i g).groupQueriesRemaining != (s.iface i).querierRobustness))).setRemaining i g
    ((s.group i g).groupQueriesRemaining - 1) (by have := h.remaining i g; omega) hg hk
  dsimp only [McastBridge.sendGroupSpecificQuery]
  rw [hdec]
  split
  · rename_i hne
    have hpos : 0 < (s.group i g).groupQueriesRemaining - 1 := Nat.pos_of_ne_zero hne
    refine (h₁.addTimer _ (.inl ⟨rfl, hpos⟩) ⟨by simpa using hi, ?_⟩).mono
      (fun x hx => ⟨hx.1, .inr hx⟩) fun x hx hx' => (hx' (hx.2.resolve_left fun e => hx.1 e.1)).elim
    show 0 < (Sys.group _ i g).groupQueriesRemaining
    rw [Sys.group_modifyGroup_self (s.inject _) _ _ _ hi hg]
    exact hpos
  · rename_i hz
    exact h₁.mono (fun x hx => .inr hx) fun x hx hx' =>
      (hx.elim (fun e => absurd e.2 (by omega)) hx').elim

/-- An accepted leave on the querier, for an active group with no burst under way: the
membership timer is re-armed, and a burst of two group-specific queries begins. -/
theorem leaveAccept (h : TimerInv (fun _ => False) started s) {i g : Nat} (hs : started i)
    (hq : (s.iface i).querierAddr = (s.iface i).ifAddr) (hact : (s.group i g).active = true)
    (hr : (s.group i g).groupQueriesRemaining = 0) :
    TimerInv (fun _ => False) started (McastBridge.leaveAccept mldProto s i g) := by
  have hg := Interface.lt_allocated_of_active hact
  have hi := Sys.lt_length_of_lt_allocated hg
  dsimp only [McastBridge.leaveAccept]
  generalize hs₁ : (s.delTimer (.groupTimeout i g)).addTimer (mldProto.leaveMillis (s.iface i))
    (.groupTimeout i g) = s₁
  have h₁ : TimerInv (fun _ => False) started s₁ := hs₁ ▸ h.reset _ _ ⟨hi, hact⟩
  have hifc : s₁.iface i = s.iface i := by rw [← hs₁]; simp
  have hi₁ : i < s₁.interfaceList.length := by rw [← hs₁]; simpa using hi
  have hg₁ : g < (s₁.iface i).groupListAllocated := by rwa [hifc]
  rw [hifc, h.robustness i hi hs hq]
  have h₂ := h₁.setRemaining i g 2 le_rfl hg₁ (h₁.not_mem_of_not_allowed (by
    show ¬0 < ((Sys.iface _ i).group g).groupQueriesRemaining
    rw [hifc, ← Sys.group_eq, hr]
    exact Nat.lt_irrefl 0))
  refine (h₂.sendGroupSpecificQuery (h₂.not_mem (.inl ⟨rfl, by decide⟩)) ?_).settle
    fun _ hx => hx.2.elim (fun e => hx.1 e.1) fun e => e.2
  rw [Sys.group_modifyGroup_self _ _ _ _ hi₁ hg₁]
  exact Nat.two_pos

/-- A membership timer expires: the slot becomes inactive. -/
theorem groupTimeout {i g : Nat} (h : TimerInv (· = .groupTimeout i g) started s) :
    TimerInv (fun _ => False) started (McastBridge.groupTimeout s i g) := by
  have hslot := groupTimeoutAt_slot s.bridgeList (s.iface i) g
  dsimp only [McastBridge.groupTimeout]
  refine ((h.withBridgeList (groupTimeoutAt s.bridgeList (s.iface i) g).1).modifySlot i
    (fun _ => (groupTimeoutAt s.bridgeList (s.iface i) g).2)
    (.groupTimeout i g) rfl False
    (querierView_groupTimeoutAt _ _ _) (groupListAllocated_groupTimeoutAt _ _ _)
    (fun j => ⟨fun hne => (hslot j).1.trans (if_neg fun e => hne (by rw [e])), fun _ => (hslot j).2⟩)
    ?_ (fun j => by rw [(hslot j).2]; exact h.remaining i j) ((h.bounded i).groupTimeoutAt _ g)
    (h.not_mem rfl)).settle fun _ hx => hx.elim (·.2) fun hx => hx.1 hx.2
  show _ = true ↔ False
  rw [(hslot g).1, if_pos rfl]
  exact ⟨Bool.false_ne_true, False.elim⟩

/-! ### Queries -/

/-- The election of a query from `src`, not the interface's own address: it leaves an
interface that is not the querier. -/
theorem electQuerier (h : TimerInv (fun _ => False) started s) {i src : Nat} (q : Query)
    (hi : i < s.interfaceList.length) (hsrc : src ≠ (s.iface i).ifAddr) {s' : Sys}
    (he : McastBridge.electQuerier mldProto s i src q = some s') :
    TimerInv (fun _ => False) started s' ∧ s'.interfaceList.length = s.interfaceList.length ∧
      (s'.iface i).querierAddr ≠ (s'.iface i).ifAddr := by
  dsimp only [McastBridge.electQuerier] at he
  split at he
  · split at he
    · split at he
      · cases he
        refine ⟨((h.delTimer _).modifyNotQuerier i _ (fun _ => .inl) (by split <;> rfl)
          (by split <;> exact hsrc) ((h.delTimer _).not_mem (.inl rfl))).settle
          fun _ hx => hx.2.elim hx.1 id, by simp, ?_⟩
        rw [Sys.iface_modifyIface_self (s.delTimer _) _ _ hi]
        split <;> exact hsrc
      · cases he
    · rename_i hq
      split at he
      · cases he
        refine ⟨(h.modifyNotQuerier i _ (fun _ => .inl) (by split <;> rfl)
          (by split <;> exact hsrc) (h.not_mem_of_not_allowed hq)).settle
          fun _ hx => hx.2, by simp, ?_⟩
        rw [Sys.iface_modifyIface_self _ _ _ hi]
        split <;> exact hsrc
      · cases he; exact ⟨h, rfl, hq⟩
  · rename_i hsame
    cases he
    exact ⟨h, rfl, fun e => hsrc ((not_not.1 hsame).trans e)⟩

/-- The rest of the query's handling up to its group: the other-querier timer is re-armed. -/
theorem recordQuerier (h : TimerInv (fun _ => False) started s) {i : Nat} (q : Query)
    (hi : i < s.interfaceList.length) (hq : (s.iface i).querierAddr ≠ (s.iface i).ifAddr) :
    TimerInv (fun _ => False) started (McastBridge.recordQuerier mldProto s i q) := by
  dsimp only [McastBridge.recordQuerier]
  split
  · refine ((h.modifyNotQuerier i _ (fun _ => .inl) rfl hq
      (h.not_mem_of_not_allowed hq)).settle fun _ hx => hx.2).reset _ _ ⟨by simpa using hi, ?_⟩
    show (Sys.iface _ i).querierAddr ≠ (Sys.iface _ i).ifAddr
    rw [Sys.iface_modifyIface_self _ _ _ hi]
    exact hq
  · exact h.reset _ _ ⟨hi, hq⟩

/-- The found slot's record replaces interface `i`'s. -/
theorem setFound (h : TimerInv flux started s) {i a g : Nat} {ifc : Interface}
    (hfind : interfaceFindGroup mldProto.isLinkScope (s.iface i) a = some (ifc, g)) :
    TimerInv flux started (s.setIface i ifc) :=
  h.modifySame i _ (Interface.SameTimers.of_interfaceFindGroup hfind)
    ((h.bounded i).interfaceFindGroup hfind).1

/-- A found slot is a slot of the interface's table. -/
theorem lt_allocated_setFound (h : TimerInv flux started s) {i a g : Nat} {ifc : Interface}
    (hfind : interfaceFindGroup mldProto.isLinkScope (s.iface i) a = some (ifc, g)) :
    g < ((s.setIface i ifc).iface i).groupListAllocated := by
  have hg := ((h.bounded i).interfaceFindGroup hfind).2
  have hi := Sys.lt_length_of_lt_allocated
    ((Interface.SameTimers.of_interfaceFindGroup hfind).groupListAllocated ▸ hg)
  rwa [Sys.iface_setIface_self _ _ _ hi]

theorem queryGroup (h : TimerInv (fun _ => False) started s) (i a : Nat) :
    TimerInv (fun _ => False) started (McastBridge.queryGroup mldProto s i a) := by
  unfold McastBridge.queryGroup
  split
  · exact h
  · rename_i ifc g hfind
    have h₁ := h.setFound hfind
    dsimp only
    split
    · exact h₁
    · rename_i hact
      have hact' : ((s.setIface i ifc).group i g).active = true := by simpa using hact
      exact h₁.reset _ _
        ⟨Sys.lt_length_of_lt_allocated (Interface.lt_allocated_of_active hact'), hact'⟩

theorem handleQuery (h : TimerInv (fun _ => False) started s) {i src : Nat} (q : Query)
    (hi : i < s.interfaceList.length) (hsrc : src ≠ (s.iface i).ifAddr) :
    TimerInv (fun _ => False) started (McastBridge.handleQuery mldProto s i src q) := by
  unfold McastBridge.handleQuery
  split
  · exact h
  · rename_i s' he
    obtain ⟨h₁, hlen, hq⟩ := h.electQuerier q hi hsrc he
    have h₂ := h₁.recordQuerier q (hlen ▸ hi) hq
    dsimp only
    split
    · exact h₂
    · split
      · exact h₂
      · exact h₂.queryGroup i _

/-! ### Membership -/

/-- A join of a slot of the table: its membership timer is re-armed, and an inactive slot
becomes active. -/
theorem joinCommon (h : TimerInv (fun _ => False) started s) {i g : Nat}
    (hg : g < (s.iface i).groupListAllocated) :
    TimerInv (fun _ => False) started (McastBridge.joinCommon mldProto s i g) := by
  have hi := Sys.lt_length_of_lt_allocated hg
  dsimp only [McastBridge.joinCommon]
  have h₁ : TimerInv (fun x => x = .groupTimeout i g ∨ False) started
      (if (s.group i g).active then s.delTimer (.groupTimeout i g) else s) := by
    split
    · exact h.delTimer _
    · exact h.absent (h.not_mem_of_not_allowed ‹_›)
  have hifc : (if (s.group i g).active then s.delTimer (.groupTimeout i g) else s).iface i =
      s.iface i := by split <;> rfl
  have hlen : (if (s.group i g).active then s.delTimer (.groupTimeout i g) else s
      ).interfaceList.length = s.interfaceList.length := by split <;> rfl
  generalize (if (s.group i g).active then s.delTimer (.groupTimeout i g) else s) = s₁ at h₁ hifc hlen ⊢
  have hslot := joinActivateAt_slot s₁.bridgeList (s₁.iface i) (hifc ▸ hg)
  refine (((h₁.withBridgeList (joinActivateAt s₁.bridgeList (s₁.iface i) g).1).modifySlot i
    (fun _ => (joinActivateAt s₁.bridgeList (s₁.iface i) g).2)
    (.groupTimeout i g) rfl True (querierView_joinActivateAt _ _ _)
    (groupListAllocated_joinActivateAt _ _ _)
    (fun j => ⟨fun hne => (hslot j).1.trans (if_neg fun e => hne (by rw [e])), fun _ => (hslot j).2⟩)
    ⟨fun _ => trivial, fun _ => by show _ = true; rw [(hslot g).1, if_pos rfl]⟩
    (fun j => by rw [(hslot j).2]; exact h₁.remaining i j) ((h₁.bounded i).joinActivateAt _ g)
    (h₁.not_mem (.inl rfl))).addTimer _ (.inl ⟨rfl, trivial⟩) ⟨by simpa [hlen] using hi, ?_⟩).settle
    fun _ hx => hx.2.elim (fun e => hx.1 e.1) fun e => e.2.elim hx.1 id
  show ((Sys.iface _ i).group g).active = true
  rw [Sys.iface_modifyIface_self _ _ _ (by simpa [hlen] using hi), (hslot g).1, if_pos rfl]

/-- A leave, accepted only by the querier for an active group with no burst under way. -/
theorem mldLeaveCommon (h : TimerInv (fun _ => False) started s) {i : Nat} (hs : started i)
    (g : Nat) : TimerInv (fun _ => False) started (McastBridge.mldLeaveCommon s i g) := by
  unfold McastBridge.mldLeaveCommon
  split_ifs with hq hact hr
  · exact h
  · exact h
  · exact h
  · exact h.leaveAccept hs (not_not.1 hq) (by simpa using hact) (not_not.1 hr)

theorem handleMldV1Report (h : TimerInv (fun _ => False) started s) (i a : Nat) :
    TimerInv (fun _ => False) started (McastBridge.handleMldV1Report s i a) := by
  unfold McastBridge.handleMldV1Report
  split
  · exact h
  · rename_i ifc g hfind
    exact (h.setFound hfind).joinCommon (h.lt_allocated_setFound hfind)

theorem handleMldV1Leave (h : TimerInv (fun _ => False) started s) {i : Nat} (hs : started i)
    (a : Nat) : TimerInv (fun _ => False) started (McastBridge.handleMldV1Leave s i a) := by
  unfold McastBridge.handleMldV1Leave
  split
  · exact h
  · rename_i ifc g hfind
    exact (h.setFound hfind).mldLeaveCommon hs g

/-- The group-record loop of a v2 report keeps the invariant. -/
theorem groupRecords {i : Nat} (hs : started i) :
    ∀ (n : Nat) (buf : List UInt8) (s : Sys), TimerInv (fun _ => False) started s →
      TimerInv (fun _ => False) started
        (McastBridge.groupRecords mldProto McastBridge.mldLeaveCommon s i n buf)
  | 0, _, _, h => h
  | n + 1, buf, s, h => by
      unfold McastBridge.groupRecords
      split
      · exact h
      · dsimp only
        split
        · exact h
        · split
          · exact groupRecords hs n _ _ h
          · rename_i ifc g hfind
            have h₁ := h.setFound hfind
            have hjoin := fun b =>
              groupRecords hs n b _ (h₁.joinCommon (h.lt_allocated_setFound hfind))
            have hleave := fun b => groupRecords hs n b _ (h₁.mldLeaveCommon hs g)
            split <;> (try split) <;> first | exact h₁ | exact hjoin _ | exact hleave _

/-! ### Events -/

theorem mldReceive (h : TimerInv (fun _ => False) started s) {i : Nat} (hs : started i)
    (hi : i < s.interfaceList.length) (src : Nat) (buf : List UInt8) (rand : Nat) :
    TimerInv (fun _ => False) started (McastBridge.mldReceive s i src buf rand) := by
  unfold McastBridge.mldReceive
  split
  · exact h
  · rename_i hsrc
    split
    · exact h
    · split
      · exact h.handleQuery _ hi hsrc
      · exact h.handleMldV1Report i _
      · exact h.handleMldV1Leave hs _
      · split
        · exact h
        · exact groupRecords hs _ _ _ h
      · exact h.handleMrdSolicitation hi rand
      · exact h

/-- The callback of a popped timer, which the record allowed. -/
theorem mldRunTimer {k : TimerKey} (h : TimerInv (· = k) started s) (hk : k.Allowed s)
    (rand : Nat) : TimerInv (fun _ => False) started (McastBridge.mldRunTimer s k rand) := by
  cases k with
  | sendMrdAdvertisement i =>
      exact (h.sendMrdAdvertisement rfl hk.1 rand).settle fun _ hx => hx.1 hx.2
  | sendGeneralQuery i => exact (h.sendGeneralQuery rfl hk).settle fun _ hx => hx.1 hx.2
  | querierTimeout i => exact h.querierTimeout hk
  | sendGroupSpecificQuery i g =>
      exact (h.sendGroupSpecificQuery (h.not_mem rfl) hk.2).settle fun _ hx => hx.1 hx.2
  | groupTimeout i g => exact h.groupTimeout
  | v1HostTimeout i g => exact hk.2.elim

/-- **Every event of the MLD subsystem keeps the invariant.** -/
theorem mldStep {s s' : Sys} (h : TimerInv (fun _ => False) (fun _ => True) s)
    (hs : Step McastBridge.mldReceive McastBridge.mldRunTimer s s') :
    TimerInv (fun _ => False) (fun _ => True) s' := by
  cases hs with
  | receive i src buf now rand _ hi => exact (h.withClock now).mldReceive trivial hi src buf rand
  | expire t rest now rand ht _ _ =>
      exact (h.pop ht now).mldRunTimer (h.allowed _ (by simp [Sys.pending, ht])).2 rand

/-! ### Start-up -/

/-- The state `initialize_mld` leaves from registered tables: nothing is pending, no interface
is started, and every interface timer is in flux. -/
theorem initializeSys {regs : List Interface} (hregs : AllRegistered regs)
    (haddr : ∀ k < regs.length, (regs.getD k default).ifAddr ≠ mldProto.allOnes)
    (mode : QuerierModeType) (n : Nat) (bl : List BridgeInstance) (now : Nat) :
    TimerInv (TimerKey.StartFlux 0) (· < 0) (McastBridge.initializeSys mode n bl regs now) := by
  have hlen : (McastBridge.initializeSys mode n bl regs now).interfaceList.length =
      regs.length := by simp [McastBridge.initializeSys]
  have hgroup : ∀ i g, ((McastBridge.initializeSys mode n bl regs now).iface i).group g =
      (regs.getD i default).group g := by
    intro i g
    rcases Nat.lt_or_ge i regs.length with hi | hi
    · rw [iface_initializeSys _ _ _ _ _ hi, (hregs i).group_initializeGroupList n g]
    · rw [Sys.iface, List.getD_eq_default _ _ (hlen ▸ hi), List.getD_eq_default _ _ hi]
  refine ⟨List.nodup_nil, fun _ hk => absurd hk (List.not_mem_nil _), fun k hk hr => ?_, rfl,
    rfl, fun i hi => ?_, fun _ _ hs => absurd hs (Nat.not_lt_zero _), fun i g => ?_, fun i => ?_⟩
  · obtain ⟨-, hby⟩ := hr
    cases k with
    | sendGroupSpecificQuery i g =>
        have hpos : 0 < (((McastBridge.initializeSys mode n bl regs now).iface i).group g
          ).groupQueriesRemaining := hby
        rw [hgroup, ((hregs i).group_quiet g).2] at hpos
        exact absurd hpos (Nat.lt_irrefl 0)
    | groupTimeout i g =>
        have hact : (((McastBridge.initializeSys mode n bl regs now).iface i).group g
          ).active = true := hby
        rw [hgroup, ((hregs i).group_quiet g).1] at hact
        exact (Bool.false_ne_true hact).elim
    | v1HostTimeout i g => exact hby.elim
    | _ => exact absurd ⟨trivial, Nat.zero_le _⟩ hk
  · rw [ifAddr_initializeSys]
    exact haddr i (hlen ▸ hi)
  · rw [Sys.group_eq, hgroup, ((hregs i).group_quiet g).2]
    exact Nat.zero_le 2
  · rcases Nat.lt_or_ge i regs.length with hi | hi
    · rw [iface_initializeSys _ _ _ _ _ hi]
      exact (hregs i).bounded_initializeGroupList n
    · rw [Sys.iface, List.getD_eq_default _ _ (hlen ▸ hi)]
      exact ⟨le_rfl, le_rfl⟩

/-- One pass of the start-up loop: interface `n` sends its first advertisement, and becomes the
querier (mode quick) or listens, with its other-querier timer set but in mode never; its
interface timers leave the flux, and it is started. -/
theorem startInterface {n : Nat} (h : TimerInv (TimerKey.StartFlux n) (· < n) s)
    (hn : n < s.interfaceList.length) (rand : Nat) :
    TimerInv (TimerKey.StartFlux (n + 1)) (· < n + 1)
      (McastBridge.startInterface mldProto s n rand) := by
  have hst : ∀ j, j < n + 1 → j < n ∨ j = n := fun j hj => by omega
  have h₁ := (h.modifySame n (fun ifc => { ifc with mrdInitialAdvertisementsRemaining := 2 })
    ⟨rfl, rfl, rfl, rfl, fun _ => rfl, fun _ => rfl⟩ (h.bounded n)).sendMrdAdvertisement
      ⟨trivial, le_rfl⟩ (by simpa using hn) rand
  have hn₁ : n < (McastBridge.sendMrdAdvertisement (s.modifyIface n fun ifc =>
      { ifc with mrdInitialAdvertisementsRemaining := 2 }) n rand).interfaceList.length := by
    rw [length_sendMrdAdvertisement, Sys.length_modifyIface]
    exact hn
  have hgq := h₁.not_mem (k := .sendGeneralQuery n) ⟨by simp, trivial, le_rfl⟩
  dsimp only [McastBridge.startInterface]
  split
  · refine (h₁.activateQuerierMode hst hn₁ hgq (h₁.not_mem ⟨by simp, trivial, le_rfl⟩)).mono
      (fun x hx => ⟨hx.ne rfl, .inr ⟨hx.ne rfl, (TimerKey.startFlux_iff n x).2 (.inl hx)⟩⟩)
      fun x hx hx' => ?_
    obtain ⟨hgq', rfl | ⟨hmrd, hx⟩⟩ := hx
    · exact absurd rfl hgq'
    · obtain rfl := hx.eq_querierTimeout hx' hmrd hgq'
      exact TimerKey.not_required_querierTimeout _ _
  · have hq : mldProto.allOnes ≠ (Sys.iface _ n).ifAddr := fun e => h₁.ifAddr n hn₁ e.symm
    split
    · refine ((h₁.modifyNotQuerier n _ hst rfl hq hgq).addTimer _ ?_ ⟨by simpa using hn₁, ?_⟩).mono
        (fun x hx => ⟨hx.ne rfl, hx.ne rfl, hx.ne rfl, (TimerKey.startFlux_iff n x).2 (.inl hx)⟩)
        fun x hx hx' => ?_
      · exact ⟨by simp, by simp, trivial, le_rfl⟩
      · show (Sys.iface _ n).querierAddr ≠ (Sys.iface _ n).ifAddr
        rw [Sys.iface_modifyIface_self _ _ _ hn₁]
        exact fun e => h₁.ifAddr n hn₁ e.symm
      · obtain ⟨hqt, hgq', hmrd, hx⟩ := hx
        exact absurd (hx.eq_querierTimeout hx' hmrd hgq') hqt
    · refine (h₁.modifyNotQuerier n _ hst rfl hq hgq).mono
        (fun x hx => ⟨hx.ne rfl, hx.ne rfl, (TimerKey.startFlux_iff n x).2 (.inl hx)⟩)
        fun x hx hx' => ?_
      obtain ⟨hgq', hmrd, hx⟩ := hx
      obtain rfl := hx.eq_querierTimeout hx' hmrd hgq'
      exact TimerKey.not_required_querierTimeout _ _

/-- **Start-up establishes the invariant**, from the state `initialize_mld` leaves. -/
theorem start (h : TimerInv (TimerKey.StartFlux 0) (· < 0) s) (rands : Nat → Nat) :
    TimerInv (fun _ => False) (fun _ => True) (McastBridge.start mldProto s rands) := by
  have hfold : ∀ n ≤ s.interfaceList.length,
      ((List.range n).foldl (fun s i => McastBridge.startInterface mldProto s i (rands i)) s
        ).interfaceList.length = s.interfaceList.length ∧
      TimerInv (TimerKey.StartFlux n) (· < n)
        ((List.range n).foldl (fun s i => McastBridge.startInterface mldProto s i (rands i)) s) := by
    intro n hn
    induction n with
    | zero => exact ⟨rfl, h⟩
    | succ n ih =>
        obtain ⟨hlen, h'⟩ := ih (by omega)
        rw [List.range_succ, List.foldl_append, List.foldl_cons, List.foldl_nil,
          length_startInterface, hlen]
        exact ⟨rfl, h'.startInterface (by omega) (rands n)⟩
  obtain ⟨hlen, h'⟩ := hfold _ le_rfl
  exact (h'.mono (fun _ => False.elim) fun k hk _ hr => absurd hr.1 (by
    rw [hlen]; exact Nat.not_lt.2 hk.2)).restart fun i hi _ => hlen ▸ hi

/-- The invariant holds in every state the MLD subsystem reaches. -/
theorem mldReachable {mode : QuerierModeType} {nonConfiguredGroups : Nat}
    {bl : List BridgeInstance}
    (hll : ∀ br ∈ bl, ∀ bi ∈ br.interfaceList, bi.ipv6AddrLl ≠ mldProto.allOnes) {s : Sys}
    (hs : MldReachable mode nonConfiguredGroups bl s) :
    TimerInv (fun _ => False) (fun _ => True) s := by
  induction hs with
  | init h =>
      obtain ⟨now, rands, rfl⟩ := h
      refine (TimerInv.initializeSys (registerAll_spec _ _ _).1 ?_ _ _ _ _).start rands
      refine registerAll_ifAddr _ _ _ (· ≠ mldProto.allOnes) fun h hh => ?_
      obtain ⟨br, hbr, hbi⟩ := ((mem_dynamicOutboundHandles _ _ h).1 hh).1.mem
      exact hll br hbr _ hbi
  | step _ hst ih => exact ih.mldStep hst

end TimerInv

/-! ### The timers of a reachable state -/

/-- What the MLD timers of a state are: none pending twice; an advertisement per interface; the
general query exactly on the querier, whose robustness is then 2; the other-querier timer only
off it; a membership timer exactly for the active slots and a group-specific query exactly for
the slots with queries left; no v1-host timer; the room `initialize_mld` reserved, not
exceeded; and nothing logged, so no timer was dropped. -/
structure MldTimers (s : Sys) : Prop where
  nodup : s.pending.Nodup
  advertisement : ∀ i < s.interfaceList.length, s.pending.count (.sendMrdAdvertisement i) = 1
  generalQuery : ∀ i < s.interfaceList.length,
    (.sendGeneralQuery i ∈ s.pending ↔ (s.iface i).querierAddr = (s.iface i).ifAddr)
  robustness : ∀ i < s.interfaceList.length,
    (s.iface i).querierAddr = (s.iface i).ifAddr → (s.iface i).querierRobustness = 2
  querierTimeout : ∀ i, .querierTimeout i ∈ s.pending →
    (s.iface i).querierAddr ≠ (s.iface i).ifAddr
  groupTimeout : ∀ i < s.interfaceList.length, ∀ g,
    (.groupTimeout i g ∈ s.pending ↔ (s.group i g).active = true)
  groupSpecificQuery : ∀ i < s.interfaceList.length, ∀ g,
    (.sendGroupSpecificQuery i g ∈ s.pending ↔ 0 < (s.group i g).groupQueriesRemaining)
  v1HostTimeout : ∀ i g, .v1HostTimeout i g ∉ s.pending
  capacity : s.evm.timerListAllocated =
    s.interfaceList.length * 2 + totalGroups s.interfaceList * 2
  withinCapacity : s.pending.length ≤ s.evm.timerListAllocated
  noneDropped : s.log = []

/-- What the invariant, with no timer in flux, shows. -/
theorem TimerInv.mldTimers {s : Sys} (h : TimerInv (fun _ => False) (fun _ => True) s) :
    MldTimers s where
  nodup := h.nodup
  advertisement _ hi := List.count_eq_one_of_mem h.nodup (h.required _ id ⟨hi, trivial⟩)
  generalQuery _ hi := ⟨fun hm => (h.allowed _ hm).2.2, fun hq => h.required _ id ⟨hi, hq⟩⟩
  robustness i hi := h.robustness i hi trivial
  querierTimeout _ hm := (h.allowed _ hm).2.2
  groupTimeout _ hi _ := ⟨fun hm => (h.allowed _ hm).2.2, fun ha => h.required _ id ⟨hi, ha⟩⟩
  groupSpecificQuery _ hi _ :=
    ⟨fun hm => (h.allowed _ hm).2.2, fun hr => h.required _ id ⟨hi, hr⟩⟩
  v1HostTimeout _ _ hm := (h.allowed _ hm).2.2
  capacity := h.capacity
  withinCapacity := h.capacity ▸ length_le_of_allowed h.nodup fun k hk => (h.allowed k hk).2
  noneDropped := h.log

/-- **The MLD timers.**  In every state the MLD subsystem reaches, in any querier mode and
whatever frames it receives and whenever its timers expire, each interface has exactly one
router advertisement pending; its general query exactly when it is the querier, and then
robustness 2; its other-querier timer only when it is not the querier; each group slot its
membership timer exactly while active and its group-specific query exactly while queries
remain; no timer twice; and no more timers than `initialize_mld` made room for, so that
`evm_add_timer` never dropped one.  The interfaces' link-local addresses are not all ones, as
for every configuration `read_config` accepts (`McastBridge.readConfig_linkLocal`). -/
theorem mld_timers (mode : QuerierModeType) (nonConfiguredGroups : Nat)
    (bl : List BridgeInstance)
    (hll : ∀ br ∈ bl, ∀ bi ∈ br.interfaceList, bi.ipv6AddrLl ≠ mldProto.allOnes)
    (s : Sys) (hs : MldReachable mode nonConfiguredGroups bl s) : MldTimers s :=
  (TimerInv.mldReachable hll hs).mldTimers

/-- The bridge configuration of the MLD run: one IPv6 bridge for the group `ff05::101`, whose
interface `eth0` (ifIndex 2, link-local `fe80::3`) is static inbound and dynamic outbound and
whose interface `eth1` (ifIndex 3, link-local `fe80::1:3`) is static inbound only. -/
def mldRunBridges : List BridgeInstance :=
  [{ family := .inet6
     dstAddr := 0xff050000000000000000000000000101
     interfaceList := [
       { inboundConfiguration := .static, outboundConfiguration := .dynamic,
         inboundActive := false, outboundActive := false, ifIndex := 2,
         ipv4Addr := 0, ipv6AddrLl := 0xfe800000000000000000000000000003 },
       { inboundConfiguration := .static, outboundConfiguration := .none,
         inboundActive := false, outboundActive := false, ifIndex := 3,
         ipv4Addr := 0, ipv6AddrLl := 0xfe800000000000000000000000010003 }] }]

/-- In mode quick, the host `fe80::5` reports `ff05::101` and then leaves it: the querier starts
a burst of group-specific queries, whose timer is pending, and the timers are as the records
call for. -/
theorem mld_timers_after_done : ∃ s, MldReachable .quick 100 mldRunBridges s ∧
    TimerKey.sendGroupSpecificQuery 0 0 ∈ s.pending ∧ MldTimers s := by
  obtain ⟨s, hs, hm⟩ : ∃ s, MldReachable .quick 100 mldRunBridges s ∧
      TimerKey.sendGroupSpecificQuery 0 0 ∈ s.pending :=
    ⟨_, Reachable.runEvents mldReceive mldRunTimer
      [.receive 0 0xfe800000000000000000000000000005
        [0x81, 0, 0, 0, 0, 0, 0, 0, 0xff, 0x05, 0, 0, 0, 0, 0, 0, 0, 0, 0, 0, 0, 0, 1, 1]
        1000000 0,
       .receive 0 0xfe800000000000000000000000000005
        [0x83, 0, 0, 0, 0, 0, 0, 0, 0xff, 0x05, 0, 0, 0, 0, 0, 0, 0, 0, 0, 0, 0, 0, 1, 1]
        2000000 0]
      (Reachable.init ⟨0, fun _ => 0, rfl⟩) (by decide), by decide⟩
  exact ⟨s, hs, hm, mld_timers .quick 100 mldRunBridges (by decide) s hs⟩

end McastBridge
