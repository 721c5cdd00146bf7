import McastBridge.Igmp
import McastBridge.Mld
/-
**The group tables: bounds, the registered prefix, and `*_interface_find_group`.**

`initialize_igmp` (`initialize_mld`) makes each interface's table the `group_list_count` groups
registration found, as a fixed prefix, followed by `non_configured_groups` empty slots for the
groups hosts report.  Afterwards only three functions change a table: `*_interface_find_group`,
which writes an address into an inactive dynamic slot or a new one; `*_join_common`, which
activates the slot found; and `*_group_timeout`, which deactivates a slot and releases the
trailing inactive ones.  This module proves that they keep the table well formed, in any
querier mode and under any run, and describes `*_interface_find_group` case by case.

Main definitions:

* `McastBridge.TableInv` — the invariant of one table against its registered record;
* `McastBridge.Joinable` — what `*_interface_find_group` guarantees of the slot it returns, so
  that activating it keeps the invariant;
* `McastBridge.interfaceFindGroupSpec` — `*_interface_find_group` as its comments describe it;
* `McastBridge.TablesInv` — every table of a subsystem keeps its invariant.

Main results:

* `McastBridge.interfaceFindGroup_eq_spec` — the code's single scan meets the description;
* `McastBridge.TableInv.interfaceFindGroup` — a found slot is joinable;
* `McastBridge.tightenGroupListCount_isLeast` — the count the tightening loop of
  `*_group_timeout` leaves, as the least count above which every slot is inactive, from one past
  the fixed prefix;
* `McastBridge.group_timeout_tightens` — **an expiring group with no subscribers releases the
  trailing inactive slots down to, but not including, the first dynamic slot**;
* `McastBridge.TablesInv.igmpStep`, `McastBridge.TablesInv.mldStep` — every event keeps the
  tables' invariant;
* `McastBridge.group_tables` — **in every reachable state of either subsystem, every table is
  well formed, and a lookup fails only when every dynamic slot is taken by another group**.
-/

set_option relaxedAutoImplicit false
set_option autoImplicit false

namespace McastBridge

/-! ### Writing an address into a slot -/

section SetAddr

variable (ifc : Interface) (g a : Nat)

theorem Interface.setAddr_group_ne {j : Nat} (hj : g ≠ j) : (ifc.setAddr g a).group j = ifc.group j := by
  rw [Interface.setAddr, Interface.group_modifyGroup_eq, if_neg fun h => hj h.1]

theorem Interface.mcastAddr_setAddr_self (hg : g < ifc.groupListAllocated) :
    ((ifc.setAddr g a).group g).mcastAddr = a := by
  rw [Interface.setAddr, Interface.group_modifyGroup_eq, if_pos ⟨rfl, hg⟩]

@[simp] theorem Interface.active_setAddr (j : Nat) :
    ((ifc.setAddr g a).group j).active = (ifc.group j).active := by
  rw [Interface.setAddr, Interface.group_modifyGroup_eq]; split <;> rfl

@[simp] theorem Interface.bridgeInterfaceList_setAddr (j : Nat) :
    ((ifc.setAddr g a).group j).bridgeInterfaceList = (ifc.group j).bridgeInterfaceList := by
  rw [Interface.setAddr, Interface.group_modifyGroup_eq]; split <;> rfl

@[simp] theorem Interface.groupListAllocated_setAddr :
    (ifc.setAddr g a).groupListAllocated = ifc.groupListAllocated := by
  simp [Interface.setAddr]

/-- An inactive slot given an address that no active slot holds: still no active slot holds it. -/
theorem Interface.setAddr_active_ne (hg : (ifc.group g).active = false)
    (hnone : ∀ j, (ifc.group j).active → (ifc.group j).mcastAddr ≠ a) (j : Nat)
    (hj : ((ifc.setAddr g a).group j).active) : ((ifc.setAddr g a).group j).mcastAddr ≠ a := by
  rw [Interface.active_setAddr] at hj
  have hne : g ≠ j := by rintro rfl; rw [hg] at hj; cases hj
  rw [Interface.setAddr_group_ne _ _ _ hne]
  exact hnone j hj

end SetAddr

/-! ### The invariant of one table -/

/-- The invariant of the table of an interface `ifc` whose registered record is `r`. -/
structure TableInv (isLinkScope : Nat → Bool) (nonConfiguredGroups : Nat) (r ifc : Interface) :
    Prop where
  fixedLimit_eq : ifc.groupListFixedLimit = r.groupListCount
  fixedLimit_le : ifc.groupListFixedLimit ≤ ifc.groupListCount
  count_le : ifc.groupListCount ≤ ifc.groupListAllocated
  allocated_eq : ifc.groupListAllocated = ifc.groupListFixedLimit + nonConfiguredGroups
  /-- The fixed prefix keeps registration's addresses and subscribers. -/
  fixed : ∀ g < ifc.groupListFixedLimit, (ifc.group g).mcastAddr = (r.group g).mcastAddr ∧
    (ifc.group g).bridgeInterfaceList = (r.group g).bridgeInterfaceList
  subscribed : ∀ g < ifc.groupListFixedLimit, (ifc.group g).bridgeInterfaceList ≠ []
  dynamic : ∀ g, ifc.groupListFixedLimit ≤ g → (ifc.group g).bridgeInterfaceList = []
  activeBelow : ∀ g, (ifc.group g).active → g < ifc.groupListCount
  activeUnique : ∀ g g', (ifc.group g).active → (ifc.group g').active →
    (ifc.group g).mcastAddr = (ifc.group g').mcastAddr → g = g'
  activeScope : ∀ g, (ifc.group g).active → isLinkScope (ifc.group g).mcastAddr = false
  /-- An active slot's address is in no earlier fixed slot: lookups find the active one. -/
  activeFirst : ∀ g, (ifc.group g).active → ∀ g' < ifc.groupListFixedLimit, g' < g →
    (ifc.group g').mcastAddr ≠ (ifc.group g).mcastAddr

namespace TableInv

variable {L : Nat → Bool} {n : Nat} {r ifc ifc' : Interface}

/-- A table with the counters and the slot subscribers of an invariant one, the addresses of its
active and fixed slots, and no slot newly active, keeps the invariant. -/
theorem of_agree (h : TableInv L n r ifc)
    (hF : ifc'.groupListFixedLimit = ifc.groupListFixedLimit)
    (hC : ifc'.groupListCount = ifc.groupListCount)
    (hA : ifc'.groupListAllocated = ifc.groupListAllocated)
    (hm : ∀ g, (ifc.group g).active ∨ g < ifc.groupListFixedLimit →
      (ifc'.group g).mcastAddr = (ifc.group g).mcastAddr)
    (hb : ∀ g, (ifc'.group g).bridgeInterfaceList = (ifc.group g).bridgeInterfaceList)
    (ha : ∀ g, (ifc'.group g).active → (ifc.group g).active) : TableInv L n r ifc' where
  fixedLimit_eq := hF ▸ h.fixedLimit_eq
  fixedLimit_le := hF ▸ hC ▸ h.fixedLimit_le
  count_le := hC ▸ hA ▸ h.count_le
  allocated_eq := hF ▸ hA ▸ h.allocated_eq
  fixed g hg := by
    rw [hF] at hg; rw [hm g (.inr hg), hb]; exact h.fixed g hg
  subscribed g hg := by rw [hb]; exact h.subscribed g (hF ▸ hg)
  dynamic g hg := by rw [hb]; exact h.dynamic g (hF ▸ hg)
  activeBelow g hg := hC ▸ h.activeBelow g (ha g hg)
  activeUnique g g' hg hg' he := by
    rw [hm g (.inl (ha g hg)), hm g' (.inl (ha g' hg'))] at he
    exact h.activeUnique g g' (ha g hg) (ha g' hg') he
  activeScope g hg := by rw [hm g (.inl (ha g hg))]; exact h.activeScope g (ha g hg)
  activeFirst g hg g' hg' hlt := by
    rw [hF] at hg'
    rw [hm g (.inl (ha g hg)), hm g' (.inr hg')]
    exact h.activeFirst g (ha g hg) g' hg' hlt

/-- A change outside the table. -/
theorem of_table_eq (h : TableInv L n r ifc) (hG : ifc'.groupList = ifc.groupList)
    (hC : ifc'.groupListCount = ifc.groupListCount)
    (hF : ifc'.groupListFixedLimit = ifc.groupListFixedLimit) : TableInv L n r ifc' :=
  h.of_agree hF hC (by simp [Interface.groupListAllocated, hG])
    (fun g _ => by simp [Interface.group, hG]) (fun g => by simp [Interface.group, hG])
    (fun g => by simp [Interface.group, hG])

/-- An update of slot `g` that keeps its address and subscribers and activates nothing. -/
theorem modifyGroup (h : TableInv L n r ifc) (g : Nat) {f : Group → Group}
    (hm : ∀ grp, (f grp).mcastAddr = grp.mcastAddr)
    (hb : ∀ grp, (f grp).bridgeInterfaceList = grp.bridgeInterfaceList)
    (ha : ∀ grp, (f grp).active → grp.active) : TableInv L n r (ifc.modifyGroup g f) := by
  refine h.of_agree rfl rfl (by simp) (fun j _ => ?_) (fun j => ?_) (fun j => ?_) <;>
    rw [Interface.group_modifyGroup_eq] <;> split
  · exact hm _
  · rfl
  · exact hb _
  · rfl
  · exact ha _
  · exact id

/-- Writing an address into an inactive dynamic slot. -/
theorem setAddr (h : TableInv L n r ifc) {g : Nat} (hg : ifc.groupListFixedLimit ≤ g)
    (hi : (ifc.group g).active = false) (a : Nat) : TableInv L n r (ifc.setAddr g a) := by
  refine h.of_agree rfl rfl (by simp) (fun j hj => ?_) (by simp) (by simp)
  have hne : g ≠ j := by
    rintro rfl
    rcases hj with hj | hj
    · rw [hi] at hj; cases hj
    · omega
  rw [Interface.setAddr_group_ne _ _ _ hne]

/-- Counting one more slot. -/
theorem extend (h : TableInv L n r ifc) (hc : ifc.groupListCount < ifc.groupListAllocated) :
    TableInv L n r { ifc with groupListCount := ifc.groupListCount + 1 } :=
  { h with
    fixedLimit_le := Nat.le_succ_of_le h.fixedLimit_le
    count_le := hc
    activeBelow := fun g hg => Nat.lt_succ_of_lt (h.activeBelow g hg) }

/-- No slot at or beyond the count is active. -/
theorem inactive_of_le (h : TableInv L n r ifc) {g : Nat} (hg : ifc.groupListCount ≤ g) :
    (ifc.group g).active = false :=
  Bool.eq_false_iff.2 fun ha => absurd (h.activeBelow g ha) (Nat.not_lt.2 hg)

end TableInv

/-! ### Releasing trailing slots -/

section Tighten

variable (gl : List Group) (fixedLimit : Nat)

/-- The count the tightening loop leaves from `c`: the least `n` from `min (fixedLimit + 1) c` up
to `c` above which every slot below `c` is inactive. -/
theorem tightenGroupListCount_isLeast : ∀ c, IsLeast {n | min (fixedLimit + 1) c ≤ n ∧ n ≤ c ∧
    ∀ j, n ≤ j → j < c → (gl.getD j default).active = false} (tightenGroupListCount gl fixedLimit c)
  | 0 => ⟨⟨Nat.zero_le _, le_rfl, fun _ _ h => absurd h (Nat.not_lt_zero _)⟩,
      fun _ hn => Nat.zero_le _⟩
  | c + 1 => by
      unfold tightenGroupListCount
      split
      · rename_i hc
        obtain ⟨⟨h₁, h₂, h₃⟩, hl⟩ := tightenGroupListCount_isLeast c
        refine ⟨⟨by omega, by omega, fun j hj hjc => ?_⟩, fun n ⟨hn₁, hn₂, hn₃⟩ => ?_⟩
        · rcases Nat.lt_or_ge j c with hj' | hj'
          · exact h₃ j hj hj'
          · rw [show j = c by omega]; exact hc.2
        · rcases Nat.lt_or_ge c n with hn | hn
          · omega
          · exact hl ⟨by omega, hn, fun j hj hjc => hn₃ j hj (by omega)⟩
      · rename_i hc
        refine ⟨⟨by omega, le_rfl, fun j hj hjc => absurd hjc (by omega)⟩,
          fun n ⟨hn₁, hn₂, hn₃⟩ => ?_⟩
        by_contra hn
        exact hc ⟨by omega, hn₃ c (by omega) (Nat.lt_succ_self c)⟩

theorem tightenGroupListCount_le (c : Nat) : tightenGroupListCount gl fixedLimit c ≤ c :=
  (tightenGroupListCount_isLeast gl fixedLimit c).1.2.1

theorem le_tightenGroupListCount (c : Nat) (h : fixedLimit ≤ c) :
    fixedLimit ≤ tightenGroupListCount gl fixedLimit c := by
  have := (tightenGroupListCount_isLeast gl fixedLimit c).1.1
  omega

/-- An active slot below the count stays below it. -/
theorem lt_tightenGroupListCount {g : Nat} (hg : (gl.getD g default).active) (c : Nat)
    (h : g < c) : g < tightenGroupListCount gl fixedLimit c :=
  Nat.lt_of_not_le fun hle => by
    rw [(tightenGroupListCount_isLeast gl fixedLimit c).1.2.2 g hle h] at hg
    cases hg

end Tighten

/-! ### What `*_group_timeout` leaves of the count -/

/-- What `*_group_timeout` leaves of the count of interface `i` when the group in slot `g` has no
subscribers. -/
theorem groupTimeout_count (s : Sys) {i g : Nat} (hi : i < s.interfaceList.length)
    (hg : (s.group i g).bridgeInterfaceList = []) :
    (groupTimeout s i g).iface i =
      let ifc := (s.iface i).modifyGroup g fun grp => { grp with active := false }
      { ifc with groupListCount :=
          tightenGroupListCount ifc.groupList ifc.groupListFixedLimit ifc.groupListCount } := by
  refine (Sys.iface_setIface_self _ i _ hi).trans ?_
  simp only [Sys.group_eq] at hg
  simp only [groupTimeoutAt, hg, ne_eq, not_true_eq_false, ite_false]

/-- **What `*_group_timeout` leaves of the count.**  When a group with no subscribers expires, the
count becomes the least `n` from `min (group_list_fixed_limit + 1) c` up to the previous count `c`
above which every slot is inactive: the loop runs while `group_index > group_list_fixed_limit`, so
the slot at `group_list_fixed_limit` is never released.  On the IGMP interface of
`igmpRunBridges`, whose fixed prefix is one slot, a learned group in slot 1 expires and leaves
the count at 2 with slot 1 inactive. -/
theorem group_timeout_tightens :
    (∀ (s : Sys) (i g : Nat), i < s.interfaceList.length → (s.group i g).bridgeInterfaceList = [] →
      IsLeast {n | min ((s.iface i).groupListFixedLimit + 1) (s.iface i).groupListCount ≤ n ∧
          n ≤ (s.iface i).groupListCount ∧ ∀ j, n ≤ j → j < (s.iface i).groupListCount →
            ((groupTimeout s i g).group i j).active = false}
        ((groupTimeout s i g).iface i).groupListCount) ∧
    ∃ s, IgmpReachable .never 100 igmpRunBridges s ∧ TimerKey.groupTimeout 0 1 ∈ s.pending ∧
      (s.group 0 1).active = true ∧ (s.group 0 1).bridgeInterfaceList = [] ∧
      (s.iface 0).groupListFixedLimit = 1 ∧ (s.iface 0).groupListCount = 2 ∧
      ((groupTimeout s 0 1).group 0 1).active = false ∧
      ((groupTimeout s 0 1).iface 0).groupListCount = 2 := by
  refine ⟨fun s i g hi hg => ?_, ⟨_, Reachable.runEvents igmpReceive igmpRunTimer
    [.receive 0 0x0a000005 [0x12, 0, 0, 0, 0xef, 1, 1, 1] 1000000 0]
    (Reachable.init ⟨0, fun _ => 5, rfl⟩) (by decide), by decide⟩⟩
  simp only [Sys.group_eq, groupTimeout_count s hi hg]
  exact tightenGroupListCount_isLeast _ _ _

namespace TableInv

variable {L : Nat → Bool} {n : Nat} {r ifc : Interface}

/-- `*_group_timeout` keeps the invariant. -/
theorem groupTimeoutAt (h : TableInv L n r ifc) (bl : List BridgeInstance) (g : Nat) :
    TableInv L n r (McastBridge.groupTimeoutAt bl ifc g).2 := by
  have h₁ : TableInv L n r (ifc.modifyGroup g fun grp => { grp with active := false }) :=
    h.modifyGroup g (fun _ => rfl) (fun _ => rfl) fun _ ha => absurd ha Bool.false_ne_true
  dsimp only [McastBridge.groupTimeoutAt]
  split
  · exact h₁
  · exact { h₁ with
      fixedLimit_le := le_tightenGroupListCount _ _ _ h₁.fixedLimit_le
      count_le := (tightenGroupListCount_le _ _ _).trans h₁.count_le
      activeBelow := fun j hj => lt_tightenGroupListCount _ _ hj _ (h₁.activeBelow j hj) }

/-- The table `initialize_igmp` (`initialize_mld`) builds from a registered record. -/
theorem initializeGroupList (hr : r.RegisteredShape) :
    TableInv L n r (McastBridge.initializeGroupList n r) := by
  have hg := hr.group_initializeGroupList n
  have halloc : (McastBridge.initializeGroupList n r).groupListAllocated = r.groupListCount + n := by
    have := hr.allocated_eq
    simp only [Interface.groupListAllocated] at this
    simp [McastBridge.initializeGroupList, Interface.groupListAllocated, ← this]
  have hinactive : ∀ g, ((McastBridge.initializeGroupList n r).group g).active = false := by
    intro g
    rw [hg]
    rcases Nat.lt_or_ge g r.groupListCount with hlt | hge
    · exact (hr.group g hlt).2.1
    · rw [Interface.group_of_le _ _ (hr.allocated_eq ▸ hge)]; rfl
  refine ⟨rfl, le_rfl, by rw [halloc]; exact Nat.le_add_right _ _, halloc,
    fun g _ => by rw [hg]; exact ⟨rfl, rfl⟩, fun g hlt => by rw [hg]; exact (hr.group g hlt).1,
    fun g hge => ?_, ?_, ?_, ?_, ?_⟩
  · rw [hg, Interface.group_of_le _ _ (hr.allocated_eq ▸ hge)]; rfl
  all_goals simp [hinactive]

end TableInv
/-! ### `*_interface_find_group` -/

/-- `*_interface_find_group` as its comments describe it: nothing for a link-scope address;
otherwise the fixed slot holding the address, else the active dynamic slot holding it, else the
first inactive dynamic slot below `group_list_count`, else a new slot at `group_list_count` if
the table has room; a slot not holding the address yet is given it. -/
def interfaceFindGroupSpec (isLinkScope : Nat → Bool) (ifc : Interface) (addr : Nat) :
    Option (Interface × Nat) :=
  let dynamic := List.range' ifc.groupListFixedLimit (ifc.groupListCount - ifc.groupListFixedLimit)
  if isLinkScope addr then none
  else
    match (List.range' 0 ifc.groupListFixedLimit).find? (fun g => (ifc.group g).mcastAddr = addr) with
    | some g => some (ifc, g)
    | none =>
      match dynamic.find? (fun g => (ifc.group g).active && (ifc.group g).mcastAddr == addr) with
      | some g => some (ifc, g)
      | none =>
        match dynamic.find? (fun g => !(ifc.group g).active) with
        | some g => some (ifc.setAddr g addr, g)
        | none =>
          if ifc.groupListCount < ifc.groupListAllocated then
            some ({ ifc.setAddr ifc.groupListCount addr with
              groupListCount := ifc.groupListCount + 1 }, ifc.groupListCount)
          else none

/-- The single scan of the code, which notes the first inactive slot while it looks for an
active one holding the address, makes the three searches of the description. -/
theorem interfaceFindGroup_eq_spec (isLinkScope : Nat → Bool) (ifc : Interface) (addr : Nat) :
    interfaceFindGroup isLinkScope ifc addr = interfaceFindGroupSpec isLinkScope ifc addr := by
  unfold interfaceFindGroup interfaceFindGroupSpec findAddr
  rw [scanDynamic_eq]
  simp only [Interface.group]
  generalize List.find? (fun k => decide ((ifc.groupList.getD k default).mcastAddr = addr))
    (List.range' 0 ifc.groupListFixedLimit) = fixed
  generalize List.find? (fun k => (ifc.groupList.getD k default).active &&
    (ifc.groupList.getD k default).mcastAddr == addr) (List.range' ifc.groupListFixedLimit
      (ifc.groupListCount - ifc.groupListFixedLimit)) = active
  generalize List.find? (fun k => !(ifc.groupList.getD k default).active)
    (List.range' ifc.groupListFixedLimit (ifc.groupListCount - ifc.groupListFixedLimit)) = empty
  rcases fixed with _ | g <;> rcases active with _ | g <;> rcases empty with _ | g <;> try rfl
  dsimp only [Option.or]
  split_ifs <;> first | rfl | omega

/-- What `*_interface_find_group` guarantees of the slot `g` it returns with table `ifc`: the
table keeps the invariant, and so does activating the slot. -/
structure Joinable (isLinkScope : Nat → Bool) (nonConfiguredGroups : Nat) (r ifc : Interface)
    (g : Nat) : Prop where
  inv : TableInv isLinkScope nonConfiguredGroups r ifc
  lt_count : g < ifc.groupListCount
  scope : isLinkScope (ifc.group g).mcastAddr = false
  unique : ∀ g', (ifc.group g').active → (ifc.group g').mcastAddr = (ifc.group g).mcastAddr →
    g' = g
  first : ∀ g' < ifc.groupListFixedLimit, g' < g →
    (ifc.group g').mcastAddr ≠ (ifc.group g).mcastAddr

namespace Joinable

variable {L : Nat → Bool} {n : Nat} {r ifc : Interface} {g : Nat}

/-- `*_join_common` activating the slot keeps the invariant. -/
theorem activate (h : Joinable L n r ifc g) :
    TableInv L n r (ifc.modifyGroup g fun grp => { grp with active := true }) := by
  have hg : g < ifc.groupListAllocated := lt_of_lt_of_le h.lt_count h.inv.count_le
  have hslot : ∀ j, (ifc.modifyGroup g fun grp => { grp with active := true }).group j =
      if g = j then { ifc.group j with active := true } else ifc.group j := by
    intro j
    rw [Interface.group_modifyGroup_eq]
    by_cases hj : g = j
    · subst hj; simp [hg]
    · simp [hj]
  have hm : ∀ j, ((ifc.modifyGroup g fun grp => { grp with active := true }).group j).mcastAddr =
      (ifc.group j).mcastAddr := fun j => by rw [hslot]; split <;> rfl
  have hb : ∀ j, ((ifc.modifyGroup g fun grp => { grp with active := true }).group
      j).bridgeInterfaceList = (ifc.group j).bridgeInterfaceList := fun j => by
    rw [hslot]; split <;> rfl
  have ha : ∀ j, ((ifc.modifyGroup g fun grp => { grp with active := true }).group j).active →
      j = g ∨ (ifc.group j).active := fun j hj => by
    rw [hslot] at hj
    split at hj
    · rename_i hgj; exact .inl hgj.symm
    · exact .inr hj
  refine ⟨h.inv.fixedLimit_eq, h.inv.fixedLimit_le, by simpa using h.inv.count_le,
    by simpa using h.inv.allocated_eq, fun j hj => by rw [hm, hb]; exact h.inv.fixed j hj,
    fun j hj => by rw [hb]; exact h.inv.subscribed j hj,
    fun j hj => by rw [hb]; exact h.inv.dynamic j hj, fun j hj => ?_, fun j j' hj hj' he => ?_,
    fun j hj => ?_, fun j hj g' hg' hlt => ?_⟩
  · rcases ha j hj with rfl | hj
    · exact h.lt_count
    · exact h.inv.activeBelow j hj
  · rw [hm, hm] at he
    rcases ha j hj with hjg | hj <;> rcases ha j' hj' with hj'g | hj'
    · exact hjg.trans hj'g.symm
    · exact hjg.trans (h.unique j' hj' (by rw [← hjg]; exact he.symm)).symm
    · exact (h.unique j hj (by rw [← hj'g]; exact he)).trans hj'g.symm
    · exact h.inv.activeUnique j j' hj hj' he
  · rw [hm]
    rcases ha j hj with rfl | hj
    · exact h.scope
    · exact h.inv.activeScope j hj
  · rw [hm, hm]
    rcases ha j hj with rfl | hj
    · exact h.first g' hg' hlt
    · exact h.inv.activeFirst j hj g' hg' hlt

theorem joinActivateAt (h : Joinable L n r ifc g) (bl : List BridgeInstance) :
    TableInv L n r (McastBridge.joinActivateAt bl ifc g).2 := by
  unfold McastBridge.joinActivateAt
  split
  · exact h.inv
  · exact h.activate

/-- An update of a slot's other fields keeps a slot joinable. -/
theorem modifyGroup (h : Joinable L n r ifc g) (g' : Nat) {f : Group → Group}
    (hm : ∀ grp, (f grp).mcastAddr = grp.mcastAddr)
    (hb : ∀ grp, (f grp).bridgeInterfaceList = grp.bridgeInterfaceList)
    (ha : ∀ grp, (f grp).active = grp.active) : Joinable L n r (ifc.modifyGroup g' f) g := by
  have hm' : ∀ j, ((ifc.modifyGroup g' f).group j).mcastAddr = (ifc.group j).mcastAddr :=
    fun j => by rw [Interface.group_modifyGroup_eq]; split <;> simp only [hm]
  have ha' : ∀ j, ((ifc.modifyGroup g' f).group j).active = (ifc.group j).active :=
    fun j => by rw [Interface.group_modifyGroup_eq]; split <;> simp only [ha]
  refine ⟨h.inv.modifyGroup g' hm hb fun grp => (ha grp).symm ▸ id, h.lt_count,
    by rw [hm']; exact h.scope, fun j hj he => h.unique j (by rwa [ha'] at hj) ?_,
    fun j hj hlt => by rw [hm', hm']; exact h.first j hj hlt⟩
  rwa [hm', hm'] at he

/-- A slot of an invariant table given an address that no active and no other fixed slot
holds. -/
theorem of_fresh (h : TableInv L n r ifc) {a : Nat} (hlt : g < ifc.groupListCount)
    (ha : (ifc.group g).mcastAddr = a) (hL : L a = false)
    (hact : ∀ j, (ifc.group j).active → (ifc.group j).mcastAddr ≠ a)
    (hfix : ∀ j < ifc.groupListFixedLimit, j < g → (ifc.group j).mcastAddr ≠ a) :
    Joinable L n r ifc g :=
  ⟨h, hlt, ha ▸ hL, fun j hj he => absurd (he.trans ha) (hact j hj),
    fun j hj hjg he => hfix j hj hjg (he.trans ha)⟩

end Joinable

namespace TableInv

variable {L : Nat → Bool} {n : Nat} {r ifc : Interface}

/-- **A slot `*_interface_find_group` returns is joinable.** -/
theorem interfaceFindGroup (h : TableInv L n r ifc) {a : Nat} {ifc' : Interface} {g : Nat}
    (hf : McastBridge.interfaceFindGroup L ifc a = some (ifc', g)) : Joinable L n r ifc' g := by
  rw [interfaceFindGroup_eq_spec] at hf
  unfold interfaceFindGroupSpec at hf
  dsimp only at hf
  split at hf
  · cases hf
  rename_i hL
  rw [Bool.not_eq_true] at hL
  split at hf
  · -- a fixed slot holds the address: the first one
    rename_i g₀ hfix
    cases hf
    obtain ⟨hp, hmem, hmin⟩ := List.find?_range'_eq_some.1 hfix
    simp only [decide_eq_true_eq] at hp
    have hlt : g < ifc.groupListFixedLimit := by simpa using hmem
    have hmin' : ∀ j < g, (ifc.group j).mcastAddr ≠ (ifc.group g).mcastAddr := fun j hj => by
      simpa [hp] using hmin j (Nat.zero_le j) hj
    refine ⟨h, by have := h.fixedLimit_le; omega, by rw [hp]; exact hL, fun j hj he => ?_,
      fun j _ hjg => hmin' j hjg⟩
    rcases Nat.lt_trichotomy j g with hjg | rfl | hgj
    · exact absurd he (hmin' j hjg)
    · rfl
    · exact absurd he.symm (h.activeFirst j hj g hlt hgj)
  rename_i hfix
  have hnofix : ∀ j < ifc.groupListFixedLimit, (ifc.group j).mcastAddr ≠ a := fun j hj => by
    simpa using List.find?_range'_eq_none.1 hfix j (Nat.zero_le j) (by simpa using hj)
  split at hf
  · -- an active dynamic slot holds it
    rename_i g₀ hact
    cases hf
    obtain ⟨hp, -, -⟩ := List.find?_range'_eq_some.1 hact
    simp only [Bool.and_eq_true, beq_iff_eq] at hp
    exact ⟨h, h.activeBelow g hp.1, h.activeScope g hp.1,
      fun j hj he => h.activeUnique j g hj hp.1 he, h.activeFirst g hp.1⟩
  rename_i hact
  have hnone : ∀ j, (ifc.group j).active → (ifc.group j).mcastAddr ≠ a := fun j hj => by
    have hj' := h.activeBelow j hj
    rcases Nat.lt_or_ge j ifc.groupListFixedLimit with hF | hF
    · exact hnofix j hF
    · have := List.find?_range'_eq_none.1 hact j hF (by have := h.fixedLimit_le; omega)
      simpa [hj] using this
  split at hf
  · -- the first inactive dynamic slot is reused
    rename_i g₀ hemp
    cases hf
    obtain ⟨hp, hmem, -⟩ := List.find?_range'_eq_some.1 hemp
    simp only [Bool.not_eq_true', Bool.not_eq_true] at hp
    have hmem' := List.mem_range'_1.1 hmem
    have hg : g < ifc.groupListAllocated := by have := h.count_le; omega
    refine Joinable.of_fresh (h.setAddr hmem'.1 hp a)
      (show g < ifc.groupListCount by have := h.fixedLimit_le; omega)
      (Interface.mcastAddr_setAddr_self _ _ _ hg) hL (Interface.setAddr_active_ne _ _ _ hp hnone)
      fun j hj _ => ?_
    rw [Interface.setAddr_group_ne _ _ _ (by omega)]
    exact hnofix j hj
  split_ifs at hf with hc
  -- a new slot is counted
  cases hf
  have hi := h.inactive_of_le (le_refl ifc.groupListCount)
  refine Joinable.of_fresh ((h.setAddr h.fixedLimit_le hi a).extend (by simpa using hc))
    (Nat.lt_succ_self _) (Interface.mcastAddr_setAddr_self _ _ _ hc) hL
    (Interface.setAddr_active_ne _ _ _ hi hnone) fun j hj _ => ?_
  change ((ifc.setAddr _ a).group j).mcastAddr ≠ a
  rw [Interface.setAddr_group_ne _ _ _ (by have := h.fixedLimit_le; omega)]
  exact hnofix j hj

/-- A lookup of an address that is not link-scope fails only when every dynamic slot is active
with another address. -/
theorem interfaceFindGroup_eq_none (h : TableInv L n r ifc) {a : Nat} (hL : L a = false)
    (hf : McastBridge.interfaceFindGroup L ifc a = none) :
    ∀ g, ifc.groupListFixedLimit ≤ g → g < ifc.groupListFixedLimit + n →
      (ifc.group g).active ∧ (ifc.group g).mcastAddr ≠ a := by
  rw [interfaceFindGroup_eq_spec] at hf
  unfold interfaceFindGroupSpec at hf
  dsimp only at hf
  rw [if_neg (by simp [hL])] at hf
  split at hf
  · cases hf
  split at hf
  · cases hf
  rename_i hact
  split at hf
  · cases hf
  rename_i hemp
  split_ifs at hf with hc
  have hcount : ifc.groupListCount = ifc.groupListFixedLimit + n := by
    have := h.count_le; have := h.allocated_eq; omega
  intro g hg hgn
  have hin : g < ifc.groupListFixedLimit + (ifc.groupListCount - ifc.groupListFixedLimit) := by
    omega
  have h₁ := List.find?_range'_eq_none.1 hemp g hg hin
  have h₂ := List.find?_range'_eq_none.1 hact g hg hin
  simp only [Bool.not_not] at h₁
  exact ⟨h₁, by simpa [h₁] using h₂⟩

end TableInv

/-- Nothing is found in the table of an interface beyond the list. -/
theorem interfaceFindGroup_default (isLinkScope : Nat → Bool) (a : Nat) :
    interfaceFindGroup isLinkScope default a = none := by
  unfold interfaceFindGroup
  split <;> rfl

/-! ### Every table of a subsystem -/

/-- Every interface's table keeps its invariant, against the records registration built
(`regs`); `P` gives the link scope. -/
structure TablesInv (P : Proto) (nonConfiguredGroups : Nat) (regs : List Interface) (s : Sys) :
    Prop where
  length : s.interfaceList.length = regs.length
  table : ∀ i < regs.length,
    TableInv P.isLinkScope nonConfiguredGroups (regs.getD i default) (s.iface i)

/-- An update of a slot's other fields keeps it joinable. -/
theorem Joinable.sysModifyGroup {L : Nat → Bool} {n : Nat} {r : Interface} {s : Sys} {i g : Nat}
    (hj : Joinable L n r (s.iface i) g) (g' : Nat) {f : Group → Group}
    (hm : ∀ grp, (f grp).mcastAddr = grp.mcastAddr)
    (hb : ∀ grp, (f grp).bridgeInterfaceList = grp.bridgeInterfaceList)
    (ha : ∀ grp, (f grp).active = grp.active) : Joinable L n r ((s.modifyGroup i g' f).iface i) g :=
  s.iface_modifyIface_cases (fun j ifc => j = i → Joinable L n r ifc g) i _
    (fun _ _ => hj.modifyGroup g' hm hb ha) (fun _ _ e => e ▸ hj) i rfl

namespace TablesInv

variable {P : Proto} {n : Nat} {regs : List Interface} {s : Sys}

/-! #### The updates a handler is made of -/

theorem delTimer (h : TablesInv P n regs s) (k : TimerKey) : TablesInv P n regs (s.delTimer k) :=
  ⟨h.length, h.table⟩

theorem addTimer (h : TablesInv P n regs s) (m : Nat) (k : TimerKey) :
    TablesInv P n regs (s.addTimer m k) :=
  ⟨by simpa using h.length, by simpa using h.table⟩

theorem inject (h : TablesInv P n regs s) (p : Injected) : TablesInv P n regs (s.inject p) :=
  ⟨h.length, h.table⟩

theorem withBridgeList (h : TablesInv P n regs s) (bl : List BridgeInstance) :
    TablesInv P n regs { s with bridgeList := bl } :=
  ⟨h.length, h.table⟩

theorem withClock (h : TablesInv P n regs s) (now : Nat) :
    TablesInv P n regs { s with clock := now } :=
  ⟨h.length, h.table⟩

theorem pop (h : TablesInv P n regs s) (now : Nat) (rest : List (TimerEvent TimerKey)) :
    TablesInv P n regs { s with clock := now, evm := { s.evm with timerList := rest } } :=
  ⟨h.length, h.table⟩

theorem modifyIface (h : TablesInv P n regs s) (i : Nat) (f : Interface → Interface)
    (hf : i < regs.length → TableInv P.isLinkScope n (regs.getD i default) (f (s.iface i))) :
    TablesInv P n regs (s.modifyIface i f) :=
  ⟨by simpa using h.length, fun j => s.iface_modifyIface_cases
    (fun j ifc => j < regs.length → TableInv P.isLinkScope n (regs.getD j default) ifc) i f
    (fun _ => hf) (fun j _ => h.table j) j⟩

/-- An update of interface `i` outside its table. -/
theorem modifyOutside (h : TablesInv P n regs s) (i : Nat) (f : Interface → Interface)
    (hG : (f (s.iface i)).groupList = (s.iface i).groupList)
    (hC : (f (s.iface i)).groupListCount = (s.iface i).groupListCount)
    (hF : (f (s.iface i)).groupListFixedLimit = (s.iface i).groupListFixedLimit) :
    TablesInv P n regs (s.modifyIface i f) :=
  h.modifyIface i f fun hi => (h.table i hi).of_table_eq hG hC hF

/-- An update of a slot's fields other than its address, subscribers and activity. -/
theorem modifyGroup (h : TablesInv P n regs s) (i g : Nat) {f : Group → Group}
    (hm : ∀ grp, (f grp).mcastAddr = grp.mcastAddr)
    (hb : ∀ grp, (f grp).bridgeInterfaceList = grp.bridgeInterfaceList)
    (ha : ∀ grp, (f grp).active = grp.active) : TablesInv P n regs (s.modifyGroup i g f) :=
  h.modifyIface i _ fun hi => (h.table i hi).modifyGroup g hm hb fun grp => (ha grp).symm ▸ id

/-- A lookup on interface `i` that finds slot `g`: the table keeps its invariant and the slot is
joinable. -/
theorem setFound (h : TablesInv P n regs s) {i a : Nat} {ifc : Interface} {g : Nat}
    (hfind : interfaceFindGroup P.isLinkScope (s.iface i) a = some (ifc, g)) :
    TablesInv P n regs (s.setIface i ifc) ∧
      Joinable P.isLinkScope n (regs.getD i default) ((s.setIface i ifc).iface i) g := by
  have hi : i < regs.length := by
    by_contra hi
    rw [Sys.iface, List.getD_eq_default _ _ (by rw [h.length]; omega),
      interfaceFindGroup_default] at hfind
    cases hfind
  have hj := (h.table i hi).interfaceFindGroup hfind
  rw [Sys.iface_setIface_self _ _ _ (h.length ▸ hi)]
  exact ⟨h.modifyIface i _ fun _ => hj.inv, hj⟩

/-- `*_join_common` on a joinable slot. -/
theorem joinCommon (h : TablesInv P n regs s) (P' : Proto) {i g : Nat}
    (hj : Joinable P.isLinkScope n (regs.getD i default) (s.iface i) g) :
    TablesInv P n regs (McastBridge.joinCommon P' s i g) := by
  dsimp only [McastBridge.joinCommon]
  split
  · exact (((h.delTimer _).withBridgeList _).modifyIface i _ fun _ =>
      hj.joinActivateAt _).addTimer _ _
  · exact ((h.withBridgeList _).modifyIface i _ fun _ => hj.joinActivateAt _).addTimer _ _

/-! #### The handlers and callbacks -/

theorem sendMrdAdvertisement (h : TablesInv P n regs s) (i rand : Nat) :
    TablesInv P n regs (McastBridge.sendMrdAdvertisement s i rand) := by
  dsimp only [McastBridge.sendMrdAdvertisement]
  split
  · exact ((h.inject _).modifyOutside i _ rfl rfl rfl).addTimer _ _
  · exact (h.inject _).addTimer _ _

theorem handleMrdSolicitation (h : TablesInv P n regs s) (i rand : Nat) :
    TablesInv P n regs (McastBridge.handleMrdSolicitation s i rand) :=
  (h.delTimer _).sendMrdAdvertisement i rand

theorem sendGeneralQuery (h : TablesInv P n regs s) (i : Nat) :
    TablesInv P n regs (McastBridge.sendGeneralQuery s i) := by
  dsimp only [McastBridge.sendGeneralQuery]
  split
  · exact ((h.inject _).modifyOutside i _ rfl rfl rfl).addTimer _ _
  · exact (h.inject _).addTimer _ _

theorem activateQuerierMode (h : TablesInv P n regs s) (P' : Proto) (i : Nat) :
    TablesInv P n regs (McastBridge.activateQuerierMode P' s i) :=
  (h.modifyOutside i _ rfl rfl rfl).sendGeneralQuery i

theorem querierTimeout (h : TablesInv P n regs s) (P' : Proto) (i : Nat) :
    TablesInv P n regs (McastBridge.querierTimeout P' s i) := by
  unfold McastBridge.querierTimeout
  split
  · exact h.activateQuerierMode P' i
  · exact h.modifyOutside i _ rfl rfl rfl

theorem sendGroupSpecificQuery (h : TablesInv P n regs s) (P' : Proto) (i g : Nat) :
    TablesInv P n regs (McastBridge.sendGroupSpecificQuery P' s i g) := by
  dsimp only [McastBridge.sendGroupSpecificQuery]
  split
  · refine TablesInv.addTimer ?_ _ _
    exact (h.inject _).modifyGroup i g (fun _ => rfl) (fun _ => rfl) fun _ => rfl
  · exact (h.inject _).modifyGroup i g (fun _ => rfl) (fun _ => rfl) fun _ => rfl

theorem leaveAccept (h : TablesInv P n regs s) (P' : Proto) (i g : Nat) :
    TablesInv P n regs (McastBridge.leaveAccept P' s i g) := by
  dsimp only [McastBridge.leaveAccept]
  refine TablesInv.sendGroupSpecificQuery ?_ P' i g
  exact ((h.delTimer _).addTimer _ _).modifyGroup i g (fun _ => rfl) (fun _ => rfl) fun _ => rfl

theorem recordQuerier (h : TablesInv P n regs s) (P' : Proto) (i : Nat) (q : Query) :
    TablesInv P n regs (McastBridge.recordQuerier P' s i q) := by
  dsimp only [McastBridge.recordQuerier]
  refine TablesInv.addTimer (TablesInv.delTimer ?_ _) _ _
  split
  · exact h.modifyOutside i _ rfl rfl rfl
  · exact h

theorem electQuerier (h : TablesInv P n regs s) (P' : Proto) {i src : Nat} (q : Query)
    {s' : Sys} (he : McastBridge.electQuerier P' s i src q = some s') : TablesInv P n regs s' := by
  dsimp only [McastBridge.electQuerier] at he
  split at he
  · split at he
    · split at he
      · cases he
        exact (h.delTimer _).modifyOutside i _ (by split <;> rfl) (by split <;> rfl)
          (by split <;> rfl)
      · cases he
    · split at he
      · cases he
        exact h.modifyOutside i _ (by split <;> rfl) (by split <;> rfl) (by split <;> rfl)
      · cases he; exact h
  · cases he; exact h

theorem queryGroup (h : TablesInv P n regs s) (i a : Nat) :
    TablesInv P n regs (McastBridge.queryGroup P s i a) := by
  unfold McastBridge.queryGroup
  split
  · exact h
  · rename_i ifc g hfind
    have h₁ := (h.setFound hfind).1
    dsimp only
    split
    · exact h₁
    · exact (h₁.delTimer _).addTimer _ _

theorem handleQuery (h : TablesInv P n regs s) (i src : Nat) (q : Query) :
    TablesInv P n regs (McastBridge.handleQuery P s i src q) := by
  unfold McastBridge.handleQuery
  split
  · exact h
  · rename_i s' he
    have h₁ := (h.electQuerier P q he).recordQuerier P i q
    dsimp only
    split
    · exact h₁
    · split
      · exact h₁
      · exact h₁.queryGroup i _

theorem groupTimeout (h : TablesInv P n regs s) (i g : Nat) :
    TablesInv P n regs (McastBridge.groupTimeout s i g) :=
  (h.withBridgeList _).modifyIface i _ fun hi => (h.table i hi).groupTimeoutAt _ g

theorem v1HostTimeout (h : TablesInv P n regs s) (i g : Nat) :
    TablesInv P n regs (McastBridge.v1HostTimeout s i g) :=
  h.modifyGroup i g (fun _ => rfl) (fun _ => rfl) fun _ => rfl

/-- The group-record loop keeps the invariant, given a leave that keeps it. -/
theorem groupRecords (leave : Sys → Nat → Nat → Sys) (i : Nat)
    (hleave : ∀ s g, TablesInv P n regs s → TablesInv P n regs (leave s i g)) :
    ∀ (m : Nat) (buf : List UInt8) (s : Sys), TablesInv P n regs s →
      TablesInv P n regs (McastBridge.groupRecords P leave s i m buf)
  | 0, _, _, h => h
  | m + 1, buf, s, h => by
      unfold McastBridge.groupRecords
      split
      · exact h
      · dsimp only
        split
        · exact h
        · split
          · exact groupRecords leave i hleave m _ _ h
          · rename_i ifc g hfind
            obtain ⟨h₁, hj⟩ := h.setFound hfind
            have hjoin := fun b => groupRecords leave i hleave m b _ (h₁.joinCommon P hj)
            have hleave₁ := fun b => groupRecords leave i hleave m b _ (hleave _ g h₁)
            split <;> (try split) <;> first | exact h₁ | exact hjoin _ | exact hleave₁ _

/-! #### IGMP -/

theorem igmpLeaveCommon (h : TablesInv P n regs s) (i g : Nat) :
    TablesInv P n regs (McastBridge.igmpLeaveCommon s i g) := by
  unfold McastBridge.igmpLeaveCommon
  split_ifs
  exacts [h, h, h, h, h.leaveAccept igmpProto i g]

theorem handleIgmpV1Report (h : TablesInv igmpProto n regs s) (i : Nat) (buf : List UInt8) :
    TablesInv igmpProto n regs (McastBridge.handleIgmpV1Report s i buf) := by
  unfold McastBridge.handleIgmpV1Report
  split
  · exact h
  · split
    · exact h
    · rename_i ifc g hfind
      obtain ⟨h₁, hj⟩ := h.setFound hfind
      dsimp only
      split
      · exact ((h₁.delTimer _).addTimer _ _).joinCommon igmpProto
          (by rw [Sys.iface_addTimer]; exact hj)
      · refine TablesInv.joinCommon (TablesInv.addTimer ?_ _ _) igmpProto ?_
        · exact h₁.modifyGroup i g (fun _ => rfl) (fun _ => rfl) fun _ => rfl
        · rw [Sys.iface_addTimer]
          exact hj.sysModifyGroup g (fun _ => rfl) (fun _ => rfl) fun _ => rfl

theorem handleIgmpV2Report (h : TablesInv igmpProto n regs s) (i : Nat) (buf : List UInt8) :
    TablesInv igmpProto n regs (McastBridge.handleIgmpV2Report s i buf) := by
  unfold McastBridge.handleIgmpV2Report
  split
  · exact h
  · split
    · exact h
    · rename_i ifc g hfind
      obtain ⟨h₁, hj⟩ := h.setFound hfind
      exact h₁.joinCommon igmpProto hj

theorem handleIgmpV2Leave (h : TablesInv igmpProto n regs s) (i : Nat) (buf : List UInt8) :
    TablesInv igmpProto n regs (McastBridge.handleIgmpV2Leave s i buf) := by
  unfold McastBridge.handleIgmpV2Leave
  split
  · exact h
  · split
    · exact h
    · rename_i ifc g hfind
      exact (h.setFound hfind).1.igmpLeaveCommon i g

theorem igmpReceive (h : TablesInv igmpProto n regs s) (i src : Nat) (buf : List UInt8)
    (rand : Nat) : TablesInv igmpProto n regs (McastBridge.igmpReceive s i src buf rand) := by
  unfold McastBridge.igmpReceive
  split
  · exact h
  · split
    · unfold McastBridge.handleIgmpQuery
      split
      · exact h
      · exact h.handleQuery i src _
    · exact h.handleIgmpV1Report i buf
    · exact h.handleIgmpV2Report i buf
    · exact h.handleIgmpV2Leave i buf
    · unfold McastBridge.handleIgmpV3Report
      split
      · exact h
      · exact groupRecords _ i (fun _ g h' => h'.igmpLeaveCommon i g) _ _ _ h
    · exact h.handleMrdSolicitation i rand
    · exact h

theorem igmpRunTimer (h : TablesInv igmpProto n regs s) (k : TimerKey) (rand : Nat) :
    TablesInv igmpProto n regs (McastBridge.igmpRunTimer s k rand) := by
  cases k with
  | sendMrdAdvertisement i => exact h.sendMrdAdvertisement i rand
  | sendGeneralQuery i => exact h.sendGeneralQuery i
  | querierTimeout i => exact h.querierTimeout igmpProto i
  | sendGroupSpecificQuery i g => exact h.sendGroupSpecificQuery igmpProto i g
  | groupTimeout i g => exact h.groupTimeout i g
  | v1HostTimeout i g => exact h.v1HostTimeout i g

/-- **Every event of the IGMP subsystem keeps the tables' invariant.** -/
theorem igmpStep {s s' : Sys} (h : TablesInv igmpProto n regs s)
    (hs : Step McastBridge.igmpReceive McastBridge.igmpRunTimer s s') :
    TablesInv igmpProto n regs s' := by
  cases hs with
  | receive i src buf now rand _ _ => exact (h.withClock now).igmpReceive i src buf rand
  | expire t rest now rand _ _ _ => exact (h.pop now rest).igmpRunTimer t.key rand

/-! #### MLD -/

theorem mldLeaveCommon (h : TablesInv P n regs s) (i g : Nat) :
    TablesInv P n regs (McastBridge.mldLeaveCommon s i g) := by
  unfold McastBridge.mldLeaveCommon
  split_ifs
  exacts [h, h, h, h.leaveAccept mldProto i g]

theorem mldReceive (h : TablesInv mldProto n regs s) (i src : Nat) (buf : List UInt8)
    (rand : Nat) : TablesInv mldProto n regs (McastBridge.mldReceive s i src buf rand) := by
  unfold McastBridge.mldReceive
  split
  · exact h
  · split
    · exact h
    · split
      · exact h.handleQuery i src _
      · unfold McastBridge.handleMldV1Report
        split
        · exact h
        · rename_i ifc g hfind
          obtain ⟨h₁, hj⟩ := h.setFound hfind
          exact h₁.joinCommon mldProto hj
      · unfold McastBridge.handleMldV1Leave
        split
        · exact h
        · rename_i ifc g hfind
          exact (h.setFound hfind).1.mldLeaveCommon i g
      · split
        · exact h
        · exact groupRecords _ i (fun _ g h' => h'.mldLeaveCommon i g) _ _ _ h
      · exact h.handleMrdSolicitation i rand
      · exact h

theorem mldRunTimer (h : TablesInv mldProto n regs s) (k : TimerKey) (rand : Nat) :
    TablesInv mldProto n regs (McastBridge.mldRunTimer s k rand) := by
  cases k with
  | sendMrdAdvertisement i => exact h.sendMrdAdvertisement i rand
  | sendGeneralQuery i => exact h.sendGeneralQuery i
  | querierTimeout i => exact h.querierTimeout mldProto i
  | sendGroupSpecificQuery i g => exact h.sendGroupSpecificQuery mldProto i g
  | groupTimeout i g => exact h.groupTimeout i g
  | v1HostTimeout i g => exact h

/-- **Every event of the MLD subsystem keeps the tables' invariant.** -/
theorem mldStep {s s' : Sys} (h : TablesInv mldProto n regs s)
    (hs : Step McastBridge.mldReceive McastBridge.mldRunTimer s s') :
    TablesInv mldProto n regs s' := by
  cases hs with
  | receive i src buf now rand _ _ => exact (h.withClock now).mldReceive i src buf rand
  | expire t rest now rand _ _ _ => exact (h.pop now rest).mldRunTimer t.key rand

/-! #### Start-up -/

theorem startInterface (h : TablesInv P n regs s) (P' : Proto) (i rand : Nat) :
    TablesInv P n regs (McastBridge.startInterface P' s i rand) := by
  have h₁ := (h.modifyOutside i (fun ifc => { ifc with mrdInitialAdvertisementsRemaining := 2 })
    rfl rfl rfl).sendMrdAdvertisement i rand
  dsimp only [McastBridge.startInterface]
  split
  · exact h₁.activateQuerierMode P' i
  · have h₂ := h₁.modifyOutside i (fun ifc => { ifc with
      querierRobustness := P'.robustness
      querierIntervalSec := P'.queryInterval
      querierResponseInterval := P'.responseInterval
      querierLastmbrInterval := P'.lastmbrInterval
      querierAddr := P'.allOnes }) rfl rfl rfl
    split
    · exact h₂.addTimer _ _
    · exact h₂

theorem start (h : TablesInv P n regs s) (P' : Proto) (rands : Nat → Nat) :
    TablesInv P n regs (McastBridge.start P' s rands) := by
  unfold McastBridge.start
  generalize List.range _ = l
  induction l generalizing s with
  | nil => exact h
  | cons i l ih => exact ih (h.startInterface P' i (rands i))

/-- The tables `initialize_igmp` (`initialize_mld`) builds from registered records. -/
theorem initializeSys (hregs : AllRegistered regs) (mode : QuerierModeType)
    (bl : List BridgeInstance) (now : Nat) :
    TablesInv P n regs (McastBridge.initializeSys mode n bl regs now) := by
  refine ⟨by simp [McastBridge.initializeSys], fun i hi => ?_⟩
  have : (McastBridge.initializeSys mode n bl regs now).iface i =
      McastBridge.initializeGroupList n (regs.getD i default) := by
    simp only [McastBridge.initializeSys, Sys.iface]
    rw [List.getD_eq_getElem _ _ (by simpa using hi), List.getD_eq_getElem _ _ hi,
      List.getElem_map]
  rw [this]
  exact TableInv.initializeGroupList (hregs i)

end TablesInv

/-- **The group tables.**  In every state an IGMP or MLD subsystem reaches, in any querier mode,
every interface's table keeps its invariant against the record registration built for it;
`*_interface_find_group` is the lookup its comments describe; and on a table that keeps the
invariant, it fails for an address outside the link scope only when every dynamic slot is active
with another address. -/
theorem group_tables (mode : QuerierModeType) (nonConfiguredGroups : Nat)
    (bl : List BridgeInstance) :
    (∀ s, IgmpReachable mode nonConfiguredGroups bl s → ∀ i < s.interfaceList.length,
      TableInv igmpProto.isLinkScope nonConfiguredGroups
        ((registerAll (·.ipv4Addr) .inet bl).getD i default) (s.iface i)) ∧
    (∀ s, MldReachable mode nonConfiguredGroups bl s → ∀ i < s.interfaceList.length,
      TableInv mldProto.isLinkScope nonConfiguredGroups
        ((registerAll (·.ipv6AddrLl) .inet6 bl).getD i default) (s.iface i)) ∧
    (∀ isLinkScope ifc addr,
      interfaceFindGroup isLinkScope ifc addr = interfaceFindGroupSpec isLinkScope ifc addr) ∧
    (∀ isLinkScope r ifc addr, TableInv isLinkScope nonConfiguredGroups r ifc →
      isLinkScope addr = false → interfaceFindGroup isLinkScope ifc addr = none →
      ∀ g, ifc.groupListFixedLimit ≤ g → g < ifc.groupListFixedLimit + nonConfiguredGroups →
        (ifc.group g).active ∧ (ifc.group g).mcastAddr ≠ addr) := by
  refine ⟨fun s hs => ?_, fun s hs => ?_, interfaceFindGroup_eq_spec,
    fun _ _ _ _ h hL hf => h.interfaceFindGroup_eq_none hL hf⟩
  · have h : TablesInv igmpProto nonConfiguredGroups (registerAll (·.ipv4Addr) .inet bl) s := by
      induction hs with
      | init h =>
          obtain ⟨now, rands, rfl⟩ := h
          exact (TablesInv.initializeSys (registerAll_spec _ _ _).1 _ _ _).start _ _
      | step _ hst ih => exact ih.igmpStep hst
    exact fun i hi => h.table i (h.length ▸ hi)
  · have h : TablesInv mldProto nonConfiguredGroups (registerAll (·.ipv6AddrLl) .inet6 bl) s := by
      induction hs with
      | init h =>
          obtain ⟨now, rands, rfl⟩ := h
          exact (TablesInv.initializeSys (registerAll_spec _ _ _).1 _ _ _).start _ _
      | step _ hst ih => exact ih.mldStep hst
    exact fun i hi => h.table i (h.length ▸ hi)

/-- A run with one dynamic slot: once a host reports 239.1.1.1 the slot is taken, and a lookup
of another group fails with that slot active. -/
theorem group_tables_full_table : ∃ s, IgmpReachable .never 1 igmpRunBridges s ∧
    interfaceFindGroup igmpProto.isLinkScope (s.iface 0) 0xef020202 = none ∧
    ((s.iface 0).group 1).active ∧ ((s.iface 0).group 1).mcastAddr ≠ 0xef020202 := by
  obtain ⟨s, hs, hlen, hf⟩ : ∃ s, IgmpReachable .never 1 igmpRunBridges s ∧
      0 < s.interfaceList.length ∧
      interfaceFindGroup igmpProto.isLinkScope (s.iface 0) 0xef020202 = none :=
    ⟨_, Reachable.runEvents igmpReceive igmpRunTimer
      [.receive 0 0x0a000005 [0x16, 0, 0, 0, 0xef, 1, 1, 1] 1000000 0]
      (Reachable.init ⟨0, fun _ => 0, rfl⟩) (by decide), by decide, by decide⟩
  have hT := (group_tables .never 1 igmpRunBridges).1 s hs 0 hlen
  exact ⟨s, hs, hf, (group_tables .never 1 igmpRunBridges).2.2.2 _ _ _ 0xef020202 hT (by decide) hf 1
    (by rw [hT.fixedLimit_eq]; decide) (by rw [hT.fixedLimit_eq]; decide)⟩

end McastBridge
