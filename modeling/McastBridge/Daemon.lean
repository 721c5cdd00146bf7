import McastBridge.Coupling
import McastBridge.Igmp
import McastBridge.Mld
/-
**The daemon: the IGMP and MLD threads on one bridge list.**

`main` reads the configuration, runs `initialize_interfaces`, `initialize_igmp` and
`initialize_mld`, and starts the IGMP thread, the MLD thread and the bridge threads.  From then
on the two control threads handle their events in any interleaving, and both write the flags of
the one `bridge_list` that the bridge threads read; `*_join_common` and `*_group_timeout` are
their only writes to it.  A daemon state is that list with the states of the two threads, and an
event of a thread runs the thread's handler on its own state and on the list as the other thread
left it.  Start-up is one step: `start_igmp` and `start_mld` write only their own thread's
state.

What the data plane depends on in a group table is, slot by slot, whether the group is active
and which outbound interfaces are subscribed to it: the table's plane.  The world of
`McastBridge.Coupling`, in which joins and expiries of either family act on any slot in any
order, simulates the daemon: every event of a thread is matched by joins and expiries of the
thread's family, zero or more of them, on a world with the same bridge list and the same planes.

Main definitions:

* `McastBridge.Interface.plane`, `McastBridge.Sys.view`, `McastBridge.World.view` — what the data
  plane depends on in a thread's state and in a world;
* `McastBridge.Matches` — every world showing a thread in one state reaches, by joins and
  expiries of the thread's family, a world showing it in another;
* `McastBridge.Daemon`, `McastBridge.DaemonStep`, `McastBridge.DaemonReachable` — the daemon
  after start-up, an event of either thread, and the states reached.

Main results:

* `McastBridge.joinActivateAt_congr`, `McastBridge.groupTimeoutAt_congr` — the two call-outs read
  only the plane of the table;
* `McastBridge.Matches.igmpStep`, `McastBridge.Matches.mldStep` — every event of either thread is
  matched;
* `McastBridge.daemon_refines_world` — **every state the daemon reaches, in any interleaving of
  its two threads, is shown by a world reached from start-up by joins and expiries**.
-/

set_option relaxedAutoImplicit false
set_option autoImplicit false

namespace McastBridge

/-! ### Lists updated at one index -/

/-- An update of one entry that keeps the entry's image under `F` keeps the list's image. -/
theorem map_modify_of_getD {α β : Type} (F : α → β) (f : α → α) (d : α) :
    ∀ (l : List α) (i : Nat), (i < l.length → F (f (l.getD i d)) = F (l.getD i d)) →
      (l.modify f i).map F = l.map F
  | [], _, _ => by simp
  | a :: l, 0, h => congrArg (· :: l.map F) (h (Nat.zero_lt_succ _))
  | a :: l, i + 1, h => congrArg (F a :: ·)
      (map_modify_of_getD F f d l i fun hi => h (Nat.succ_lt_succ hi))

/-- Mapping after an update is updating after the map, by the map's image of the update. -/
theorem map_modify_comm {α β : Type} (F : α → β) (f : α → α) (f' : β → β)
    (hf : ∀ a, F (f a) = f' (F a)) : ∀ (l : List α) (i : Nat),
      (l.modify f i).map F = (l.map F).modify f' i
  | [], _ => by simp
  | a :: l, 0 => by simp [hf]
  | a :: l, i + 1 => by simp [map_modify_comm F f f' hf l i]

/-! ### The plane of a group table -/

/-- What the data plane reads of a group table: each slot's activity and subscribers. -/
def Interface.plane (ifc : Interface) : List (Bool × List BridgeHandle) :=
  ifc.groupList.map fun grp => (grp.active, grp.bridgeInterfaceList)

/-- The planes of a subsystem's interfaces. -/
def planes (ifs : List Interface) : List (List (Bool × List BridgeHandle)) :=
  ifs.map Interface.plane

theorem Interface.plane_getD (ifc : Interface) (g : Nat) :
    ifc.plane.getD g (false, []) = ((ifc.group g).active, (ifc.group g).bridgeInterfaceList) :=
  List.getD_map ifc.groupList default _

/-- Two tables with one plane agree on every slot's activity and subscribers. -/
theorem Interface.group_of_plane {a b : Interface} (h : a.plane = b.plane) (g : Nat) :
    (a.group g).active = (b.group g).active ∧
      (a.group g).bridgeInterfaceList = (b.group g).bridgeInterfaceList := by
  have := congrArg (·.getD g (false, [])) h
  simp only [Interface.plane_getD] at this
  exact Prod.mk.inj this

theorem plane_getD_of_planes {l l' : List Interface} (h : planes l = planes l') (i : Nat) :
    (l.getD i default).plane = (l'.getD i default).plane := by
  have e : ∀ l : List Interface, (planes l).getD i [] = (l.getD i default).plane :=
    fun l => List.getD_map l default _
  rw [← e, ← e, h]

/-- The planes of a list with one interface replaced. -/
theorem planes_modify_const (l : List Interface) (i : Nat) (ifc : Interface) :
    planes (l.modify (fun _ => ifc) i) = (planes l).modify (fun _ => ifc.plane) i :=
  map_modify_comm Interface.plane (fun _ => ifc) (fun _ => ifc.plane) (fun _ => rfl) l i

/-- A slot update that keeps activity and subscribers keeps the plane. -/
theorem Interface.plane_modifyGroup (ifc : Interface) (g : Nat) {f : Group → Group}
    (ha : ∀ grp, (f grp).active = grp.active)
    (hb : ∀ grp, (f grp).bridgeInterfaceList = grp.bridgeInterfaceList) :
    (ifc.modifyGroup g f).plane = ifc.plane :=
  map_modify_of_eq _ f (fun grp => Prod.ext (ha grp) (hb grp)) ifc.groupList g

/-- A slot update acts on the plane through its image on activity and subscribers. -/
theorem Interface.plane_modifyGroup_comm (ifc : Interface) (g : Nat) (f : Group → Group)
    (f' : Bool × List BridgeHandle → Bool × List BridgeHandle)
    (hf : ∀ grp, ((f grp).active, (f grp).bridgeInterfaceList) =
      f' (grp.active, grp.bridgeInterfaceList)) :
    (ifc.modifyGroup g f).plane = ifc.plane.modify f' g :=
  map_modify_comm _ f f' hf ifc.groupList g

/-- `*_interface_find_group` writes only an address and the count. -/
theorem plane_of_interfaceFindGroup {isLinkScope : Nat → Bool} {ifc ifc' : Interface}
    {a g : Nat} (h : interfaceFindGroup isLinkScope ifc a = some (ifc', g)) :
    ifc'.plane = ifc.plane := by
  have hs : (ifc.setAddr g a).plane = ifc.plane :=
    ifc.plane_modifyGroup g (fun _ => rfl) fun _ => rfl
  rcases interfaceFindGroup_eq_some h with ⟨rfl | rfl, -⟩ | ⟨-, -, rfl⟩
  · rfl
  · exact hs
  · exact hs

/-- What `*_join_common` writes into the table: the slot becomes active. -/
theorem joinActivateAt_plane (bl : List BridgeInstance) (ifc : Interface) (g : Nat) :
    (joinActivateAt bl ifc g).2.plane =
      if (ifc.group g).active then ifc.plane else ifc.plane.modify (fun p => (true, p.2)) g := by
  unfold joinActivateAt
  split_ifs
  · rfl
  · exact ifc.plane_modifyGroup_comm g _ _ fun _ => rfl

/-- What `*_group_timeout` writes into the table: the slot becomes inactive. -/
theorem groupTimeoutAt_plane (bl : List BridgeInstance) (ifc : Interface) (g : Nat) :
    (groupTimeoutAt bl ifc g).2.plane = ifc.plane.modify (fun p => (false, p.2)) g := by
  have h : (ifc.modifyGroup g fun grp => { grp with active := false }).plane =
      ifc.plane.modify (fun p => (false, p.2)) g :=
    ifc.plane_modifyGroup_comm g _ _ fun _ => rfl
  dsimp only [groupTimeoutAt]
  split <;> exact h

/-- `*_join_common` reads only the plane of the table. -/
theorem joinActivateAt_congr (bl : List BridgeInstance) {a b : Interface} (h : a.plane = b.plane)
    (g : Nat) : (joinActivateAt bl a g).1 = (joinActivateAt bl b g).1 ∧
      (joinActivateAt bl a g).2.plane = (joinActivateAt bl b g).2.plane := by
  obtain ⟨ha, hb⟩ := Interface.group_of_plane h g
  rw [joinActivateAt_bridgeList, joinActivateAt_bridgeList, joinActivateAt_plane,
    joinActivateAt_plane, ha, hb, h]
  exact ⟨rfl, rfl⟩

/-- `*_group_timeout` reads only the plane of the table. -/
theorem groupTimeoutAt_congr (bl : List BridgeInstance) {a b : Interface} (h : a.plane = b.plane)
    (g : Nat) : (groupTimeoutAt bl a g).1 = (groupTimeoutAt bl b g).1 ∧
      (groupTimeoutAt bl a g).2.plane = (groupTimeoutAt bl b g).2.plane := by
  rw [groupTimeoutAt_bridgeList, groupTimeoutAt_bridgeList, groupTimeoutAt_plane,
    groupTimeoutAt_plane, (Interface.group_of_plane h g).2, h]
  exact ⟨rfl, rfl⟩

/-! ### Views and matched steps -/

/-- What the data plane depends on in a thread's state: the bridge list and the planes. -/
def Sys.view (s : Sys) : List BridgeInstance × List (List (Bool × List BridgeHandle)) :=
  (s.bridgeList, planes s.interfaceList)

/-- What the data plane depends on in a world, with the tables of family `fam`. -/
def World.view (w : World) (fam : Family) :
    List BridgeInstance × List (List (Bool × List BridgeHandle)) :=
  (w.bridgeList, planes (w.tables fam))

/-- A join or an expiry of family `fam`. -/
inductive FamStep (fam : Family) : World → World → Prop
  | join (w : World) (k g : Nat) :
      FamStep fam w (w.update fam k (joinActivateAt w.bridgeList ((w.tables fam).getD k default) g))
  | timeout (w : World) (k g : Nat) :
      FamStep fam w
        (w.update fam k (groupTimeoutAt w.bridgeList ((w.tables fam).getD k default) g))

/-- Every world that shows a thread of family `fam` in state `s` reaches, by joins and expiries
of that family, a world that shows it in state `s'`. -/
def Matches (fam : Family) (s s' : Sys) : Prop :=
  ∀ w : World, w.view fam = s.view →
    ∃ w', Relation.ReflTransGen (FamStep fam) w w' ∧ w'.view fam = s'.view

namespace Matches

variable {fam : Family} {s s₁ s₂ : Sys}

theorem of_view (h : s₁.view = s.view) : Matches fam s s₁ := fun w hw =>
  ⟨w, .refl, hw.trans h.symm⟩

theorem trans (h₁ : Matches fam s s₁) (h₂ : Matches fam s₁ s₂) : Matches fam s s₂ := fun w hw =>
  let ⟨w₁, hr₁, hw₁⟩ := h₁ w hw
  let ⟨w₂, hr₂, hw₂⟩ := h₂ w₁ hw₁
  ⟨w₂, hr₁.trans hr₂, hw₂⟩

/-- A call-out on slot `g` of interface `i` that reads and writes only planes, and that the
world takes as a step of family `fam`. -/
theorem callOut (c : List BridgeInstance → Interface → Nat → List BridgeInstance × Interface)
    (hc : ∀ bl {a b : Interface}, a.plane = b.plane → ∀ g,
      (c bl a g).1 = (c bl b g).1 ∧ (c bl a g).2.plane = (c bl b g).2.plane)
    (hstep : ∀ w k g, FamStep fam w
      (w.update fam k (c w.bridgeList ((w.tables fam).getD k default) g)))
    (s : Sys) (i g : Nat) :
    Matches fam s ({ s with bridgeList := (c s.bridgeList (s.iface i) g).1 }.setIface i
      (c s.bridgeList (s.iface i) g).2) := by
  intro w hw
  obtain ⟨hbl, hpl⟩ := Prod.mk.inj hw
  obtain ⟨h₁, h₂⟩ := hc s.bridgeList (plane_getD_of_planes hpl i) g
  refine ⟨_, .single (hstep w i g), Prod.ext ?_ ?_⟩
  · exact (congrArg (fun bl => (c bl _ g).1) hbl).trans h₁
  · simp only [World.view, Sys.view, World.update, if_pos, Sys.setIface_eq, Sys.modifyIface,
      planes_modify_const, hpl, hbl, Sys.iface]
    rw [h₂]

theorem join (s : Sys) (i g : Nat) :
    Matches fam s ({ s with bridgeList := (joinActivateAt s.bridgeList (s.iface i) g).1 }.setIface i
      (joinActivateAt s.bridgeList (s.iface i) g).2) :=
  callOut joinActivateAt joinActivateAt_congr (fun w k g => .join w k g) s i g

theorem timeout (s : Sys) (i g : Nat) :
    Matches fam s ({ s with bridgeList := (groupTimeoutAt s.bridgeList (s.iface i) g).1 }.setIface i
      (groupTimeoutAt s.bridgeList (s.iface i) g).2) :=
  callOut groupTimeoutAt groupTimeoutAt_congr (fun w k g => .timeout w k g) s i g

end Matches

/-! ### What a handler does to the view -/

namespace Sys

variable (s : Sys)

@[simp] theorem view_addTimer (m : Nat) (k : TimerKey) : (s.addTimer m k).view = s.view := by
  simp [view]

@[simp] theorem view_delTimer (k : TimerKey) : (s.delTimer k).view = s.view := rfl

@[simp] theorem view_inject (p : Injected) : (s.inject p).view = s.view := rfl

/-- An update of an interface outside its table. -/
@[simp] theorem view_modifyIface (i : Nat) (f : Interface → Interface)
    (h : ∀ ifc, (f ifc).groupList = ifc.groupList) : (s.modifyIface i f).view = s.view :=
  Prod.ext rfl (map_modify_of_eq _ f (fun ifc => by simp only [Interface.plane, h]) _ _)

/-- An update of a slot's fields other than its activity and subscribers. -/
@[simp] theorem view_modifyIface_modifyGroup (i g : Nat) {f : Group → Group}
    (ha : ∀ grp, (f grp).active = grp.active)
    (hb : ∀ grp, (f grp).bridgeInterfaceList = grp.bridgeInterfaceList) :
    (s.modifyIface i (·.modifyGroup g f)).view = s.view :=
  Prod.ext rfl (map_modify_of_eq _ _ (fun ifc => ifc.plane_modifyGroup g ha hb) _ _)

/-- Interface `i` replaced by the table `*_interface_find_group` returns. -/
theorem view_setFound {L : Nat → Bool} {i a : Nat} {ifc : Interface} {g : Nat}
    (h : interfaceFindGroup L (s.iface i) a = some (ifc, g)) :
    (s.modifyIface i fun _ => ifc).view = s.view :=
  Prod.ext rfl (map_modify_of_getD _ _ default _ _ fun _ => plane_of_interfaceFindGroup h)

end Sys

theorem view_sendMrdAdvertisement (s : Sys) (i rand : Nat) :
    (sendMrdAdvertisement s i rand).view = s.view := by
  dsimp only [sendMrdAdvertisement]; split <;> simp

theorem view_sendGeneralQuery (s : Sys) (i : Nat) : (sendGeneralQuery s i).view = s.view := by
  dsimp only [sendGeneralQuery]; split <;> simp

theorem view_sendGroupSpecificQuery (P : Proto) (s : Sys) (i g : Nat) :
    (sendGroupSpecificQuery P s i g).view = s.view := by
  dsimp only [sendGroupSpecificQuery]; split <;> simp

theorem view_activateQuerierMode (P : Proto) (s : Sys) (i : Nat) :
    (activateQuerierMode P s i).view = s.view := by
  simp [activateQuerierMode, view_sendGeneralQuery]

theorem view_querierTimeout (P : Proto) (s : Sys) (i : Nat) :
    (querierTimeout P s i).view = s.view := by
  unfold querierTimeout; split <;> simp [view_activateQuerierMode]

theorem view_handleMrdSolicitation (s : Sys) (i rand : Nat) :
    (handleMrdSolicitation s i rand).view = s.view := by
  simp [handleMrdSolicitation, view_sendMrdAdvertisement]

theorem view_electQuerier (P : Proto) (s : Sys) (i src : Nat) (q : Query) {s' : Sys}
    (h : electQuerier P s i src q = some s') : s'.view = s.view := by
  dsimp only [electQuerier] at h
  split_ifs at h <;> cases h <;> simp

theorem view_recordQuerier (P : Proto) (s : Sys) (i : Nat) (q : Query) :
    (recordQuerier P s i q).view = s.view := by
  dsimp only [recordQuerier]; split <;> simp

theorem view_queryGroup (P : Proto) (s : Sys) (i a : Nat) :
    (queryGroup P s i a).view = s.view := by
  unfold queryGroup
  split
  · rfl
  · rename_i ifc g hfind
    have := s.view_setFound hfind
    dsimp only
    split <;> simpa

theorem view_handleQuery (P : Proto) (s : Sys) (i src : Nat) (q : Query) :
    (handleQuery P s i src q).view = s.view := by
  unfold handleQuery
  split
  · rfl
  · rename_i s' he
    have h₁ := (view_recordQuerier P s' i q).trans (view_electQuerier P s i src q he)
    dsimp only
    split_ifs
    exacts [h₁, h₁, (view_queryGroup P _ i _).trans h₁]

theorem view_leaveAccept (P : Proto) (s : Sys) (i g : Nat) :
    (leaveAccept P s i g).view = s.view := by
  simp [leaveAccept, view_sendGroupSpecificQuery]

theorem view_v1HostTimeout (s : Sys) (i g : Nat) : (v1HostTimeout s i g).view = s.view := by
  simp [v1HostTimeout]

theorem view_igmpLeaveCommon (s : Sys) (i g : Nat) : (igmpLeaveCommon s i g).view = s.view := by
  unfold igmpLeaveCommon; split_ifs <;> simp [view_leaveAccept]

theorem view_mldLeaveCommon (s : Sys) (i g : Nat) : (mldLeaveCommon s i g).view = s.view := by
  unfold mldLeaveCommon; split_ifs <;> simp [view_leaveAccept]

theorem view_startInterface (P : Proto) (s : Sys) (i rand : Nat) :
    (startInterface P s i rand).view = s.view := by
  dsimp only [startInterface]
  split_ifs <;> simp [view_sendMrdAdvertisement, view_activateQuerierMode]

/-- Start-up changes neither the bridge list nor the planes. -/
theorem view_start (P : Proto) (s : Sys) (rands : Nat → Nat) : (start P s rands).view = s.view := by
  unfold start
  generalize List.range _ = l
  induction l generalizing s with
  | nil => rfl
  | cons i l ih => rw [List.foldl_cons, ih, view_startInterface]

/-! ### Every event is matched -/

namespace Matches

variable {fam : Family}

theorem joinCommon (P : Proto) (s : Sys) (i g : Nat) :
    Matches fam s (McastBridge.joinCommon P s i g) := by
  dsimp only [McastBridge.joinCommon]
  refine (of_view ?_).trans ((join _ i g).trans (of_view (Sys.view_addTimer _ _ _)))
  split <;> rfl

theorem groupTimeout (s : Sys) (i g : Nat) : Matches fam s (McastBridge.groupTimeout s i g) :=
  timeout s i g

/-- The group-record loop, given a leave that is matched. -/
theorem groupRecords (P : Proto) (leave : Sys → Nat → Nat → Sys) (i : Nat)
    (hleave : ∀ s g, Matches fam s (leave s i g)) :
    ∀ (m : Nat) (buf : List UInt8) (s : Sys),
      Matches fam s (McastBridge.groupRecords P leave s i m buf)
  | 0, _, _ => of_view rfl
  | m + 1, buf, s => by
      unfold McastBridge.groupRecords
      split
      · exact of_view rfl
      · dsimp only
        split
        · exact of_view rfl
        · split
          · exact groupRecords P leave i hleave m _ s
          · rename_i ifc g hfind
            have h₁ : Matches fam s (s.setIface i ifc) := of_view (s.view_setFound hfind)
            have hjoin := fun b => h₁.trans
              ((joinCommon P _ i g).trans (groupRecords P leave i hleave m b _))
            have hlv := fun b => h₁.trans ((hleave _ g).trans (groupRecords P leave i hleave m b _))
            split <;> (try split) <;> first | exact h₁ | exact hjoin _ | exact hlv _

theorem handleIgmpV1Report (s : Sys) (i : Nat) (buf : List UInt8) :
    Matches fam s (McastBridge.handleIgmpV1Report s i buf) := by
  unfold McastBridge.handleIgmpV1Report
  split
  · exact of_view rfl
  · split
    · exact of_view rfl
    · rename_i ifc g hfind
      refine (of_view (s.view_setFound hfind)).trans
        ((of_view ?_).trans (joinCommon igmpProto _ i g))
      simp only [Sys.view_addTimer]
      split <;> simp

theorem igmpReceive (s : Sys) (i src : Nat) (buf : List UInt8) (rand : Nat) :
    Matches fam s (McastBridge.igmpReceive s i src buf rand) := by
  unfold McastBridge.igmpReceive
  split
  · exact of_view rfl
  · split
    · unfold handleIgmpQuery
      split
      · exact of_view rfl
      · exact of_view (view_handleQuery _ s i src _)
    · exact handleIgmpV1Report s i buf
    · unfold McastBridge.handleIgmpV2Report
      split
      · exact of_view rfl
      · split
        · exact of_view rfl
        · rename_i ifc g hfind
          exact (of_view (s.view_setFound hfind)).trans (joinCommon igmpProto _ i g)
    · unfold handleIgmpV2Leave
      split
      · exact of_view rfl
      · split
        · exact of_view rfl
        · rename_i ifc g hfind
          exact of_view ((view_igmpLeaveCommon _ i g).trans (s.view_setFound hfind))
    · unfold handleIgmpV3Report
      split
      · exact of_view rfl
      · exact groupRecords _ _ i (fun s g => of_view (view_igmpLeaveCommon s i g)) _ _ s
    · exact of_view (view_handleMrdSolicitation s i rand)
    · exact of_view rfl

theorem igmpRunTimer (s : Sys) (k : TimerKey) (rand : Nat) :
    Matches fam s (McastBridge.igmpRunTimer s k rand) := by
  cases k with
  | sendMrdAdvertisement i => exact of_view (view_sendMrdAdvertisement s i rand)
  | sendGeneralQuery i => exact of_view (view_sendGeneralQuery s i)
  | querierTimeout i => exact of_view (view_querierTimeout igmpProto s i)
  | sendGroupSpecificQuery i g => exact of_view (view_sendGroupSpecificQuery igmpProto s i g)
  | groupTimeout i g => exact groupTimeout s i g
  | v1HostTimeout i g => exact of_view (view_v1HostTimeout s i g)

/-- **Every event of the IGMP thread is matched by joins and expiries.** -/
theorem igmpStep {s s' : Sys} (h : Step McastBridge.igmpReceive McastBridge.igmpRunTimer s s') :
    Matches fam s s' := by
  cases h with
  | receive i src buf now rand _ _ =>
      exact (of_view rfl).trans (igmpReceive { s with clock := now } i src buf rand)
  | expire t rest now rand _ _ _ =>
      exact (of_view rfl).trans
        (igmpRunTimer { s with clock := now, evm := { s.evm with timerList := rest } } t.key rand)

theorem mldReceive (s : Sys) (i src : Nat) (buf : List UInt8) (rand : Nat) :
    Matches fam s (McastBridge.mldReceive s i src buf rand) := by
  unfold McastBridge.mldReceive
  split
  · exact of_view rfl
  · split
    · exact of_view rfl
    · split
      · exact of_view (view_handleQuery _ s i src _)
      · unfold handleMldV1Report
        split
        · exact of_view rfl
        · rename_i ifc g hfind
          exact (of_view (s.view_setFound hfind)).trans (joinCommon mldProto _ i g)
      · unfold handleMldV1Leave
        split
        · exact of_view rfl
        · rename_i ifc g hfind
          exact of_view ((view_mldLeaveCommon _ i g).trans (s.view_setFound hfind))
      · split
        · exact of_view rfl
        · exact groupRecords _ _ i (fun s g => of_view (view_mldLeaveCommon s i g)) _ _ s
      · exact of_view (view_handleMrdSolicitation s i rand)
      · exact of_view rfl

theorem mldRunTimer (s : Sys) (k : TimerKey) (rand : Nat) :
    Matches fam s (McastBridge.mldRunTimer s k rand) := by
  cases k with
  | sendMrdAdvertisement i => exact of_view (view_sendMrdAdvertisement s i rand)
  | sendGeneralQuery i => exact of_view (view_sendGeneralQuery s i)
  | querierTimeout i => exact of_view (view_querierTimeout mldProto s i)
  | sendGroupSpecificQuery i g => exact of_view (view_sendGroupSpecificQuery mldProto s i g)
  | groupTimeout i g => exact groupTimeout s i g
  | v1HostTimeout i g => exact of_view rfl

/-- **Every event of the MLD thread is matched by joins and expiries.** -/
theorem mldStep {s s' : Sys} (h : Step McastBridge.mldReceive McastBridge.mldRunTimer s s') :
    Matches fam s s' := by
  cases h with
  | receive i src buf now rand _ _ =>
      exact (of_view rfl).trans (mldReceive { s with clock := now } i src buf rand)
  | expire t rest now rand _ _ _ =>
      exact (of_view rfl).trans
        (mldRunTimer { s with clock := now, evm := { s.evm with timerList := rest } } t.key rand)

end Matches

/-! ### Joins and expiries of one family -/

namespace FamStep

variable {fam : Family} {w w' : World}

theorem worldStep (h : FamStep fam w w') : WorldStep w w' := by
  cases h with
  | join k g => exact .join w fam k g
  | timeout k g => exact .timeout w fam k g

/-- A step of one family leaves the other family's tables alone. -/
theorem tables_of_ne (h : FamStep fam w w') {fam' : Family} (hf : fam' ≠ fam) :
    w'.tables fam' = w.tables fam' := by
  cases h <;> simp [World.update, hf]

end FamStep

theorem WorldReachable.famSteps {n : Nat} {bl : List BridgeInstance} {fam : Family} {w w' : World}
    (hw : WorldReachable n bl w) (h : Relation.ReflTransGen (FamStep fam) w w') :
    WorldReachable n bl w' := by
  induction h with
  | refl => exact hw
  | tail _ hs ih => exact ih.step hs.worldStep

theorem tables_of_famSteps {fam fam' : Family} {w w' : World}
    (h : Relation.ReflTransGen (FamStep fam) w w') (hf : fam' ≠ fam) :
    w'.tables fam' = w.tables fam' := by
  induction h with
  | refl => rfl
  | tail _ hs ih => exact (hs.tables_of_ne hf).trans ih

/-! ### The daemon -/

/-- The daemon after start-up: the shared bridge list and the states of the IGMP and MLD
threads.  The copy of the list in a thread's state is replaced by the shared one when the thread
handles an event. -/
structure Daemon where
  bridgeList : List BridgeInstance
  igmp : Sys
  mld : Sys

namespace Daemon

/-- The IGMP thread as it handles its next event. -/
def igmpThread (d : Daemon) : Sys := { d.igmp with bridgeList := d.bridgeList }

/-- The MLD thread as it handles its next event. -/
def mldThread (d : Daemon) : Sys := { d.mld with bridgeList := d.bridgeList }

/-- The world `w` shows the daemon: the same bridge list, and the same planes in the IGMP and in
the MLD tables. -/
structure ShownBy (d : Daemon) (w : World) : Prop where
  igmp : w.view .inet = d.igmpThread.view
  mld : w.view .inet6 = d.mldThread.view

end Daemon

/-- An event of either thread, on the bridge list as the other thread left it. -/
inductive DaemonStep : Daemon → Daemon → Prop
  | igmp (d : Daemon) (s : Sys) : Step igmpReceive igmpRunTimer d.igmpThread s →
      DaemonStep d { d with bridgeList := s.bridgeList, igmp := s }
  | mld (d : Daemon) (s : Sys) : Step mldReceive mldRunTimer d.mldThread s →
      DaemonStep d { d with bridgeList := s.bridgeList, mld := s }

/-- The daemon as `main` starts it: `initialize_interfaces` on the configured bridges, then
`initialize_igmp`, `initialize_mld`, `start_igmp` and `start_mld`, each subsystem with its own
querier mode (`-I`, `-M`) and the common `non_configured_groups`. -/
def daemonStart (igmpMode mldMode : QuerierModeType) (nonConfiguredGroups : Nat)
    (bl : List BridgeInstance) (igmpNow mldNow : Nat) (igmpRands mldRands : Nat → Nat) :
    Daemon where
  bridgeList := initializeInterfaces bl
  igmp := igmpStart igmpMode nonConfiguredGroups bl igmpNow igmpRands
  mld := mldStart mldMode nonConfiguredGroups bl mldNow mldRands

/-- The states the daemon reaches from start-up, its two threads interleaved in any order. -/
inductive DaemonReachable (igmpMode mldMode : QuerierModeType) (nonConfiguredGroups : Nat)
    (bl : List BridgeInstance) : Daemon → Prop
  | start (igmpNow mldNow : Nat) (igmpRands mldRands : Nat → Nat) :
      DaemonReachable igmpMode mldMode nonConfiguredGroups bl
        (daemonStart igmpMode mldMode nonConfiguredGroups bl igmpNow mldNow igmpRands mldRands)
  | step {d d' : Daemon} : DaemonReachable igmpMode mldMode nonConfiguredGroups bl d →
      DaemonStep d d' → DaemonReachable igmpMode mldMode nonConfiguredGroups bl d'

/-- The world after start-up shows the daemon after start-up. -/
theorem Daemon.shownBy_start (igmpMode mldMode : QuerierModeType) (n : Nat)
    (bl : List BridgeInstance) (igmpNow mldNow : Nat) (igmpRands mldRands : Nat → Nat) :
    (daemonStart igmpMode mldMode n bl igmpNow mldNow igmpRands mldRands).ShownBy
      (World.initial n bl) where
  igmp := Prod.ext rfl (congrArg Prod.snd (view_start igmpProto (initializeSys igmpMode n
    (initializeInterfaces bl) (registerAll (·.ipv4Addr) .inet bl) igmpNow) igmpRands)).symm
  mld := Prod.ext rfl (congrArg Prod.snd (view_start mldProto (initializeSys mldMode n
    (initializeInterfaces bl) (registerAll (·.ipv6AddrLl) .inet6 bl) mldNow) mldRands)).symm

/-- An event of either thread is matched by the world. -/
theorem Daemon.ShownBy.step {d d' : Daemon} {w : World} (hw : d.ShownBy w)
    (hs : DaemonStep d d') :
    ∃ w', (Relation.ReflTransGen (FamStep .inet) w w' ∨
      Relation.ReflTransGen (FamStep .inet6) w w') ∧ d'.ShownBy w' := by
  cases hs with
  | igmp s hs =>
      obtain ⟨w', hr, hw'⟩ := Matches.igmpStep hs w hw.igmp
      have hbl : w'.bridgeList = s.bridgeList := congrArg Prod.fst hw'
      have hpl : planes (w.tables .inet6) = planes d.mld.interfaceList := congrArg Prod.snd hw.mld
      refine ⟨w', .inl hr, hw', Prod.ext hbl ?_⟩
      exact (congrArg planes (tables_of_famSteps hr (by decide))).trans hpl
  | mld s hs =>
      obtain ⟨w', hr, hw'⟩ := Matches.mldStep hs w hw.mld
      have hbl : w'.bridgeList = s.bridgeList := congrArg Prod.fst hw'
      have hpl : planes (w.tables .inet) = planes d.igmp.interfaceList := congrArg Prod.snd hw.igmp
      refine ⟨w', .inr hr, Prod.ext hbl ?_, hw'⟩
      exact (congrArg planes (tables_of_famSteps hr (by decide))).trans hpl

/-- **The world of joins and expiries simulates the daemon.**  Every state the daemon reaches
from start-up, in any interleaving of its IGMP and MLD threads and whatever the frames they
receive, is shown by a world reached from start-up by joins and expiries: the same bridge list,
and in every slot of every table the same activity and the same subscribers. -/
theorem daemon_refines_world (igmpMode mldMode : QuerierModeType) (nonConfiguredGroups : Nat)
    (bl : List BridgeInstance) (d : Daemon)
    (hd : DaemonReachable igmpMode mldMode nonConfiguredGroups bl d) :
    ∃ w, WorldReachable nonConfiguredGroups bl w ∧ d.ShownBy w := by
  induction hd with
  | start igmpNow mldNow igmpRands mldRands =>
      exact ⟨_, .init, Daemon.shownBy_start _ _ _ _ igmpNow mldNow igmpRands mldRands⟩
  | step _ hs ih =>
      obtain ⟨w, hw, hsh⟩ := ih
      obtain ⟨w', hr | hr, hsh'⟩ := hsh.step hs <;> exact ⟨w', hw.famSteps hr, hsh'⟩

end McastBridge
