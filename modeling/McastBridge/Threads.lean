import McastBridge.Daemon
/-
**Each thread of the daemon runs as it would alone.**

The IGMP and the MLD thread share `bridge_list`, and each writes it: `*_join_common` and
`*_group_timeout` set the flags of the outbound interfaces they reach.  Neither thread reads the
list for anything but those writes: what a handler does to its own state (the group tables, the
querier, the timers, the frames it sends) does not depend on the list, and a handler that does
not call out leaves the list as it found it.  So whatever the other thread has written between
two events, a thread takes the same steps it would take if it ran alone: every state of the
IGMP (MLD) thread in any interleaving is, but for the shared list, a state the IGMP (MLD)
subsystem reaches on its own from start-up, and every property proved of the subsystem's runs
holds of the thread inside the daemon.  The relation kept along a run is finer than that: a
call-out writes each bridge from that bridge alone, so two states whose lists agree on a set of
bridges still agree there after the same event (`McastBridge.Sys.AgreeOn`), which is what the
serialisability of the daemon rests on.

Main definitions:

* `McastBridge.Sys.withBridgeList` — a thread's state with the list as another thread left it;
* `McastBridge.Agree` — two bridge lists that hold the same bridges on a set of indices;
* `McastBridge.Sys.AgreeOn` — two states that differ at most in the bridge list, and there only
  outside a set of bridges.

Main results:

* `McastBridge.Agree.joinActivateAt`, `McastBridge.Agree.groupTimeoutAt` — the call-outs write
  each bridge from that bridge alone;
* `McastBridge.joinCommon_agreeOn`, `McastBridge.groupTimeout_agreeOn` — so the two call-outs, on
  states that agree on a set of bridges, leave states that agree there;
* `McastBridge.igmpReceive_agreeOn`, `McastBridge.mldReceive_agreeOn`,
  `McastBridge.igmpRunTimer_agreeOn`, `McastBridge.mldRunTimer_agreeOn` — so does every event;
* `McastBridge.Step.agreeOn`, `McastBridge.Event.apply_agreeOn` — a step from a state is matched
  by a step from any state that agrees with it;
* `McastBridge.daemon_threads_alone` — **each thread of a reachable daemon is, but for the
  shared list, in a state its subsystem reaches alone**.
-/

set_option relaxedAutoImplicit false
set_option autoImplicit false

namespace McastBridge

/-! ### A state with another bridge list -/

/-- The state `s` with the bridge list `bl`, as the other thread may have left it. -/
def Sys.withBridgeList (s : Sys) (bl : List BridgeInstance) : Sys := { s with bridgeList := bl }

namespace Sys

variable (s : Sys) (bl : List BridgeInstance)

@[simp] theorem update_bridgeList : ({ s with bridgeList := bl } : Sys) = s.withBridgeList bl :=
  rfl

@[simp] theorem withBridgeList_withBridgeList (bl' : List BridgeInstance) :
    (s.withBridgeList bl).withBridgeList bl' = s.withBridgeList bl' := rfl

@[simp] theorem bridgeList_withBridgeList : (s.withBridgeList bl).bridgeList = bl := rfl

@[simp] theorem withBridgeList_self : s.withBridgeList s.bridgeList = s := rfl

@[simp] theorem iface_withBridgeList (i : Nat) : (s.withBridgeList bl).iface i = s.iface i := rfl

@[simp] theorem querierMode_withBridgeList :
    (s.withBridgeList bl).querierMode = s.querierMode := rfl

@[simp] theorem inject_withBridgeList (p : Injected) :
    (s.withBridgeList bl).inject p = (s.inject p).withBridgeList bl := rfl

@[simp] theorem delTimer_withBridgeList (k : TimerKey) :
    (s.withBridgeList bl).delTimer k = (s.delTimer k).withBridgeList bl := rfl

@[simp] theorem modifyIface_withBridgeList (i : Nat) (f : Interface → Interface) :
    (s.withBridgeList bl).modifyIface i f = (s.modifyIface i f).withBridgeList bl := rfl

@[simp] theorem addTimer_withBridgeList (m : Nat) (k : TimerKey) :
    (s.withBridgeList bl).addTimer m k = (s.addTimer m k).withBridgeList bl := by
  dsimp only [addTimer, withBridgeList]
  cases evmAddTimer s.evm (Timespec.ofNs s.clock) m k <;> rfl

@[simp] theorem evm_withBridgeList : (s.withBridgeList bl).evm = s.evm := rfl

end Sys

/-! ### Lists that agree on a set of bridges -/

/-- `bl` and `bl'` hold the same bridge at every index in `S`. -/
def Agree (S : Nat → Prop) (bl bl' : List BridgeInstance) : Prop := ∀ b, S b → bl[b]? = bl'[b]?

namespace Agree

variable {S : Nat → Prop} {bl bl' : List BridgeInstance}

theorem refl (S : Nat → Prop) (bl : List BridgeInstance) : Agree S bl bl := fun _ _ => rfl

theorem trans {bl'' : List BridgeInstance} (h : Agree S bl bl') (h' : Agree S bl' bl'') :
    Agree S bl bl'' := fun b hb => (h b hb).trans (h' b hb)

/-- An update of one bridge's interfaces reads that bridge alone. -/
theorem modifyInterfaces (h : Agree S bl bl') (b : Nat)
    (f : List BridgeInterface → List BridgeInterface) :
    Agree S (McastBridge.modifyInterfaces bl b f) (McastBridge.modifyInterfaces bl' b f) :=
  fun c hc => by simp only [McastBridge.modifyInterfaces, List.getElem?_modify, h c hc]

theorem foldl (f : BridgeHandle → List BridgeInterface → List BridgeInterface) :
    ∀ (hs : List BridgeHandle) {bl bl' : List BridgeInstance}, Agree S bl bl' →
      Agree S (hs.foldl (fun bl x => McastBridge.modifyInterfaces bl x.bridgeIndex (f x)) bl)
        (hs.foldl (fun bl x => McastBridge.modifyInterfaces bl x.bridgeIndex (f x)) bl')
  | [], _, _, h => h
  | x :: hs, _, _, h => foldl f hs (h.modifyInterfaces x.bridgeIndex (f x))

theorem joinActivateAt (h : Agree S bl bl') (ifc : Interface) (g : Nat) :
    Agree S (McastBridge.joinActivateAt bl ifc g).1 (McastBridge.joinActivateAt bl' ifc g).1 := by
  simp only [joinActivateAt_bridgeList]
  split
  · exact h
  · exact foldl (fun x l => activateOutboundAt l x.index) _ h

theorem groupTimeoutAt (h : Agree S bl bl') (ifc : Interface) (g : Nat) :
    Agree S (McastBridge.groupTimeoutAt bl ifc g).1 (McastBridge.groupTimeoutAt bl' ifc g).1 := by
  simp only [groupTimeoutAt_bridgeList]
  exact foldl (fun x l => deactivateOutboundAt l x.index) _ h

end Agree

/-- `u` is `v` with another bridge list, one that holds `v`'s bridges on `S`. -/
def Sys.AgreeOn (S : Nat → Prop) (u v : Sys) : Prop :=
  ∃ bl, u = v.withBridgeList bl ∧ Agree S bl v.bridgeList

namespace Sys.AgreeOn

variable {S : Nat → Prop}

theorem withBridgeList (v : Sys) {bl : List BridgeInstance} (h : Agree S bl v.bridgeList) :
    (v.withBridgeList bl).AgreeOn S v := ⟨bl, rfl, h⟩

/-- A handler that keeps the list and reads nothing of it keeps states agreeing. -/
theorem map (H : Sys → Sys)
    (hH : ∀ t bl, H (t.withBridgeList bl) = (H t).withBridgeList bl) {u v : Sys} :
    u.AgreeOn S v → (H u).AgreeOn S (H v)
  | ⟨bl, h, ha⟩ =>
      have hv : (H v).bridgeList = v.bridgeList := by
        simpa using congrArg Sys.bridgeList (hH v v.bridgeList)
      ⟨bl, h ▸ hH v bl, hv ▸ ha⟩

end Sys.AgreeOn

/-! ### Handlers that keep the list -/

section Keep

variable (P : Proto) (t : Sys) (bl : List BridgeInstance)

theorem sendMrdAdvertisement_withBridgeList (i rand : Nat) :
    sendMrdAdvertisement (t.withBridgeList bl) i rand =
      (sendMrdAdvertisement t i rand).withBridgeList bl := by
  simp only [sendMrdAdvertisement, Sys.inject_withBridgeList, Sys.iface_withBridgeList]
  split_ifs <;> simp only [Sys.modifyIface_withBridgeList, Sys.addTimer_withBridgeList]

theorem sendGeneralQuery_withBridgeList (i : Nat) :
    sendGeneralQuery (t.withBridgeList bl) i = (sendGeneralQuery t i).withBridgeList bl := by
  simp only [sendGeneralQuery, Sys.inject_withBridgeList, Sys.iface_withBridgeList]
  split_ifs <;> simp only [Sys.modifyIface_withBridgeList, Sys.addTimer_withBridgeList]

theorem sendGroupSpecificQuery_withBridgeList (i g : Nat) :
    sendGroupSpecificQuery P (t.withBridgeList bl) i g =
      (sendGroupSpecificQuery P t i g).withBridgeList bl := by
  simp only [sendGroupSpecificQuery, Sys.inject_withBridgeList, Sys.iface_withBridgeList,
    Sys.group_eq, Sys.modifyGroup_eq, Sys.modifyIface_withBridgeList]
  split_ifs <;> simp only [Sys.iface_withBridgeList, Sys.addTimer_withBridgeList]

theorem activateQuerierMode_withBridgeList (i : Nat) :
    activateQuerierMode P (t.withBridgeList bl) i =
      (activateQuerierMode P t i).withBridgeList bl := by
  simp only [activateQuerierMode, Sys.modifyIface_withBridgeList, sendGeneralQuery_withBridgeList]

theorem querierTimeout_withBridgeList (i : Nat) :
    querierTimeout P (t.withBridgeList bl) i = (querierTimeout P t i).withBridgeList bl := by
  simp only [querierTimeout, Sys.querierMode_withBridgeList, activateQuerierMode_withBridgeList,
    Sys.modifyIface_withBridgeList]
  split_ifs <;> rfl

theorem handleMrdSolicitation_withBridgeList (i rand : Nat) :
    handleMrdSolicitation (t.withBridgeList bl) i rand =
      (handleMrdSolicitation t i rand).withBridgeList bl := by
  simp only [handleMrdSolicitation, Sys.delTimer_withBridgeList,
    sendMrdAdvertisement_withBridgeList]

theorem electQuerier_withBridgeList (i src : Nat) (q : Query) :
    electQuerier P (t.withBridgeList bl) i src q =
      (electQuerier P t i src q).map (·.withBridgeList bl) := by
  simp only [electQuerier, Sys.iface_withBridgeList, Sys.querierMode_withBridgeList]
  split_ifs <;> rfl

theorem recordQuerier_withBridgeList (i : Nat) (q : Query) :
    recordQuerier P (t.withBridgeList bl) i q = (recordQuerier P t i q).withBridgeList bl := by
  simp only [recordQuerier, Sys.modifyIface_withBridgeList]
  split_ifs <;> simp only [Sys.delTimer_withBridgeList, Sys.iface_withBridgeList,
    Sys.addTimer_withBridgeList]

theorem queryGroup_withBridgeList (i addr : Nat) :
    queryGroup P (t.withBridgeList bl) i addr = (queryGroup P t i addr).withBridgeList bl := by
  simp only [queryGroup, Sys.iface_withBridgeList]
  split
  · rfl
  · simp only [Sys.setIface_eq, Sys.modifyIface_withBridgeList, Sys.group_eq,
      Sys.iface_withBridgeList]
    split_ifs <;> simp only [Sys.delTimer_withBridgeList, Sys.addTimer_withBridgeList,
      Sys.iface_withBridgeList]

theorem handleQuery_withBridgeList (i src : Nat) (q : Query) :
    handleQuery P (t.withBridgeList bl) i src q = (handleQuery P t i src q).withBridgeList bl := by
  simp only [handleQuery, electQuerier_withBridgeList]
  cases electQuerier P t i src q with
  | none => rfl
  | some s =>
      simp only [Option.map_some', recordQuerier_withBridgeList]
      split_ifs <;> simp only [queryGroup_withBridgeList]

theorem leaveAccept_withBridgeList (i g : Nat) :
    leaveAccept P (t.withBridgeList bl) i g = (leaveAccept P t i g).withBridgeList bl := by
  simp only [leaveAccept, Sys.iface_withBridgeList, Sys.delTimer_withBridgeList,
    Sys.addTimer_withBridgeList, Sys.modifyGroup_eq, Sys.modifyIface_withBridgeList,
    sendGroupSpecificQuery_withBridgeList]

theorem igmpLeaveCommon_withBridgeList (i g : Nat) :
    igmpLeaveCommon (t.withBridgeList bl) i g = (igmpLeaveCommon t i g).withBridgeList bl := by
  simp only [igmpLeaveCommon, Sys.iface_withBridgeList, Sys.group_eq]
  split_ifs <;> simp only [leaveAccept_withBridgeList]

theorem mldLeaveCommon_withBridgeList (i g : Nat) :
    mldLeaveCommon (t.withBridgeList bl) i g = (mldLeaveCommon t i g).withBridgeList bl := by
  simp only [mldLeaveCommon, Sys.iface_withBridgeList, Sys.group_eq]
  split_ifs <;> simp only [leaveAccept_withBridgeList]

end Keep

/-! ### The call-outs -/

section CallOut

variable (P : Proto) (t : Sys) (bl : List BridgeInstance)

/-- `*_join_common` writes the list as `joinActivateAt` does, and nothing else of it shows. -/
theorem joinCommon_withBridgeList (i g : Nat) :
    joinCommon P (t.withBridgeList bl) i g =
      (joinCommon P t i g).withBridgeList (joinActivateAt bl (t.iface i) g).1 := by
  simp only [joinCommon, Sys.group_eq, Sys.iface_withBridgeList]
  split_ifs with h <;> simp only [joinActivateAt, h, if_true, if_false, Bool.false_eq_true,
    Sys.update_bridgeList, Sys.withBridgeList_withBridgeList, Sys.delTimer_withBridgeList,
    Sys.bridgeList_withBridgeList, Sys.iface_withBridgeList, Sys.iface_delTimer,
    Sys.bridgeList_delTimer, Sys.group_eq, Sys.setIface_eq, Sys.modifyIface_withBridgeList,
    Sys.addTimer_withBridgeList]

/-- `*_group_timeout` writes the list as `groupTimeoutAt` does, and nothing else of it shows. -/
theorem groupTimeout_withBridgeList (i g : Nat) :
    groupTimeout (t.withBridgeList bl) i g =
      (groupTimeout t i g).withBridgeList (groupTimeoutAt bl (t.iface i) g).1 := by
  simp only [groupTimeout, groupTimeoutAt, Sys.iface_withBridgeList,
    Sys.bridgeList_withBridgeList]
  split_ifs <;> simp only [Sys.update_bridgeList, Sys.withBridgeList_withBridgeList,
    Sys.setIface_eq, Sys.modifyIface_withBridgeList]

theorem joinCommon_bridgeList (i g : Nat) :
    (joinCommon P t i g).bridgeList = (joinActivateAt t.bridgeList (t.iface i) g).1 :=
  congrArg Sys.bridgeList (joinCommon_withBridgeList P t t.bridgeList i g)

theorem groupTimeout_bridgeList (i g : Nat) :
    (groupTimeout t i g).bridgeList = (groupTimeoutAt t.bridgeList (t.iface i) g).1 :=
  congrArg Sys.bridgeList (groupTimeout_withBridgeList t t.bridgeList i g)

variable {S : Nat → Prop} {u v : Sys}

theorem joinCommon_agreeOn (h : u.AgreeOn S v) (i g : Nat) :
    (joinCommon P u i g).AgreeOn S (joinCommon P v i g) := by
  obtain ⟨bl, rfl, ha⟩ := h
  refine ⟨_, joinCommon_withBridgeList P v bl i g, ?_⟩
  rw [joinCommon_bridgeList]
  exact ha.joinActivateAt _ g

theorem groupTimeout_agreeOn (h : u.AgreeOn S v) (i g : Nat) :
    (groupTimeout u i g).AgreeOn S (groupTimeout v i g) := by
  obtain ⟨bl, rfl, ha⟩ := h
  refine ⟨_, groupTimeout_withBridgeList v bl i g, ?_⟩
  rw [groupTimeout_bridgeList]
  exact ha.groupTimeoutAt _ g

/-- The group-record loop, whose joins call out and whose leaves keep the list. -/
theorem groupRecords_agreeOn (leave : Sys → Nat → Nat → Sys)
    (hl : ∀ t bl i g, leave (t.withBridgeList bl) i g = (leave t i g).withBridgeList bl)
    (i : Nat) : ∀ (n : Nat) (buf : List UInt8) {u v : Sys}, u.AgreeOn S v →
      (groupRecords P leave u i n buf).AgreeOn S (groupRecords P leave v i n buf)
  | 0, _, _, _, h => h
  | n + 1, buf, _, v, ⟨bl, rfl, ha⟩ => by
      have hv := Sys.AgreeOn.withBridgeList v ha
      simp only [groupRecords, Sys.iface_withBridgeList]
      split
      · exact hv
      split
      · exact hv
      split
      · exact groupRecords_agreeOn leave hl i n _ hv
      rename_i ifc g _
      simp only [Sys.setIface_eq, Sys.modifyIface_withBridgeList]
      -- each record type joins, leaves, or ends the report
      generalize buf.drop (P.recordHeaderLen + rd16 buf 2 * P.addrLen + rd8 buf 1 * 4) = rest
      have hv := Sys.AgreeOn.withBridgeList (v.modifyIface i fun _ => ifc) ha
      have hj := groupRecords_agreeOn leave hl i n rest (joinCommon_agreeOn P hv i g)
      have hl := groupRecords_agreeOn leave hl i n rest
        (.map (leave · i g) (fun t bl => hl t bl i g) hv)
      split <;> (try split) <;> assumption

end CallOut

/-! ### Events -/

section Events

variable {S : Nat → Prop} {u v : Sys}

theorem handleIgmpV1Report_agreeOn (h : u.AgreeOn S v) (i : Nat) (buf : List UInt8) :
    (handleIgmpV1Report u i buf).AgreeOn S (handleIgmpV1Report v i buf) := by
  obtain ⟨bl, rfl, ha⟩ := h
  simp only [handleIgmpV1Report, Sys.iface_withBridgeList]
  split
  · exact .withBridgeList v ha
  · split
    · exact .withBridgeList v ha
    · refine joinCommon_agreeOn igmpProto ?_ i _
      simp only [Sys.setIface_eq, Sys.modifyIface_withBridgeList, Sys.group_eq,
        Sys.iface_withBridgeList, Sys.modifyGroup_eq]
      split_ifs <;> simp only [Sys.delTimer_withBridgeList, Sys.modifyIface_withBridgeList,
        Sys.iface_withBridgeList, Sys.addTimer_withBridgeList] <;>
        exact .withBridgeList _ (by simpa using ha)

/-- A handler that finds the group and joins it. -/
theorem findJoin_agreeOn (P : Proto) (h : u.AgreeOn S v) (i a : Nat) :
    (match interfaceFindGroup P.isLinkScope (u.iface i) a with
      | none => u
      | some (ifc, g) => joinCommon P (u.setIface i ifc) i g).AgreeOn S
    (match interfaceFindGroup P.isLinkScope (v.iface i) a with
      | none => v
      | some (ifc, g) => joinCommon P (v.setIface i ifc) i g) := by
  obtain ⟨bl, rfl, ha⟩ := h
  simp only [Sys.iface_withBridgeList]
  split
  · exact .withBridgeList v ha
  · simp only [Sys.setIface_eq, Sys.modifyIface_withBridgeList]
    refine joinCommon_agreeOn P ?_ i _
    exact .withBridgeList _ ha

/-- A handler that finds the group and leaves it. -/
theorem findLeave_agreeOn (P : Proto) (leave : Sys → Nat → Nat → Sys)
    (hl : ∀ t bl i g, leave (t.withBridgeList bl) i g = (leave t i g).withBridgeList bl)
    (h : u.AgreeOn S v) (i a : Nat) :
    (match interfaceFindGroup P.isLinkScope (u.iface i) a with
      | none => u
      | some (ifc, g) => leave (u.setIface i ifc) i g).AgreeOn S
    (match interfaceFindGroup P.isLinkScope (v.iface i) a with
      | none => v
      | some (ifc, g) => leave (v.setIface i ifc) i g) := by
  obtain ⟨bl, rfl, ha⟩ := h
  simp only [Sys.iface_withBridgeList]
  split
  · exact .withBridgeList v ha
  · simp only [Sys.setIface_eq, Sys.modifyIface_withBridgeList]
    refine .map (leave · i _) (fun t bl => hl t bl i _) ?_
    exact .withBridgeList _ ha

theorem igmpReceive_agreeOn (h : u.AgreeOn S v) (i src : Nat) (buf : List UInt8) (rand : Nat) :
    (igmpReceive u i src buf rand).AgreeOn S (igmpReceive v i src buf rand) := by
  obtain ⟨bl, rfl, ha⟩ := h
  have hv := Sys.AgreeOn.withBridgeList v ha
  simp only [igmpReceive, Sys.iface_withBridgeList]
  split
  · exact hv
  split
  · simp only [handleIgmpQuery]
    split
    · exact hv
    · exact .map (handleQuery igmpProto · i src _)
        (fun t bl => handleQuery_withBridgeList igmpProto t bl i src _) hv
  · exact handleIgmpV1Report_agreeOn hv i buf
  · simp only [handleIgmpV2Report]
    split
    · exact hv
    · exact findJoin_agreeOn igmpProto hv i _
  · simp only [handleIgmpV2Leave]
    split
    · exact hv
    · exact findLeave_agreeOn igmpProto igmpLeaveCommon igmpLeaveCommon_withBridgeList hv i _
  · simp only [handleIgmpV3Report]
    split
    · exact hv
    · exact groupRecords_agreeOn igmpProto igmpLeaveCommon igmpLeaveCommon_withBridgeList i _ _ hv
  · exact .map (handleMrdSolicitation · i rand)
      (fun t bl => handleMrdSolicitation_withBridgeList t bl i rand) hv
  · exact hv

theorem mldReceive_agreeOn (h : u.AgreeOn S v) (i src : Nat) (buf : List UInt8) (rand : Nat) :
    (mldReceive u i src buf rand).AgreeOn S (mldReceive v i src buf rand) := by
  obtain ⟨bl, rfl, ha⟩ := h
  have hv := Sys.AgreeOn.withBridgeList v ha
  simp only [mldReceive, Sys.iface_withBridgeList]
  split
  · exact hv
  split
  · exact hv
  split
  · exact .map (handleQuery mldProto · i src _)
      (fun t bl => handleQuery_withBridgeList mldProto t bl i src _) hv
  · exact findJoin_agreeOn mldProto hv i _
  · exact findLeave_agreeOn mldProto mldLeaveCommon mldLeaveCommon_withBridgeList hv i _
  · split
    · exact hv
    · exact groupRecords_agreeOn mldProto mldLeaveCommon mldLeaveCommon_withBridgeList i _ _ hv
  · exact .map (handleMrdSolicitation · i rand)
      (fun t bl => handleMrdSolicitation_withBridgeList t bl i rand) hv
  · exact hv

/-- The timer callbacks, the v1-host timeout `v1` being IGMP's or MLD's. -/
theorem runTimer_agreeOn (P : Proto) (v1 : Sys → Nat → Nat → Sys)
    (hv1 : ∀ t bl i g, v1 (t.withBridgeList bl) i g = (v1 t i g).withBridgeList bl)
    (h : u.AgreeOn S v) (k : TimerKey) (rand : Nat) :
    (match k with
      | .sendMrdAdvertisement i => sendMrdAdvertisement u i rand
      | .sendGeneralQuery i => sendGeneralQuery u i
      | .querierTimeout i => querierTimeout P u i
      | .sendGroupSpecificQuery i g => sendGroupSpecificQuery P u i g
      | .groupTimeout i g => groupTimeout u i g
      | .v1HostTimeout i g => v1 u i g).AgreeOn S
    (match k with
      | .sendMrdAdvertisement i => sendMrdAdvertisement v i rand
      | .sendGeneralQuery i => sendGeneralQuery v i
      | .querierTimeout i => querierTimeout P v i
      | .sendGroupSpecificQuery i g => sendGroupSpecificQuery P v i g
      | .groupTimeout i g => groupTimeout v i g
      | .v1HostTimeout i g => v1 v i g) := by
  cases k with
  | sendMrdAdvertisement i =>
      exact .map (sendMrdAdvertisement · i rand)
        (fun t bl => sendMrdAdvertisement_withBridgeList t bl i rand) h
  | sendGeneralQuery i =>
      exact .map (sendGeneralQuery · i) (fun t bl => sendGeneralQuery_withBridgeList t bl i) h
  | querierTimeout i =>
      exact .map (querierTimeout P · i) (fun t bl => querierTimeout_withBridgeList P t bl i) h
  | sendGroupSpecificQuery i g =>
      exact .map (sendGroupSpecificQuery P · i g)
        (fun t bl => sendGroupSpecificQuery_withBridgeList P t bl i g) h
  | groupTimeout i g => exact groupTimeout_agreeOn h i g
  | v1HostTimeout i g => exact .map (v1 · i g) (fun t bl => hv1 t bl i g) h

theorem igmpRunTimer_agreeOn (h : u.AgreeOn S v) (k : TimerKey) (rand : Nat) :
    (igmpRunTimer u k rand).AgreeOn S (igmpRunTimer v k rand) :=
  runTimer_agreeOn igmpProto v1HostTimeout (fun _ _ _ _ => rfl) h k rand

theorem mldRunTimer_agreeOn (h : u.AgreeOn S v) (k : TimerKey) (rand : Nat) :
    (mldRunTimer u k rand).AgreeOn S (mldRunTimer v k rand) :=
  runTimer_agreeOn mldProto (fun s _ _ => s) (fun _ _ _ _ => rfl) h k rand

end Events

/-! ### Runs -/

section Runs

variable {receive : Sys → Nat → Nat → List UInt8 → Nat → Sys}
  {runTimer : Sys → TimerKey → Nat → Sys} {S : Nat → Prop}
  (hr : ∀ {u v : Sys}, u.AgreeOn S v → ∀ i src buf rand,
    (receive u i src buf rand).AgreeOn S (receive v i src buf rand))
  (ht : ∀ {u v : Sys}, u.AgreeOn S v → ∀ k rand, (runTimer u k rand).AgreeOn S (runTimer v k rand))
include hr ht

/-- A step from a state is matched by a step from any state that agrees with it, when the
dispatchers keep states agreeing. -/
theorem Step.agreeOn {u u' v : Sys} (hs : Step receive runTimer u u') (h : u.AgreeOn S v) :
    ∃ v', Step receive runTimer v v' ∧ u'.AgreeOn S v' := by
  obtain ⟨bl, rfl, ha⟩ := h
  cases hs with
  | receive i src buf now rand hc hi =>
      exact ⟨_, .receive v i src buf now rand hc hi,
        hr (.withBridgeList { v with clock := now } ha) i src buf rand⟩
  | expire ev rest now rand he hc hd =>
      exact ⟨_, .expire v ev rest now rand he hc hd, ht (.withBridgeList
        { v with clock := now, evm := { v.evm with timerList := rest } } ha) ev.key rand⟩

/-- An event, enabled or not, on states that agree. -/
theorem Event.apply_agreeOn {u v : Sys} (h : u.AgreeOn S v) (e : Event) :
    (e.apply receive runTimer u).AgreeOn S (e.apply receive runTimer v) := by
  obtain ⟨bl, rfl, ha⟩ := h
  cases e with
  | receive i src buf now rand => exact hr (.withBridgeList { v with clock := now } ha) i src buf rand
  | expire now rand =>
      simp only [Event.apply, expireFirst, Sys.evm_withBridgeList]
      split
      · exact .withBridgeList v ha
      · rename_i ev rest _
        exact ht (.withBridgeList
          { v with clock := now, evm := { v.evm with timerList := rest } } ha) ev.key rand

end Runs

/-- Each thread of a reachable daemon is, but for the shared bridge list, in a state its
subsystem reaches alone from start-up: the other thread's writes to the list change none of its
steps. -/
theorem daemon_threads_alone (igmpMode mldMode : QuerierModeType) (nonConfiguredGroups : Nat)
    (bl : List BridgeInstance) (d : Daemon)
    (hd : DaemonReachable igmpMode mldMode nonConfiguredGroups bl d) :
    (∃ s, IgmpReachable igmpMode nonConfiguredGroups bl s ∧
      d.igmpThread = s.withBridgeList d.bridgeList) ∧
    (∃ s, MldReachable mldMode nonConfiguredGroups bl s ∧
      d.mldThread = s.withBridgeList d.bridgeList) := by
  induction hd with
  | start igmpNow mldNow igmpRands mldRands =>
      exact ⟨⟨_, .init ⟨igmpNow, igmpRands, rfl⟩, rfl⟩,
        ⟨_, .init ⟨mldNow, mldRands, rfl⟩, rfl⟩⟩
  | step _ hs ih =>
      obtain ⟨⟨s₄, h₄, e₄⟩, ⟨s₆, h₆, e₆⟩⟩ := ih
      cases hs with
      | igmp s hs =>
          obtain ⟨s', hs', bl', rfl, -⟩ := Step.agreeOn (S := fun _ => False)
            igmpReceive_agreeOn igmpRunTimer_agreeOn hs ⟨_, e₄, fun _ => False.elim⟩
          exact ⟨⟨s', .step h₄ hs', rfl⟩,
            ⟨s₆, h₆, by simpa using congrArg (·.withBridgeList bl') e₆⟩⟩
      | mld s hs =>
          obtain ⟨s', hs', bl', rfl, -⟩ := Step.agreeOn (S := fun _ => False)
            mldReceive_agreeOn mldRunTimer_agreeOn hs ⟨_, e₆, fun _ => False.elim⟩
          exact ⟨⟨s₄, h₄, by simpa using congrArg (·.withBridgeList bl') e₄⟩,
            ⟨s', .step h₆ hs', rfl⟩⟩

/-- After a host joins 239.0.75.0 on `eth0`, which activates `eth0` outbound in the shared
list, each thread is still as its subsystem alone leaves it. -/
theorem daemon_threads_alone_after_join :
    ∃ d, DaemonReachable .quick .quick 0 igmpRunBridges d ∧
      (interfaceAt d.bridgeList ⟨0, 0⟩).outboundActive = true ∧
      ((∃ s, IgmpReachable .quick 0 igmpRunBridges s ∧
        d.igmpThread = s.withBridgeList d.bridgeList) ∧
      (∃ s, MldReachable .quick 0 igmpRunBridges s ∧
        d.mldThread = s.withBridgeList d.bridgeList)) :=
  have hd : DaemonReachable .quick .quick 0 igmpRunBridges _ :=
    .step (.start 0 0 (fun _ => 0) (fun _ => 0)) (.igmp _ _ (.receive _ 0 0x0a000005
      [0x16, 0, 0, 0, 0xef, 0, 0x4b, 0] 1000000 0 (by decide) (by decide)))
  ⟨_, hd, by decide, daemon_threads_alone .quick .quick 0 igmpRunBridges _ hd⟩

end McastBridge
