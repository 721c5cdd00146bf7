import McastBridge.Evm
import McastBridge.Codec
import McastBridge.Group
/-
**The IGMP and MLD subsystems: querier election, membership and their timers.**

`igmp.c` and `mld.c` are one design written twice: a thread with its own event manager that
watches the interfaces of the bridges of one family, elects a querier on each, tracks the
groups its hosts report and switches the data plane when a registered group becomes active or
expires.  This module models that design once.  What differs between the two protocols — the
default timers and their units, the formulas of the timer durations, the link-scope range, the
sizes of addresses and report records — is a `McastBridge.Proto`, and the functions whose bodies
differ (the IGMPv1 report, the IGMP leave with its v1-host check) are defined per protocol in
`McastBridge.Igmp` and `McastBridge.Mld`.

A subsystem's state `McastBridge.Sys` holds its interfaces, its event manager, the bridge list
whose flags it switches, the last reading of the monotonic clock, the frames it has injected
(by the fields the sending function sets) and the lines `evm_add_timer` has logged.  Every
handler is a function on that state; the value of `rand()` used for the jitter of a router
advertisement is an argument.

Main definitions:

* `McastBridge.sendMrdAdvertisement`, `McastBridge.sendGeneralQuery`,
  `McastBridge.sendGroupSpecificQuery` — the three senders and the timers they re-arm;
* `McastBridge.activateQuerierMode`, `McastBridge.querierTimeout`, `McastBridge.groupTimeout`;
* `McastBridge.handleQuery` — `handle_igmp_query` / `handle_mld_query`: election, adoption of
  the querier's parameters, the other-querier timer, and the group-specific query;
* `McastBridge.joinCommon`, `McastBridge.leaveAccept`, `McastBridge.groupRecords` — joins,
  the accepted part of a leave, and the group-record loop of a v3 (v2) report;
* `McastBridge.Step`, `McastBridge.Reachable` — one event of the subsystem's loop (a frame
  received on an interface, or the expiry of the first timer) and the states reached from
  start-up.
-/

set_option relaxedAutoImplicit false
set_option autoImplicit false

namespace McastBridge

/-! ### State -/

/-- `querier_mode_type_t`. -/
inductive QuerierModeType
  | never
  | quick
  | delay
  | defer
  deriving DecidableEq, Repr, Inhabited

/-- The `(callback, closure)` pair of a timer: the callback, and the interface (`i`) or the
group slot (`i`, `g`) it is given. -/
inductive TimerKey
  | sendMrdAdvertisement (i : Nat)
  | sendGeneralQuery (i : Nat)
  | querierTimeout (i : Nat)
  | sendGroupSpecificQuery (i g : Nat)
  | groupTimeout (i g : Nat)
  | v1HostTimeout (i g : Nat)
  deriving DecidableEq, Repr

/-- A frame injected on interface `i`, by what the sending function sets in it. -/
inductive Injected
  | mrdAdvertisement (i : Nat)
  | generalQuery (i : Nat)
  | groupSpecificQuery (i group : Nat) (sFlag : Bool)
  deriving DecidableEq, Repr

/-- The state of the IGMP or the MLD subsystem. -/
structure Sys where
  /-- `igmp_querier_mode` / `mld_querier_mode`. -/
  querierMode : QuerierModeType
  bridgeList : List BridgeInstance
  interfaceList : List Interface
  evm : Evm TimerKey
  /-- The last reading of `CLOCK_MONOTONIC`, in nanoseconds. -/
  clock : Nat
  injected : List Injected
  log : List String
  deriving Repr

/-- What distinguishes IGMP from MLD in the shared code. -/
structure Proto where
  isLinkScope : Nat → Bool
  /-- The querier address of an open election, `MCB_IP*_ADDR_SET(…, 0xff)`. -/
  allOnes : Nat
  addrLen : Nat
  recordHeaderLen : Nat
  robustness : Nat
  queryInterval : Nat
  responseInterval : Nat
  lastmbrInterval : Nat
  /-- The other-querier-present timer of `handle_*_query`. -/
  querierTimeoutMillis : Interface → Nat
  /-- The membership timer set by a group-specific query. -/
  groupQueryMillis : Interface → Nat
  /-- The membership timer set by `*_join_common` (and the IGMP v1-host timer). -/
  joinMillis : Interface → Nat
  /-- The membership timer set by an accepted leave. -/
  leaveMillis : Interface → Nat
  /-- The spacing of the group-specific queries of a last-member burst. -/
  lastmbrMillis : Interface → Nat

/-- The fields `handle_*_query` reads from a query, the time codes decoded. -/
structure Query where
  /-- `v3_flag` (IGMP) / `v2_flag` (MLD): the query is long enough to carry the fields below. -/
  isV3 : Bool
  group : Nat
  sFlag : Bool
  qrv : Nat
  intervalSec : Nat
  responseInterval : Nat
  deriving DecidableEq, Repr

namespace Sys

/-- Interface `i`. -/
def iface (s : Sys) (i : Nat) : Interface := s.interfaceList.getD i default

/-- Group slot `g` of interface `i`. -/
def group (s : Sys) (i g : Nat) : Group := (s.iface i).group g

/-- Apply `f` to interface `i`. -/
def modifyIface (s : Sys) (i : Nat) (f : Interface → Interface) : Sys :=
  { s with interfaceList := s.interfaceList.modify f i }

/-- Replace interface `i`. -/
def setIface (s : Sys) (i : Nat) (ifc : Interface) : Sys := s.modifyIface i fun _ => ifc

/-- Apply `f` to group slot `g` of interface `i`. -/
def modifyGroup (s : Sys) (i g : Nat) (f : Group → Group) : Sys :=
  s.modifyIface i (·.modifyGroup g f)

/-- `evm_add_timer` at the current clock reading; a full table logs and drops the timer. -/
def addTimer (s : Sys) (millis : Nat) (key : TimerKey) : Sys :=
  match evmAddTimer s.evm (Timespec.ofNs s.clock) millis key with
  | some evm => { s with evm := evm }
  | none => { s with log := s.log ++ [evmAddTimerExceeded s.evm.timerListAllocated] }

/-- `evm_del_timer`. -/
def delTimer (s : Sys) (key : TimerKey) : Sys := { s with evm := evmDelTimer s.evm key }

/-- `pcap_inject` of a frame (an injection failure is only logged by the source). -/
def inject (s : Sys) (p : Injected) : Sys := { s with injected := s.injected ++ [p] }

/-- The keys of the pending timers. -/
def pending (s : Sys) : List TimerKey := keys s.evm.timerList

/-! What each update changes: one lemma per field it keeps. -/

variable (s : Sys)

@[simp] theorem group_eq (i g : Nat) : s.group i g = (s.iface i).group g := rfl

@[simp] theorem setIface_eq (i : Nat) (ifc : Interface) :
    s.setIface i ifc = s.modifyIface i fun _ => ifc := rfl

@[simp] theorem modifyGroup_eq (i g : Nat) (f : Group → Group) :
    s.modifyGroup i g f = s.modifyIface i (·.modifyGroup g f) := rfl

@[simp] theorem length_modifyIface (i : Nat) (f : Interface → Interface) :
    (s.modifyIface i f).interfaceList.length = s.interfaceList.length := List.length_modify _ _ _

theorem iface_modifyIface (i : Nat) (f : Interface → Interface) (j : Nat) :
    (s.modifyIface i f).iface j =
      if i = j ∧ j < s.interfaceList.length then f (s.iface j) else s.iface j := by
  rcases Nat.lt_or_ge j s.interfaceList.length with hj | hj
  · simp only [iface, modifyIface, getD_modify _ _ _ _ _ hj, hj, and_true]
  · simp only [iface, modifyIface, Nat.not_lt.2 hj, and_false, if_false]
    rw [List.getD_eq_default _ _ (show (s.interfaceList.modify f i).length ≤ j by simpa using hj),
      List.getD_eq_default _ _ hj]

theorem iface_modifyIface_self (i : Nat) (f : Interface → Interface)
    (hi : i < s.interfaceList.length) : (s.modifyIface i f).iface i = f (s.iface i) := by
  rw [iface_modifyIface, if_pos ⟨rfl, hi⟩]

/-- What holds of the updated record, and of each record the update leaves alone, holds of every
record after the update. -/
theorem iface_modifyIface_cases (P : Nat → Interface → Prop) (i : Nat)
    (f : Interface → Interface) (hf : i < s.interfaceList.length → P i (f (s.iface i)))
    (hP : ∀ j, ¬(i = j ∧ j < s.interfaceList.length) → P j (s.iface j)) (j : Nat) :
    P j ((s.modifyIface i f).iface j) := by
  rw [iface_modifyIface]
  split_ifs with hc
  · obtain ⟨rfl, hj⟩ := hc; exact hf hj
  · exact hP j hc

/-- Slot `g` of interface `i`, read back after an update of it. -/
theorem group_modifyGroup_self (i g : Nat) (f : Group → Group) (hi : i < s.interfaceList.length)
    (hg : g < (s.iface i).groupListAllocated) :
    (s.modifyGroup i g f).group i g = f (s.group i g) := by
  rw [group_eq, modifyGroup_eq, iface_modifyIface_self _ _ _ hi,
    Interface.group_modifyGroup _ _ _ _ hg, if_pos rfl, group_eq]

theorem iface_setIface_self (i : Nat) (ifc : Interface) (hi : i < s.interfaceList.length) :
    (s.setIface i ifc).iface i = ifc :=
  s.iface_modifyIface_self i _ hi

@[simp] theorem querierMode_modifyIface (i : Nat) (f : Interface → Interface) :
    (s.modifyIface i f).querierMode = s.querierMode := rfl

@[simp] theorem bridgeList_modifyIface (i : Nat) (f : Interface → Interface) :
    (s.modifyIface i f).bridgeList = s.bridgeList := rfl

@[simp] theorem pending_modifyIface (i : Nat) (f : Interface → Interface) :
    (s.modifyIface i f).pending = s.pending := rfl

@[simp] theorem evm_modifyIface (i : Nat) (f : Interface → Interface) :
    (s.modifyIface i f).evm = s.evm := rfl

@[simp] theorem log_modifyIface (i : Nat) (f : Interface → Interface) :
    (s.modifyIface i f).log = s.log := rfl

@[simp] theorem interfaceList_addTimer (m : Nat) (k : TimerKey) :
    (s.addTimer m k).interfaceList = s.interfaceList := by unfold addTimer; split <;> rfl

@[simp] theorem querierMode_addTimer (m : Nat) (k : TimerKey) :
    (s.addTimer m k).querierMode = s.querierMode := by unfold addTimer; split <;> rfl

@[simp] theorem bridgeList_addTimer (m : Nat) (k : TimerKey) :
    (s.addTimer m k).bridgeList = s.bridgeList := by unfold addTimer; split <;> rfl

@[simp] theorem clock_addTimer (m : Nat) (k : TimerKey) :
    (s.addTimer m k).clock = s.clock := by unfold addTimer; split <;> rfl

@[simp] theorem injected_addTimer (m : Nat) (k : TimerKey) :
    (s.addTimer m k).injected = s.injected := by unfold addTimer; split <;> rfl

@[simp] theorem timerListAllocated_addTimer (m : Nat) (k : TimerKey) :
    (s.addTimer m k).evm.timerListAllocated = s.evm.timerListAllocated := by
  unfold addTimer; split
  · rename_i he
    unfold evmAddTimer at he
    split at he <;> cases he
    rfl
  · rfl

@[simp] theorem iface_addTimer (m : Nat) (k : TimerKey) (j : Nat) :
    (s.addTimer m k).iface j = s.iface j := by simp [iface]

/-- A timer added below capacity is pending afterwards, and nothing is logged. -/
theorem addTimer_of_lt (m : Nat) (k : TimerKey)
    (h : s.pending.length < s.evm.timerListAllocated) :
    (s.addTimer m k).pending.Perm (k :: s.pending) ∧ (s.addTimer m k).log = s.log := by
  have hl : s.evm.timerList.length < s.evm.timerListAllocated := by simpa [pending] using h
  simp only [addTimer, evmAddTimer_eq_some _ _ _ _ hl, pending]
  exact ⟨keys_insertTimer _ _, trivial⟩

theorem mem_pending_addTimer (m : Nat) (k k' : TimerKey) (h : k' ∈ (s.addTimer m k).pending) :
    k' = k ∨ k' ∈ s.pending := by
  unfold addTimer at h
  split at h
  · rename_i he
    unfold evmAddTimer at he
    split at he <;> cases he
    exact List.mem_cons.1 ((keys_insertTimer _ _).subset h)
  · exact .inr h

@[simp] theorem log_addTimer_of_lt (m : Nat) (k : TimerKey)
    (h : s.pending.length < s.evm.timerListAllocated) : (s.addTimer m k).log = s.log :=
  (s.addTimer_of_lt m k h).2

@[simp] theorem interfaceList_delTimer (k : TimerKey) :
    (s.delTimer k).interfaceList = s.interfaceList := rfl

@[simp] theorem iface_delTimer (k : TimerKey) (j : Nat) : (s.delTimer k).iface j = s.iface j := rfl

@[simp] theorem querierMode_delTimer (k : TimerKey) : (s.delTimer k).querierMode = s.querierMode :=
  rfl

@[simp] theorem bridgeList_delTimer (k : TimerKey) : (s.delTimer k).bridgeList = s.bridgeList := rfl

@[simp] theorem clock_delTimer (k : TimerKey) : (s.delTimer k).clock = s.clock := rfl

@[simp] theorem log_delTimer (k : TimerKey) : (s.delTimer k).log = s.log := rfl

@[simp] theorem injected_delTimer (k : TimerKey) : (s.delTimer k).injected = s.injected := rfl

@[simp] theorem timerListAllocated_delTimer (k : TimerKey) :
    (s.delTimer k).evm.timerListAllocated = s.evm.timerListAllocated := rfl

@[simp] theorem pending_delTimer (k : TimerKey) : (s.delTimer k).pending = s.pending.erase k :=
  keys_delFirst _ _

@[simp] theorem interfaceList_inject (p : Injected) : (s.inject p).interfaceList = s.interfaceList :=
  rfl

@[simp] theorem iface_inject (p : Injected) (j : Nat) : (s.inject p).iface j = s.iface j := rfl

@[simp] theorem querierMode_inject (p : Injected) : (s.inject p).querierMode = s.querierMode := rfl

@[simp] theorem bridgeList_inject (p : Injected) : (s.inject p).bridgeList = s.bridgeList := rfl

@[simp] theorem evm_inject (p : Injected) : (s.inject p).evm = s.evm := rfl

@[simp] theorem pending_inject (p : Injected) : (s.inject p).pending = s.pending := rfl

@[simp] theorem log_inject (p : Injected) : (s.inject p).log = s.log := rfl

@[simp] theorem clock_inject (p : Injected) : (s.inject p).clock = s.clock := rfl

end Sys

/-! ### Senders and timer callbacks -/

/-- `*_send_mrd_advertisement`: inject the advertisement and set the next one, `rand()` giving
the jitter.  The IGMP source passes the interval macros a `random_state` that the macros of
`protocols.h` do not take; the random value is a parameter here, with the formulas of
`protocols.h`. -/
def sendMrdAdvertisement (s : Sys) (i rand : Nat) : Sys :=
  let s := s.inject (.mrdAdvertisement i)
  if (s.iface i).mrdInitialAdvertisementsRemaining ≠ 0 then
    (s.modifyIface i fun ifc => { ifc with
      mrdInitialAdvertisementsRemaining := ifc.mrdInitialAdvertisementsRemaining - 1 }).addTimer
      (rand % 2000) (.sendMrdAdvertisement i)
  else s.addTimer (19500 + rand % 1000) (.sendMrdAdvertisement i)

/-- `*_send_general_query`: inject the query and set the next one, a quarter of the query
interval apart during the startup burst. -/
def sendGeneralQuery (s : Sys) (i : Nat) : Sys :=
  let s := s.inject (.generalQuery i)
  let millis := u32 ((s.iface i).querierIntervalSec * 1000)
  if (s.iface i).startupQueriesRemaining ≠ 0 then
    (s.modifyIface i fun ifc => { ifc with
      startupQueriesRemaining := ifc.startupQueriesRemaining - 1 }).addTimer
      (millis / 4) (.sendGeneralQuery i)
  else s.addTimer millis (.sendGeneralQuery i)

/-- `send_group_specific_query`: inject a query for the slot's current address, with the S flag
clear exactly when `group_queries_remaining = querier_robustness`, decrement the count as an
`unsigned int`, and set the next query while the count is not zero. -/
def sendGroupSpecificQuery (P : Proto) (s : Sys) (i g : Nat) : Sys :=
  let grp := s.group i g
  let s := s.inject (.groupSpecificQuery i grp.mcastAddr
    (grp.groupQueriesRemaining != (s.iface i).querierRobustness))
  let remaining := u32 (grp.groupQueriesRemaining + (2 ^ 32 - 1))
  let s := s.modifyGroup i g fun grp => { grp with groupQueriesRemaining := remaining }
  if remaining ≠ 0 then s.addTimer (P.lastmbrMillis (s.iface i)) (.sendGroupSpecificQuery i g)
  else s

/-- `*_activate_querier_mode`: take the default parameters, become the querier and start the
burst of general queries. -/
def activateQuerierMode (P : Proto) (s : Sys) (i : Nat) : Sys :=
  let s := s.modifyIface i fun ifc => { ifc with
    querierRobustness := P.robustness
    querierIntervalSec := P.queryInterval
    querierResponseInterval := P.responseInterval
    querierLastmbrInterval := P.lastmbrInterval
    querierAddr := ifc.ifAddr
    startupQueriesRemaining := P.robustness - 1 }
  sendGeneralQuery s i

/-- `*_querier_timeout`: become the querier, or in mode never reopen the election. -/
def querierTimeout (P : Proto) (s : Sys) (i : Nat) : Sys :=
  if s.querierMode ≠ .never then activateQuerierMode P s i
  else s.modifyIface i fun ifc => { ifc with querierAddr := P.allOnes }

/-- `*_group_timeout`. -/
def groupTimeout (s : Sys) (i g : Nat) : Sys :=
  let r := groupTimeoutAt s.bridgeList (s.iface i) g
  { s with bridgeList := r.1 }.setIface i r.2

/-- `igmp_v1_host_timeout`. -/
def v1HostTimeout (s : Sys) (i g : Nat) : Sys :=
  s.modifyGroup i g fun grp => { grp with v1HostPresent := false }

/-! ### Handlers -/

/-- `handle_*_mrd_solicitation`: cancel the pending advertisement and send one now. -/
def handleMrdSolicitation (s : Sys) (i rand : Nat) : Sys :=
  sendMrdAdvertisement (s.delTimer (.sendMrdAdvertisement i)) i rand

/-- The election of `handle_*_query` for a query from `src`: `none` when this interface is the
querier and stays so (the handler returns); otherwise the state with the querier updated, the
general-query timer cancelled if this interface yields. -/
def electQuerier (P : Proto) (s : Sys) (i src : Nat) (q : Query) : Option Sys :=
  let ifc := s.iface i
  let newQuerier (s : Sys) : Sys := s.modifyIface i fun ifc =>
    if q.isV3 then { ifc with querierAddr := src }
    else { ifc with
      querierAddr := src
      querierRobustness := P.robustness
      querierIntervalSec := P.queryInterval
      querierResponseInterval := P.responseInterval }
  if src ≠ ifc.querierAddr then
    if ifc.querierAddr = ifc.ifAddr then
      if src < ifc.ifAddr ∨ s.querierMode = .defer then
        some (newQuerier (s.delTimer (.sendGeneralQuery i)))
      else none
    else if src < ifc.querierAddr then some (newQuerier s)
    else some s
  else some s

/-- The rest of `handle_*_query` up to the S flag: adopt a v3 (v2) query's parameters and re-arm
the other-querier-present timer. -/
def recordQuerier (P : Proto) (s : Sys) (i : Nat) (q : Query) : Sys :=
  let s := if q.isV3 then s.modifyIface i fun ifc => { ifc with
      querierRobustness := q.qrv
      querierIntervalSec := q.intervalSec
      querierResponseInterval := q.responseInterval }
    else s
  let s := s.delTimer (.querierTimeout i)
  s.addTimer (P.querierTimeoutMillis (s.iface i)) (.querierTimeout i)

/-- The group-specific part of `handle_*_query`: an active group's membership timer is
shortened to the querier's robustness times its response interval. -/
def queryGroup (P : Proto) (s : Sys) (i addr : Nat) : Sys :=
  match interfaceFindGroup P.isLinkScope (s.iface i) addr with
  | none => s
  | some (ifc, g) =>
      let s := s.setIface i ifc
      if !(s.group i g).active then s
      else (s.delTimer (.groupTimeout i g)).addTimer (P.groupQueryMillis (s.iface i))
        (.groupTimeout i g)

/-- `handle_igmp_query` / `handle_mld_query` for a query from `src`. -/
def handleQuery (P : Proto) (s : Sys) (i src : Nat) (q : Query) : Sys :=
  match electQuerier P s i src q with
  | none => s
  | some s =>
      let s := recordQuerier P s i q
      if q.isV3 && q.sFlag then s
      else if q.group = 0 then s
      else queryGroup P s i q.group

/-- `*_join_common`. -/
def joinCommon (P : Proto) (s : Sys) (i g : Nat) : Sys :=
  let s := if (s.group i g).active then s.delTimer (.groupTimeout i g) else s
  let r := joinActivateAt s.bridgeList (s.iface i) g
  let s := { s with bridgeList := r.1 }.setIface i r.2
  s.addTimer (P.joinMillis (s.iface i)) (.groupTimeout i g)

/-- The accepted part of `*_leave_common`: shorten the membership timer, and start a burst of
`querier_robustness` group-specific queries with the first one sent now. -/
def leaveAccept (P : Proto) (s : Sys) (i g : Nat) : Sys :=
  let s := (s.delTimer (.groupTimeout i g)).addTimer (P.leaveMillis (s.iface i))
    (.groupTimeout i g)
  let s := s.modifyGroup i g fun grp =>
    { grp with groupQueriesRemaining := (s.iface i).querierRobustness }
  sendGroupSpecificQuery P s i g

/-- The group-record loop of `handle_igmp_v3_report` / `handle_mld_v2_report` over the
`n` records announced, on the bytes after the report header: a record that overruns the
message, or has an unknown type, or is a `BLOCK_OLD_SOURCES` with sources, ends the report. -/
def groupRecords (P : Proto) (leave : Sys → Nat → Nat → Sys) (s : Sys) (i : Nat) :
    Nat → List UInt8 → Sys
  | 0, _ => s
  | n + 1, buf =>
      if buf.length < P.recordHeaderLen then s
      else
        let numSrcs := rd16 buf 2
        let recordLen := P.recordHeaderLen + numSrcs * P.addrLen + rd8 buf 1 * 4
        if buf.length < recordLen then s
        else
          let rest := buf.drop recordLen
          match interfaceFindGroup P.isLinkScope (s.iface i) (rdAddr buf 4 P.addrLen) with
          | none => groupRecords P leave s i n rest
          | some (ifc, g) =>
              let s := s.setIface i ifc
              match rd8 buf 0 with
              | 1 | 3 =>
                  groupRecords P leave (if numSrcs ≠ 0 then joinCommon P s i g else leave s i g)
                    i n rest
              | 2 | 4 | 5 => groupRecords P leave (joinCommon P s i g) i n rest
              | 6 => if numSrcs ≠ 0 then s else groupRecords P leave (leave s i g) i n rest
              | _ => s

/-! ### Start-up -/

/-- `total_groups`: the sum of `group_list_allocated` over the interfaces. -/
def totalGroups : List Interface → Nat
  | [] => 0
  | ifc :: ifs => ifc.groupListAllocated + totalGroups ifs

/-- An update of one interface that keeps its table's size keeps the total. -/
theorem totalGroups_modify (f : Interface → Interface) :
    ∀ (l : List Interface) (i : Nat),
      (f (l.getD i default)).groupListAllocated = (l.getD i default).groupListAllocated →
        totalGroups (l.modify f i) = totalGroups l
  | [], i, _ => by cases i <;> rfl
  | ifc :: l, 0, h => by
      rw [List.modify_zero_cons, totalGroups, totalGroups]
      exact congrArg (· + totalGroups l) h
  | ifc :: l, i + 1, h => by
      rw [List.modify_succ_cons, totalGroups, totalGroups, totalGroups_modify f l i h]

/-- `initialize_igmp` / `initialize_mld` on the registered interfaces: finalise the tables and
create the event manager with room for `2 · interfaces + 2 · Σ group_list_allocated`
timers. -/
def initializeSys (mode : QuerierModeType) (nonConfiguredGroups : Nat)
    (bl : List BridgeInstance) (ifs : List Interface) (now : Nat) : Sys :=
  let ifs := ifs.map (initializeGroupList nonConfiguredGroups)
  { querierMode := mode
    bridgeList := bl
    interfaceList := ifs
    evm := evmCreate (ifs.length * 2 + totalGroups ifs * 2)
    clock := now
    injected := []
    log := [] }

/-- The loop body of `start_igmp` / `start_mld` for interface `i`. -/
def startInterface (P : Proto) (s : Sys) (i rand : Nat) : Sys :=
  let s := s.modifyIface i fun ifc => { ifc with mrdInitialAdvertisementsRemaining := 2 }
  let s := sendMrdAdvertisement s i rand
  if s.querierMode = .quick then activateQuerierMode P s i
  else
    let s := s.modifyIface i fun ifc => { ifc with
      querierRobustness := P.robustness
      querierIntervalSec := P.queryInterval
      querierResponseInterval := P.responseInterval
      querierLastmbrInterval := P.lastmbrInterval
      querierAddr := P.allOnes }
    if s.querierMode ≠ .never then s.addTimer 125500 (.querierTimeout i) else s

/-- `start_igmp` / `start_mld`, `rands i` being the `rand()` of interface `i`'s first
advertisement. -/
def start (P : Proto) (s : Sys) (rands : Nat → Nat) : Sys :=
  (List.range s.interfaceList.length).foldl (fun s i => startInterface P s i (rands i)) s

theorem length_sendMrdAdvertisement (s : Sys) (i rand : Nat) :
    (sendMrdAdvertisement s i rand).interfaceList.length = s.interfaceList.length := by
  dsimp only [sendMrdAdvertisement]; split <;> simp

theorem length_sendGeneralQuery (s : Sys) (i : Nat) :
    (sendGeneralQuery s i).interfaceList.length = s.interfaceList.length := by
  dsimp only [sendGeneralQuery]; split <;> simp

theorem length_startInterface (P : Proto) (s : Sys) (i rand : Nat) :
    (startInterface P s i rand).interfaceList.length = s.interfaceList.length := by
  dsimp only [startInterface, activateQuerierMode]
  split_ifs <;> simp [length_sendMrdAdvertisement, length_sendGeneralQuery]

/-- Start-up keeps the interface list's length. -/
theorem length_start (P : Proto) (s : Sys) (rands : Nat → Nat) :
    (start P s rands).interfaceList.length = s.interfaceList.length := by
  unfold start
  generalize List.range _ = l
  induction l generalizing s with
  | nil => rfl
  | cons i l ih => rw [List.foldl_cons, ih, length_startInterface]

theorem iface_initializeSys (mode : QuerierModeType) (nonConfiguredGroups : Nat)
    (bl : List BridgeInstance) (ifs : List Interface) (now : Nat) {j : Nat} (hj : j < ifs.length) :
    (initializeSys mode nonConfiguredGroups bl ifs now).iface j =
      initializeGroupList nonConfiguredGroups (ifs.getD j default) := by
  simp only [initializeSys, Sys.iface]
  rw [List.getD_eq_getElem _ _ (by simpa using hj), List.getD_eq_getElem _ _ hj, List.getElem_map]

/-- The interfaces' addresses are registration's. -/
theorem ifAddr_initializeSys (mode : QuerierModeType) (nonConfiguredGroups : Nat)
    (bl : List BridgeInstance) (ifs : List Interface) (now j : Nat) :
    ((initializeSys mode nonConfiguredGroups bl ifs now).iface j).ifAddr =
      (ifs.getD j default).ifAddr := by
  simp only [initializeSys, Sys.iface]
  rcases Nat.lt_or_ge j ifs.length with hj | hj
  · rw [List.getD_eq_getElem _ _ (by simpa using hj), List.getD_eq_getElem _ _ hj,
      List.getElem_map]
    rfl
  · rw [List.getD_eq_default _ _ (by simpa using hj), List.getD_eq_default _ _ hj]

/-! ### Runs -/

/-- One event of a subsystem's loop: a frame from `src` whose IGMP (MLD) message is `buf`,
received on interface `i`, or the expiry of the first pending timer.  `receive` and
`runTimer` are the subsystem's dispatchers; `rand` is the value of `rand()` if the handler
draws one. -/
inductive Step (receive : Sys → Nat → Nat → List UInt8 → Nat → Sys)
    (runTimer : Sys → TimerKey → Nat → Sys) : Sys → Sys → Prop
  | receive (s : Sys) (i src : Nat) (buf : List UInt8) (now rand : Nat) :
      s.clock ≤ now → i < s.interfaceList.length →
      Step receive runTimer s (receive { s with clock := now } i src buf rand)
  | expire (s : Sys) (t : TimerEvent TimerKey) (rest : List (TimerEvent TimerKey))
      (now rand : Nat) :
      s.evm.timerList = t :: rest → s.clock ≤ now →
      timespecDeltaMillis (Timespec.ofNs now) t.timespec ≤ 0 →
      Step receive runTimer s
        (runTimer { s with clock := now, evm := { s.evm with timerList := rest } } t.key rand)

/-- The states reached from a state of `init` by steps. -/
inductive Reachable (receive : Sys → Nat → Nat → List UInt8 → Nat → Sys)
    (runTimer : Sys → TimerKey → Nat → Sys) (init : Sys → Prop) : Sys → Prop
  | init {s : Sys} : init s → Reachable receive runTimer init s
  | step {s s' : Sys} : Reachable receive runTimer init s → Step receive runTimer s s' →
      Reachable receive runTimer init s'

/-! ### Runs of events -/

/-- An event of a subsystem's loop, with the clock reading and the `rand()` value it uses. -/
inductive Event
  | receive (i src : Nat) (buf : List UInt8) (now rand : Nat)
  | expire (now rand : Nat)
  deriving Repr

section Runs

variable (receive : Sys → Nat → Nat → List UInt8 → Nat → Sys)
  (runTimer : Sys → TimerKey → Nat → Sys)

/-- The expiry of the first pending timer at clock reading `now`. -/
def expireFirst (s : Sys) (now rand : Nat) : Sys :=
  match s.evm.timerList with
  | [] => s
  | t :: rest => runTimer { s with clock := now, evm := { s.evm with timerList := rest } } t.key rand

/-- The event can happen in `s`: the clock does not go back, the frame arrives on an interface,
and an expiring timer is due. -/
def Event.enabled (s : Sys) : Event → Bool
  | .receive i _ _ now _ => decide (s.clock ≤ now) && decide (i < s.interfaceList.length)
  | .expire now _ =>
      decide (s.clock ≤ now) &&
        match s.evm.timerList with
        | [] => false
        | t :: _ => decide (timespecDeltaMillis (Timespec.ofNs now) t.timespec ≤ 0)

/-- The state after an event. -/
def Event.apply (s : Sys) : Event → Sys
  | .receive i src buf now rand => receive { s with clock := now } i src buf rand
  | .expire now rand => expireFirst runTimer s now rand

/-- The state after a list of events, and whether each was enabled when it happened. -/
def runEvents : Sys → List Event → Sys × Bool
  | s, [] => (s, true)
  | s, e :: es =>
      let r := runEvents (e.apply receive runTimer s) es
      (r.1, e.enabled s && r.2)

theorem Event.step (s : Sys) (e : Event) (h : e.enabled s = true) :
    Step receive runTimer s (e.apply receive runTimer s) := by
  cases e with
  | receive i src buf now rand =>
      simp only [Event.enabled, Bool.and_eq_true, decide_eq_true_eq] at h
      exact Step.receive s i src buf now rand h.1 h.2
  | expire now rand =>
      simp only [Event.enabled, Bool.and_eq_true, decide_eq_true_eq] at h
      obtain ⟨hc, hd⟩ := h
      simp only [Event.apply, expireFirst]
      split at hd
      · exact absurd hd Bool.false_ne_true
      · rename_i t rest heq
        exact Step.expire s t rest now rand heq hc (by simpa using hd)

/-- A run whose events were all enabled ends in a reachable state. -/
theorem Reachable.runEvents {init : Sys → Prop} {s : Sys} (es : List Event)
    (hs : Reachable receive runTimer init s) (h : (runEvents receive runTimer s es).2 = true) :
    Reachable receive runTimer init (runEvents receive runTimer s es).1 := by
  induction es generalizing s with
  | nil => exact hs
  | cons e es ih =>
      simp only [McastBridge.runEvents, Bool.and_eq_true] at h ⊢
      exact ih (hs.step (Event.step receive runTimer s e h.1)) h.2

end Runs

end McastBridge
