import McastBridge.Subsystem
/-
**The IGMP subsystem (`igmp.c`).**

The IGMP instance of the shared design of `McastBridge.Subsystem`: its constants and timer
formulas (`McastBridge.igmpProto`, times in tenths of a second), the layout of a query, and the
functions whose bodies are its own — the IGMPv1 report with its v1-host-present timer, and the
leave, which is ignored while a v1 host is present.  `McastBridge.igmpReceive` is the type
dispatch of `igmp_receive` on a message that passed the frame checks, and
`McastBridge.igmpStart` the state `start_igmp` leaves.
-/

set_option relaxedAutoImplicit false
set_option autoImplicit false

namespace McastBridge

/-- The IGMP constants (`protocols.h`) and the timer formulas of `igmp.c`, with
`GRACE_MILLIS = 10`. -/
def igmpProto : Proto where
  isLinkScope addr := addr / 256 = 0xe00000
  allOnes := 0xffffffff
  addrLen := 4
  recordHeaderLen := 8
  robustness := 2
  queryInterval := 125
  responseInterval := 100
  lastmbrInterval := 10
  querierTimeoutMillis ifc := u32 ((ifc.querierRobustness * ifc.querierIntervalSec +
    ifc.querierResponseInterval / 20) * 1000)
  groupQueryMillis ifc := u32 (ifc.querierRobustness * ifc.querierResponseInterval * 100 + 10)
  joinMillis ifc := u32 ((ifc.querierRobustness * ifc.querierIntervalSec +
    ifc.querierResponseInterval / 10) * 1000)
  leaveMillis ifc := u32 (ifc.querierRobustness * ifc.querierLastmbrInterval * 100 + 10)
  lastmbrMillis ifc := u32 (ifc.querierLastmbrInterval * 100)

/-- The fields of `mcb_igmp_v3_query_t` (`qrv` and `s_flag` are the low bits of byte 8). -/
def igmpQuery (buf : List UInt8) : Query where
  isV3 := decide (12 ≤ buf.length)
  group := rdAddr buf 4 4
  sFlag := (rd8 buf 8 >>> 3) &&& 1 = 1
  qrv := rd8 buf 8 &&& 7
  intervalSec := timecode8bitDecode (rd8 buf 9)
  responseInterval := timecode8bitDecode (rd8 buf 1)

/-- `handle_igmp_query`. -/
def handleIgmpQuery (s : Sys) (i src : Nat) (buf : List UInt8) : Sys :=
  if buf.length < 8 then s else handleQuery igmpProto s i src (igmpQuery buf)

/-- `igmp_leave_common`: accepted only by the querier, for an active group with no v1 host
present and no burst already under way. -/
def igmpLeaveCommon (s : Sys) (i g : Nat) : Sys :=
  if (s.iface i).querierAddr ≠ (s.iface i).ifAddr then s
  else if !(s.group i g).active then s
  else if (s.group i g).v1HostPresent then s
  else if (s.group i g).groupQueriesRemaining ≠ 0 then s
  else leaveAccept igmpProto s i g

/-- `handle_igmp_v1_report`: (re)arm the v1-host-present timer, then join.  The pending timer is
cancelled only when the group is active and a v1 host is already present. -/
def handleIgmpV1Report (s : Sys) (i : Nat) (buf : List UInt8) : Sys :=
  if buf.length < 8 then s
  else
    match interfaceFindGroup igmpProto.isLinkScope (s.iface i) (rdAddr buf 4 4) with
    | none => s
    | some (ifc, g) =>
        let s := s.setIface i ifc
        let s := if (s.group i g).active && (s.group i g).v1HostPresent then
            s.delTimer (.v1HostTimeout i g)
          else s.modifyGroup i g fun grp => { grp with v1HostPresent := true }
        let s := s.addTimer (igmpProto.joinMillis (s.iface i)) (.v1HostTimeout i g)
        joinCommon igmpProto s i g

/-- `handle_igmp_v2_report`. -/
def handleIgmpV2Report (s : Sys) (i : Nat) (buf : List UInt8) : Sys :=
  if buf.length < 8 then s
  else
    match interfaceFindGroup igmpProto.isLinkScope (s.iface i) (rdAddr buf 4 4) with
    | none => s
    | some (ifc, g) => joinCommon igmpProto (s.setIface i ifc) i g

/-- `handle_igmp_v2_leave`. -/
def handleIgmpV2Leave (s : Sys) (i : Nat) (buf : List UInt8) : Sys :=
  if buf.length < 8 then s
  else
    match interfaceFindGroup igmpProto.isLinkScope (s.iface i) (rdAddr buf 4 4) with
    | none => s
    | some (ifc, g) => igmpLeaveCommon (s.setIface i ifc) i g

/-- `handle_igmp_v3_report`: the number of records is the 16-bit field at offset 6. -/
def handleIgmpV3Report (s : Sys) (i : Nat) (buf : List UInt8) : Sys :=
  if buf.length < 8 then s
  else groupRecords igmpProto igmpLeaveCommon s i (rd16 buf 6) (buf.drop 8)

/-- The type dispatch of `igmp_receive` for a message from `src` on interface `i`; the
interface's own frames are ignored. -/
def igmpReceive (s : Sys) (i src : Nat) (buf : List UInt8) (rand : Nat) : Sys :=
  if src = (s.iface i).ifAddr then s
  else
    match rd8 buf 0 with
    | 0x11 => handleIgmpQuery s i src buf
    | 0x12 => handleIgmpV1Report s i buf
    | 0x16 => handleIgmpV2Report s i buf
    | 0x17 => handleIgmpV2Leave s i buf
    | 0x22 => handleIgmpV3Report s i buf
    | 0x31 => handleMrdSolicitation s i rand
    | _ => s

/-- The callbacks of the IGMP timers. -/
def igmpRunTimer (s : Sys) (k : TimerKey) (rand : Nat) : Sys :=
  match k with
  | .sendMrdAdvertisement i => sendMrdAdvertisement s i rand
  | .sendGeneralQuery i => sendGeneralQuery s i
  | .querierTimeout i => querierTimeout igmpProto s i
  | .sendGroupSpecificQuery i g => sendGroupSpecificQuery igmpProto s i g
  | .groupTimeout i g => groupTimeout s i g
  | .v1HostTimeout i g => v1HostTimeout s i g

/-- The state `start_igmp` leaves: the interfaces registered by `initialize_interfaces` for the
IPv4 bridges, finalised by `initialize_igmp`, each started at clock reading `now`. -/
def igmpStart (mode : QuerierModeType) (nonConfiguredGroups : Nat) (bl : List BridgeInstance)
    (now : Nat) (rands : Nat → Nat) : Sys :=
  start igmpProto (initializeSys mode nonConfiguredGroups (initializeInterfaces bl)
    (registerAll (·.ipv4Addr) .inet bl) now) rands

/-- The states of the IGMP subsystem reachable from start-up. -/
def IgmpReachable (mode : QuerierModeType) (nonConfiguredGroups : Nat)
    (bl : List BridgeInstance) : Sys → Prop :=
  Reachable igmpReceive igmpRunTimer fun s =>
    ∃ now rands, s = igmpStart mode nonConfiguredGroups bl now rands

/-! ### Runs

The runs below start the subsystem on one IPv4 bridge for the group 239.0.75.0, whose interface
`eth0` (ifIndex 2, 10.0.0.3) is static inbound and dynamic outbound and whose interface `eth1`
(ifIndex 3, 10.1.0.3) is static inbound only; `eth0` is then IGMP interface 0 and the bridge's
group its only fixed slot.  The hosts are 10.0.0.5 (a member) and 10.0.0.9 or 10.0.0.1 (another
router); times are in nanoseconds of the monotonic clock. -/

/-- The bridge configuration of the runs. -/
def igmpRunBridges : List BridgeInstance :=
  [{ family := .inet
     dstAddr := 0xef004b00
     interfaceList := [
       { inboundConfiguration := .static, outboundConfiguration := .dynamic,
         inboundActive := false, outboundActive := false, ifIndex := 2,
         ipv4Addr := 0x0a000003, ipv6AddrLl := 0 },
       { inboundConfiguration := .static, outboundConfiguration := .none,
         inboundActive := false, outboundActive := false, ifIndex := 3,
         ipv4Addr := 0x0a010003, ipv6AddrLl := 0 }] }]

/-- A v1 report for 239.0.75.0, then a group-specific query with a zero response code from
another router, which shortens the membership timer to 10 ms; the group expires while a v1 host
is still present, and a second v1 report arms a second v1-host timer for the same group:
`handle_igmp_v1_report` cancels the pending one only when the group is active. -/
theorem igmp_v1_host_timer_twice : ∃ s, IgmpReachable .never 100 igmpRunBridges s ∧
    s.pending.count (.v1HostTimeout 0 0) = 2 :=
  ⟨_, Reachable.runEvents igmpReceive igmpRunTimer
    [.receive 0 0x0a000005 [0x12, 0, 0, 0, 0xef, 0, 0x4b, 0] 1000000 0,
     .receive 0 0x0a000009 [0x11, 0, 0, 0, 0xef, 0, 0x4b, 0, 2, 125, 0, 0] 2000000 0,
     .expire 12000000 0, .expire 12000000 0,
     .receive 0 0x0a000005 [0x12, 0, 0, 0, 0xef, 0, 0x4b, 0] 20000000 0]
    (Reachable.init ⟨0, fun _ => 5, rfl⟩) (by decide), by decide⟩

/-- With no dynamic slots the timer table has room for four timers: the MRD advertisement and
the general query of `eth0`, and two for the bridge's group.  In quick mode a leave after a v2
report arms the group-specific query while the membership timer is still pending, so a v1
report then finds the table full: `evm_add_timer` logs and drops the v1-host timer, and the
group is left in v1 compatibility with nothing to end it. -/
theorem igmp_v1_host_timer_dropped : ∃ s, IgmpReachable .quick 0 igmpRunBridges s ∧
    s.log = [evmAddTimerExceeded 4] ∧ TimerKey.v1HostTimeout 0 0 ∉ s.pending ∧
    (s.group 0 0).v1HostPresent = true :=
  ⟨_, Reachable.runEvents igmpReceive igmpRunTimer
    [.receive 0 0x0a000005 [0x16, 0, 0, 0, 0xef, 0, 0x4b, 0] 1000000 0,
     .receive 0 0x0a000005 [0x17, 0, 0, 0, 0xef, 0, 0x4b, 0] 2000000 0,
     .receive 0 0x0a000005 [0x12, 0, 0, 0, 0xef, 0, 0x4b, 0] 3000000 0]
    (Reachable.init ⟨0, fun _ => 5, rfl⟩) (by decide), by decide⟩

/-- The same early expiry for the learned group 239.1.1.1 in dynamic slot 1: the slot is
inactive, yet its v1-host-present flag is set and its v1-host timer pending, for whichever
group next takes the slot.  `igmp_group_timeout` clears neither. -/
theorem igmp_inactive_slot_v1_host : ∃ s, IgmpReachable .never 100 igmpRunBridges s ∧
    (s.iface 0).groupListFixedLimit ≤ 1 ∧ (s.group 0 1).active = false ∧
    (s.group 0 1).v1HostPresent = true ∧ TimerKey.v1HostTimeout 0 1 ∈ s.pending :=
  ⟨_, Reachable.runEvents igmpReceive igmpRunTimer
    [.receive 0 0x0a000005 [0x12, 0, 0, 0, 0xef, 1, 1, 1] 1000000 0,
     .receive 0 0x0a000009 [0x11, 0, 0, 0, 0xef, 1, 1, 1, 2, 125, 0, 0] 2000000 0,
     .expire 12000000 0, .expire 12000000 0]
    (Reachable.init ⟨0, fun _ => 5, rfl⟩) (by decide), by decide⟩

/-- A v3 general query from another router with QRV 0 is adopted as it is: the robustness
becomes 0, and the membership timer a report then arms (10 s) is shorter than the querier's
own query interval (125 s). -/
theorem igmp_query_robustness_zero : ∃ s, IgmpReachable .never 100 igmpRunBridges s ∧
    (s.iface 0).querierRobustness = 0 ∧
    igmpProto.joinMillis (s.iface 0) < (s.iface 0).querierIntervalSec * 1000 :=
  ⟨_, Reachable.runEvents igmpReceive igmpRunTimer
    [.receive 0 0x0a000009 [0x11, 100, 0, 0, 0, 0, 0, 0, 0, 125, 0, 0] 1000000 0,
     .receive 0 0x0a000005 [0x16, 0, 0, 0, 0xef, 0, 0x4b, 0] 2000000 0]
    (Reachable.init ⟨0, fun _ => 5, rfl⟩) (by decide), by decide⟩

/-- In quick mode a leave for 239.0.75.0 is accepted and the first group-specific query sent
with the S flag clear; the interface then yields to 10.0.0.1, whose v3 query carries QRV 1, and
the second query of the burst is sent with the S flag clear as well, since
`group_queries_remaining` now equals the adopted robustness. -/
theorem igmp_burst_s_flag_after_yield : ∃ s, IgmpReachable .quick 100 igmpRunBridges s ∧
    s.injected = [.mrdAdvertisement 0, .generalQuery 0, .groupSpecificQuery 0 0xef004b00 false,
      .groupSpecificQuery 0 0xef004b00 false] :=
  ⟨_, Reachable.runEvents igmpReceive igmpRunTimer
    [.receive 0 0x0a000005 [0x16, 0, 0, 0, 0xef, 0, 0x4b, 0] 1000000 0,
     .receive 0 0x0a000005 [0x17, 0, 0, 0, 0xef, 0, 0x4b, 0] 2000000 0,
     .receive 0 0x0a000001 [0x11, 100, 0, 0, 0, 0, 0, 0, 1, 125, 0, 0] 3000000 0,
     .expire 1002000000 0]
    (Reachable.init ⟨0, fun _ => 1999, rfl⟩) (by decide), by decide⟩

end McastBridge
