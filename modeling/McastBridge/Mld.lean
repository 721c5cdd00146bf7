import McastBridge.Subsystem
/-
**The MLD subsystem (`mld.c`).**

The MLD instance of the shared design of `McastBridge.Subsystem`: its constants and timer
formulas (`McastBridge.mldProto`, times in milliseconds), the layout of an MLDv2 query, and its
leave, which has no v1-host check.  `McastBridge.mldReceive` is the type dispatch of
`mld_receive` on a message that passed the frame checks, and `McastBridge.mldStart` the state
`start_mld` leaves.
-/

set_option relaxedAutoImplicit false
set_option autoImplicit false

namespace McastBridge

/-- The MLD constants (`protocols.h`) and the timer formulas of `mld.c`, with
`GRACE_MILLIS = 10`. -/
def mldProto : Proto where
  isLinkScope addr := addr / 2 ^ 112 = 0xff02
  allOnes := 2 ^ 128 - 1
  addrLen := 16
  recordHeaderLen := 20
  robustness := 2
  queryInterval := 125
  responseInterval := 10000
  lastmbrInterval := 1000
  querierTimeoutMillis ifc := u32 (ifc.querierRobustness * ifc.querierIntervalSec * 1000 +
    ifc.querierResponseInterval / 2)
  groupQueryMillis ifc := u32 (ifc.querierRobustness * ifc.querierResponseInterval + 10)
  joinMillis ifc := u32 (ifc.querierRobustness * ifc.querierIntervalSec * 1000 +
    ifc.querierResponseInterval + 10)
  leaveMillis ifc := u32 (ifc.querierRobustness * ifc.querierLastmbrInterval + 10)
  lastmbrMillis ifc := ifc.querierLastmbrInterval

/-- The fields of `mcb_mld_v2_query_t` (`qrv` and `s_flag` are the low bits of byte 24). -/
def mldQuery (buf : List UInt8) : Query where
  isV3 := decide (28 ≤ buf.length)
  group := rdAddr buf 8 16
  sFlag := (rd8 buf 24 >>> 3) &&& 1 = 1
  qrv := rd8 buf 24 &&& 7
  intervalSec := timecode8bitDecode (rd8 buf 25)
  responseInterval := timecode16bitDecode (rd16 buf 4)

/-- `handle_mld_query`. -/
def handleMldQuery (s : Sys) (i src : Nat) (buf : List UInt8) : Sys :=
  handleQuery mldProto s i src (mldQuery buf)

/-- `mld_leave_common`: accepted only by the querier, for an active group with no burst
already under way. -/
def mldLeaveCommon (s : Sys) (i g : Nat) : Sys :=
  if (s.iface i).querierAddr ≠ (s.iface i).ifAddr then s
  else if !(s.group i g).active then s
  else if (s.group i g).groupQueriesRemaining ≠ 0 then s
  else leaveAccept mldProto s i g

/-- `handle_mld_v1_report`. -/
def handleMldV1Report (s : Sys) (i addr : Nat) : Sys :=
  match interfaceFindGroup mldProto.isLinkScope (s.iface i) addr with
  | none => s
  | some (ifc, g) => joinCommon mldProto (s.setIface i ifc) i g

/-- `handle_mld_v1_leave`. -/
def handleMldV1Leave (s : Sys) (i addr : Nat) : Sys :=
  match interfaceFindGroup mldProto.isLinkScope (s.iface i) addr with
  | none => s
  | some (ifc, g) => mldLeaveCommon (s.setIface i ifc) i g

/-- `handle_mld_v2_report`: the number of records is the 16-bit field at offset 6. -/
def handleMldV2Report (s : Sys) (i : Nat) (buf : List UInt8) : Sys :=
  groupRecords mldProto mldLeaveCommon s i (rd16 buf 6) (buf.drop 8)

/-- The type dispatch of `mld_receive` for a message from `src` on interface `i`: the
interface's own frames and messages shorter than `mcb_mld_t` are ignored. -/
def mldReceive (s : Sys) (i src : Nat) (buf : List UInt8) (rand : Nat) : Sys :=
  if src = (s.iface i).ifAddr then s
  else if buf.length < 24 then s
  else
    match rd8 buf 0 with
    | 0x82 => handleMldQuery s i src buf
    | 0x81 => handleMldV1Report s i (rdAddr buf 8 16)
    | 0x83 => handleMldV1Leave s i (rdAddr buf 8 16)
    | 0x8f => if buf.length < 8 then s else handleMldV2Report s i buf
    | 0x98 => handleMrdSolicitation s i rand
    | _ => s

/-- The callbacks of the MLD timers; MLD has no v1-host timer. -/
def mldRunTimer (s : Sys) (k : TimerKey) (rand : Nat) : Sys :=
  match k with
  | .sendMrdAdvertisement i => sendMrdAdvertisement s i rand
  | .sendGeneralQuery i => sendGeneralQuery s i
  | .querierTimeout i => querierTimeout mldProto s i
  | .sendGroupSpecificQuery i g => sendGroupSpecificQuery mldProto s i g
  | .groupTimeout i g => groupTimeout s i g
  | .v1HostTimeout _ _ => s

/-- The state `start_mld` leaves: the interfaces registered by `initialize_interfaces` for the
IPv6 bridges, with their link-local addresses, finalised by `initialize_mld`. -/
def mldStart (mode : QuerierModeType) (nonConfiguredGroups : Nat) (bl : List BridgeInstance)
    (now : Nat) (rands : Nat → Nat) : Sys :=
  start mldProto (initializeSys mode nonConfiguredGroups (initializeInterfaces bl)
    (registerAll (·.ipv6AddrLl) .inet6 bl) now) rands

/-- The states of the MLD subsystem reachable from start-up. -/
def MldReachable (mode : QuerierModeType) (nonConfiguredGroups : Nat)
    (bl : List BridgeInstance) : Sys → Prop :=
  Reachable mldReceive mldRunTimer fun s =>
    ∃ now rands, s = mldStart mode nonConfiguredGroups bl now rands

end McastBridge
