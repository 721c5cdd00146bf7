import McastBridge.Igmp
import McastBridge.Mld
/-
**Querier mode never: the subsystems only listen.**

Started with `QUERIER_MODE_NEVER`, an IGMP or MLD subsystem must never become the querier of an
interface: it follows other routers' queries, reopens the election when their querier times
out, and sends nothing but router advertisements.  The only assignments of `querier_addr` are
start-up's (to the all-ones sentinel of an open election), the election of `handle_*_query`
(to the source of a query, never the interface's own address, since `*_receive` drops the
interface's own frames), the reset of `*_querier_timeout` in mode never (to the sentinel), and
`*_activate_querier_mode`, which mode never does not reach.  The general-query timer is armed
only by the querier, and a group-specific query only by an accepted leave, which needs the
querier.

The exception is an interface whose own address is the sentinel: it reads as its own querier
from start-up on, and accepts leaves.  The invariant allows that interface, and only it,
group-specific queries.

Main definitions:

* `McastBridge.Passive` — what mode never shows in a state: no interface other than a
  sentinel one is the querier or has sent a query, and such interfaces ignore every leave;
* `McastBridge.NeverInv` — the invariant behind it, for the interfaces start-up has reached.

Main results:

* `McastBridge.NeverInv.start` — start-up establishes it;
* `McastBridge.NeverInv.igmpStep`, `McastBridge.NeverInv.mldStep` — every event keeps it;
* `McastBridge.never_mode_quiet` — **in mode never, every reachable state of either subsystem
  is passive**.
-/

set_option relaxedAutoImplicit false
set_option autoImplicit false

namespace McastBridge

/-- The interface a frame is injected on. -/
def Injected.iface : Injected → Nat
  | .mrdAdvertisement i => i
  | .generalQuery i => i
  | .groupSpecificQuery i _ _ => i

/-- A query, general or group-specific. -/
def Injected.isQuery : Injected → Bool
  | .mrdAdvertisement _ => false
  | _ => true

/-- What a state of mode never shows: an interface whose address is not the sentinel is not the
querier, has sent no query, and ignores every leave (`leave` is the protocol's
`*_leave_common`). -/
structure Passive (P : Proto) (leave : Sys → Nat → Nat → Sys) (s : Sys) : Prop where
  notQuerier : ∀ j < s.interfaceList.length, (s.iface j).ifAddr ≠ P.allOnes →
    (s.iface j).querierAddr ≠ (s.iface j).ifAddr
  noQuery : ∀ p ∈ s.injected, p.isQuery = true → (s.iface p.iface).ifAddr = P.allOnes
  leaveIgnored : ∀ j g, (s.iface j).ifAddr ≠ P.allOnes → leave s j g = s

/-- The timers mode never may have pending, `addr` giving the interfaces' addresses: no general
query, and a group-specific query only on an interface whose address is the sentinel. -/
def TimerKey.NeverAllowed (P : Proto) (addr : Nat → Nat) : TimerKey → Prop
  | .sendGeneralQuery _ => False
  | .sendGroupSpecificQuery i _ => addr i = P.allOnes
  | _ => True

/-- The frames mode never may have injected, by the same rule. -/
def Injected.NeverAllowed (P : Proto) (addr : Nat → Nat) : Injected → Prop
  | .mrdAdvertisement _ => True
  | .generalQuery _ => False
  | .groupSpecificQuery i _ _ => addr i = P.allOnes

/-- The invariant of mode never.  `addr` is the interfaces' addresses, which never change, and
`started` the interfaces start-up has reached: each of them whose address is not the sentinel
is not the querier. -/
structure NeverInv (P : Proto) (addr : Nat → Nat) (started : Nat → Prop) (s : Sys) : Prop where
  mode : s.querierMode = .never
  ifAddr : ∀ j, (s.iface j).ifAddr = addr j
  notQuerier : ∀ j < s.interfaceList.length, started j → addr j ≠ P.allOnes →
    (s.iface j).querierAddr ≠ addr j
  timers : ∀ k ∈ s.pending, k.NeverAllowed P addr
  injected : ∀ p ∈ s.injected, p.NeverAllowed P addr

namespace NeverInv

variable {P : Proto} {addr : Nat → Nat} {started : Nat → Prop} {s : Sys}

/-! ### The updates a handler is made of -/

theorem delTimer (h : NeverInv P addr started s) (k : TimerKey) :
    NeverInv P addr started (s.delTimer k) :=
  ⟨h.mode, h.ifAddr, h.notQuerier,
    fun k' hk' => h.timers k' (List.mem_of_mem_erase (by simpa using hk')), h.injected⟩

theorem addTimer (h : NeverInv P addr started s) (m : Nat) {k : TimerKey}
    (hk : k.NeverAllowed P addr) : NeverInv P addr started (s.addTimer m k) where
  mode := by simpa using h.mode
  ifAddr := by simpa using h.ifAddr
  notQuerier := by simpa using h.notQuerier
  timers k' hk' := (s.mem_pending_addTimer m k k' hk').elim (· ▸ hk) (h.timers k')
  injected := by simpa using h.injected

theorem inject (h : NeverInv P addr started s) {p : Injected} (hp : p.NeverAllowed P addr) :
    NeverInv P addr started (s.inject p) :=
  ⟨h.mode, h.ifAddr, h.notQuerier, h.timers, fun p' hp' =>
    (List.mem_append.1 hp').elim (h.injected p') fun h' => List.mem_singleton.1 h' ▸ hp⟩

theorem withBridgeList (h : NeverInv P addr started s) (bl : List BridgeInstance) :
    NeverInv P addr started { s with bridgeList := bl } :=
  ⟨h.mode, h.ifAddr, h.notQuerier, h.timers, h.injected⟩

theorem withClock (h : NeverInv P addr started s) (now : Nat) :
    NeverInv P addr started { s with clock := now } :=
  ⟨h.mode, h.ifAddr, h.notQuerier, h.timers, h.injected⟩

/-- Popping the first timer. -/
theorem pop (h : NeverInv P addr started s) {t : TimerEvent TimerKey}
    {rest : List (TimerEvent TimerKey)} (ht : s.evm.timerList = t :: rest) (now : Nat) :
    NeverInv P addr started { s with clock := now, evm := { s.evm with timerList := rest } } :=
  ⟨h.mode, h.ifAddr, h.notQuerier,
    fun k hk => h.timers k (by simp only [Sys.pending, ht, keys_cons]; exact .tail _ hk),
    h.injected⟩

theorem mem_pending_of_cons {t : TimerEvent TimerKey} {rest : List (TimerEvent TimerKey)}
    (ht : s.evm.timerList = t :: rest) : t.key ∈ s.pending := by
  simp [Sys.pending, ht]

theorem ifAddr_modifyIface (h : NeverInv P addr started s) {i : Nat} {f : Interface → Interface}
    (ha : (f (s.iface i)).ifAddr = (s.iface i).ifAddr) (j : Nat) :
    ((s.modifyIface i f).iface j).ifAddr = addr j :=
  s.iface_modifyIface_cases (fun j ifc => ifc.ifAddr = addr j) i f (fun _ => ha.trans (h.ifAddr i))
    (fun j _ => h.ifAddr j) j

/-- An update of interface `i` that keeps its address and does not make it the querier. -/
theorem modifyIface (h : NeverInv P addr started s) (i : Nat) (f : Interface → Interface)
    (ha : (f (s.iface i)).ifAddr = (s.iface i).ifAddr)
    (hq : i < s.interfaceList.length → started i → addr i ≠ P.allOnes →
      (f (s.iface i)).querierAddr ≠ addr i) :
    NeverInv P addr started (s.modifyIface i f) :=
  ⟨h.mode, h.ifAddr_modifyIface ha, fun j hj => s.iface_modifyIface_cases (fun j ifc =>
      j < s.interfaceList.length → started j → addr j ≠ P.allOnes → ifc.querierAddr ≠ addr j)
    i f (fun hi _ => hq hi) (fun j _ => h.notQuerier j) j (by simpa using hj), h.timers,
    h.injected⟩

/-- An update that keeps the address and the querier of interface `i`. -/
theorem modifyKeep (h : NeverInv P addr started s) (i : Nat) (f : Interface → Interface)
    (ha : (f (s.iface i)).ifAddr = (s.iface i).ifAddr)
    (hq : (f (s.iface i)).querierAddr = (s.iface i).querierAddr) :
    NeverInv P addr started (s.modifyIface i f) :=
  h.modifyIface i f ha fun hi hs hne => hq ▸ h.notQuerier i hi hs hne

/-- An update of interface `i` that keeps its querier state. -/
theorem modifyView (h : NeverInv P addr started s) (i : Nat) (f : Interface → Interface)
    (hf : (f (s.iface i)).querierView = (s.iface i).querierView) :
    NeverInv P addr started (s.modifyIface i f) :=
  h.modifyKeep i f (Interface.ifAddr_eq_of_querierView hf)
    (Interface.querierAddr_eq_of_querierView hf)

/-! ### The shared handlers -/

theorem sendMrdAdvertisement (h : NeverInv P addr started s) (i rand : Nat) :
    NeverInv P addr started (McastBridge.sendMrdAdvertisement s i rand) := by
  have h₁ := h.inject (p := .mrdAdvertisement i) trivial
  dsimp only [McastBridge.sendMrdAdvertisement]
  split
  · exact (h₁.modifyKeep i _ rfl rfl).addTimer _ trivial
  · exact h₁.addTimer _ trivial

theorem handleMrdSolicitation (h : NeverInv P addr started s) (i rand : Nat) :
    NeverInv P addr started (McastBridge.handleMrdSolicitation s i rand) :=
  (h.delTimer _).sendMrdAdvertisement i rand

/-- A group-specific query, on an interface whose address is the sentinel. -/
theorem sendGroupSpecificQuery (h : NeverInv P addr started s) (P' : Proto) {i : Nat}
    (hi : addr i = P.allOnes) (g : Nat) :
    NeverInv P addr started (McastBridge.sendGroupSpecificQuery P' s i g) := by
  dsimp only [McastBridge.sendGroupSpecificQuery]
  split
  · refine NeverInv.addTimer ?_ _ hi
    exact (h.inject (by exact hi)).modifyView i _ (Interface.querierView_modifyGroup _ _ _)
  · exact (h.inject (by exact hi)).modifyView i _ (Interface.querierView_modifyGroup _ _ _)

theorem leaveAccept (h : NeverInv P addr started s) (P' : Proto) {i : Nat}
    (hi : addr i = P.allOnes) (g : Nat) :
    NeverInv P addr started (McastBridge.leaveAccept P' s i g) := by
  dsimp only [McastBridge.leaveAccept]
  refine NeverInv.sendGroupSpecificQuery ?_ P' hi g
  refine NeverInv.modifyView ?_ i _ (Interface.querierView_modifyGroup _ _ _)
  exact (h.delTimer _).addTimer _ trivial

theorem recordQuerier (h : NeverInv P addr started s) (P' : Proto) (i : Nat) (q : Query) :
    NeverInv P addr started (McastBridge.recordQuerier P' s i q) := by
  dsimp only [McastBridge.recordQuerier]
  refine NeverInv.addTimer (NeverInv.delTimer ?_ _) _ trivial
  split
  · exact h.modifyKeep i _ rfl rfl
  · exact h

/-- The found slot's interface replaces interface `i`. -/
theorem setFound (h : NeverInv P addr started s) {isLinkScope : Nat → Bool} {i a : Nat}
    {ifc : Interface} {g : Nat}
    (hfind : interfaceFindGroup isLinkScope (s.iface i) a = some (ifc, g)) :
    NeverInv P addr started (s.setIface i ifc) :=
  h.modifyView i _ (querierView_of_interfaceFindGroup hfind)

theorem queryGroup (h : NeverInv P addr started s) (P' : Proto) (i a : Nat) :
    NeverInv P addr started (McastBridge.queryGroup P' s i a) := by
  unfold McastBridge.queryGroup
  split
  · exact h
  · rename_i ifc g hfind
    have h₁ := h.setFound hfind
    dsimp only
    split
    · exact h₁
    · exact (h₁.delTimer _).addTimer _ trivial

theorem joinCommon (h : NeverInv P addr started s) (P' : Proto) (i g : Nat) :
    NeverInv P addr started (McastBridge.joinCommon P' s i g) := by
  dsimp only [McastBridge.joinCommon]
  have h₁ : NeverInv P addr started
      (if (s.group i g).active then s.delTimer (.groupTimeout i g) else s) := by
    split
    · exact h.delTimer _
    · exact h
  exact ((h₁.withBridgeList _).modifyView i _ (querierView_joinActivateAt _ _ _)).addTimer _
    (by trivial)

theorem groupTimeout (h : NeverInv P addr started s) (i g : Nat) :
    NeverInv P addr started (McastBridge.groupTimeout s i g) :=
  (h.withBridgeList _).modifyView i _ (querierView_groupTimeoutAt _ _ _)

theorem v1HostTimeout (h : NeverInv P addr started s) (i g : Nat) :
    NeverInv P addr started (McastBridge.v1HostTimeout s i g) :=
  h.modifyView i _ (Interface.querierView_modifyGroup _ _ _)

/-- In mode never, a querier timeout reopens the election with the sentinel. -/
theorem querierTimeout (h : NeverInv P addr started s) (i : Nat) :
    NeverInv P addr started (McastBridge.querierTimeout P s i) := by
  unfold McastBridge.querierTimeout
  rw [if_neg (not_not.2 h.mode)]
  exact h.modifyIface i _ rfl fun _ _ hne => hne.symm

/-- The election never makes the interface the querier: a new querier is the query's source. -/
theorem electQuerier (h : NeverInv P addr started s) (P' : Proto) {i src : Nat} (q : Query)
    (hsrc : src ≠ (s.iface i).ifAddr) {s' : Sys} (he : electQuerier P' s i src q = some s') :
    NeverInv P addr started s' := by
  rw [h.ifAddr] at hsrc
  dsimp only [McastBridge.electQuerier] at he
  split at he
  · split at he
    · split at he
      · cases he
        exact (h.delTimer _).modifyIface i _ (by split <;> rfl) fun _ _ _ => by
          split <;> exact hsrc
      · cases he
    · split at he
      · cases he
        exact h.modifyIface i _ (by split <;> rfl) fun _ _ _ => by split <;> exact hsrc
      · cases he; exact h
  · cases he; exact h

theorem handleQuery (h : NeverInv P addr started s) (P' : Proto) {i src : Nat} (q : Query)
    (hsrc : src ≠ (s.iface i).ifAddr) :
    NeverInv P addr started (McastBridge.handleQuery P' s i src q) := by
  unfold McastBridge.handleQuery
  split
  · exact h
  · rename_i s' he
    have h₁ := (h.electQuerier P' q hsrc he).recordQuerier P' i q
    dsimp only
    split
    · exact h₁
    · split
      · exact h₁
      · exact h₁.queryGroup P' i _

/-- The group-record loop keeps the invariant, given a leave that keeps it. -/
theorem groupRecords (P' : Proto) (leave : Sys → Nat → Nat → Sys) (i : Nat)
    (hleave : ∀ s g, NeverInv P addr started s → NeverInv P addr started (leave s i g)) :
    ∀ (n : Nat) (buf : List UInt8) (s : Sys), NeverInv P addr started s →
      NeverInv P addr started (McastBridge.groupRecords P' leave s i n buf)
  | 0, _, _, h => h
  | n + 1, buf, s, h => by
      unfold McastBridge.groupRecords
      split
      · exact h
      · dsimp only
        split
        · exact h
        · split
          · exact groupRecords P' leave i hleave n _ _ h
          · rename_i ifc g hfind
            have h₁ := h.setFound hfind
            have hjoin := fun b => groupRecords P' leave i hleave n b _ (h₁.joinCommon P' i g)
            have hleave₁ := fun b => groupRecords P' leave i hleave n b _ (hleave _ g h₁)
            split <;> (try split) <;> first | exact h₁ | exact hjoin _ | exact hleave₁ _

/-! ### Leaves -/

/-- A leave on a started interface whose address is not the sentinel meets a non-querier or,
beyond the interface list, an inactive slot. -/
theorem leave_rejected (h : NeverInv P addr started s) {i : Nat} (hs : started i)
    (ha : addr i ≠ P.allOnes) (g : Nat) :
    (s.iface i).querierAddr ≠ (s.iface i).ifAddr ∨ (s.group i g).active = false := by
  rcases Nat.lt_or_ge i s.interfaceList.length with hi | hi
  · exact .inl (by rw [h.ifAddr]; exact h.notQuerier i hi hs ha)
  · right
    rw [Sys.group, Sys.iface, List.getD_eq_default _ _ hi]
    rfl

theorem igmpLeaveCommon_eq (h : NeverInv P addr started s) {i : Nat} (hs : started i)
    (ha : addr i ≠ P.allOnes) (g : Nat) : McastBridge.igmpLeaveCommon s i g = s := by
  unfold McastBridge.igmpLeaveCommon
  rcases h.leave_rejected hs ha g with hq | hg
  · rw [if_pos hq]
  · simp only [hg, Bool.not_false, ite_self, if_true]

theorem mldLeaveCommon_eq (h : NeverInv P addr started s) {i : Nat} (hs : started i)
    (ha : addr i ≠ P.allOnes) (g : Nat) : McastBridge.mldLeaveCommon s i g = s := by
  unfold McastBridge.mldLeaveCommon
  rcases h.leave_rejected hs ha g with hq | hg
  · rw [if_pos hq]
  · simp only [hg, Bool.not_false, ite_self, if_true]

/-- A leave keeps the invariant: ignored, or accepted on a sentinel interface. -/
theorem igmpLeaveCommon (h : NeverInv P addr started s) {i : Nat} (hs : started i) (g : Nat) :
    NeverInv P addr started (McastBridge.igmpLeaveCommon s i g) := by
  by_cases ha : addr i = P.allOnes
  · unfold McastBridge.igmpLeaveCommon
    split_ifs
    exacts [h, h, h, h, h.leaveAccept igmpProto ha g]
  · rw [h.igmpLeaveCommon_eq hs ha g]; exact h

theorem mldLeaveCommon (h : NeverInv P addr started s) {i : Nat} (hs : started i) (g : Nat) :
    NeverInv P addr started (McastBridge.mldLeaveCommon s i g) := by
  by_cases ha : addr i = P.allOnes
  · unfold McastBridge.mldLeaveCommon
    split_ifs
    exacts [h, h, h, h.leaveAccept mldProto ha g]
  · rw [h.mldLeaveCommon_eq hs ha g]; exact h

/-! ### IGMP -/

theorem handleIgmpV1Report (h : NeverInv P addr started s) (i : Nat) (buf : List UInt8) :
    NeverInv P addr started (McastBridge.handleIgmpV1Report s i buf) := by
  unfold McastBridge.handleIgmpV1Report
  split
  · exact h
  · split
    · exact h
    · rename_i ifc g hfind
      have h₁ := h.setFound hfind
      dsimp only
      refine NeverInv.joinCommon ?_ _ _ _
      refine NeverInv.addTimer ?_ _ trivial
      split
      · exact h₁.delTimer _
      · exact h₁.modifyView i _ (Interface.querierView_modifyGroup _ _ _)

theorem handleIgmpV2Report (h : NeverInv P addr started s) (i : Nat) (buf : List UInt8) :
    NeverInv P addr started (McastBridge.handleIgmpV2Report s i buf) := by
  unfold McastBridge.handleIgmpV2Report
  split
  · exact h
  · split
    · exact h
    · rename_i ifc g hfind
      exact (h.setFound hfind).joinCommon _ i g

theorem handleIgmpV2Leave (h : NeverInv P addr started s) {i : Nat} (hs : started i)
    (buf : List UInt8) : NeverInv P addr started (McastBridge.handleIgmpV2Leave s i buf) := by
  unfold McastBridge.handleIgmpV2Leave
  split
  · exact h
  · split
    · exact h
    · rename_i ifc g hfind
      exact (h.setFound hfind).igmpLeaveCommon hs g

theorem handleIgmpV3Report (h : NeverInv P addr started s) {i : Nat} (hs : started i)
    (buf : List UInt8) : NeverInv P addr started (McastBridge.handleIgmpV3Report s i buf) := by
  unfold McastBridge.handleIgmpV3Report
  split
  · exact h
  · exact groupRecords igmpProto _ i (fun _ g h' => h'.igmpLeaveCommon hs g) _ _ _ h

theorem igmpReceive (h : NeverInv P addr started s) {i : Nat} (hs : started i) (src : Nat)
    (buf : List UInt8) (rand : Nat) :
    NeverInv P addr started (McastBridge.igmpReceive s i src buf rand) := by
  unfold McastBridge.igmpReceive
  split
  · exact h
  · rename_i hsrc
    split
    · unfold McastBridge.handleIgmpQuery
      split
      · exact h
      · exact h.handleQuery _ _ hsrc
    · exact h.handleIgmpV1Report i buf
    · exact h.handleIgmpV2Report i buf
    · exact h.handleIgmpV2Leave hs buf
    · exact h.handleIgmpV3Report hs buf
    · exact h.handleMrdSolicitation i rand
    · exact h

theorem igmpRunTimer {s : Sys} (h : NeverInv igmpProto addr started s) {k : TimerKey}
    (hk : k.NeverAllowed igmpProto addr) (rand : Nat) :
    NeverInv igmpProto addr started (McastBridge.igmpRunTimer s k rand) := by
  cases k with
  | sendMrdAdvertisement i => exact h.sendMrdAdvertisement i rand
  | sendGeneralQuery i => exact (hk : False).elim
  | querierTimeout i => exact h.querierTimeout i
  | sendGroupSpecificQuery i g => exact h.sendGroupSpecificQuery igmpProto hk g
  | groupTimeout i g => exact h.groupTimeout i g
  | v1HostTimeout i g => exact h.v1HostTimeout i g

/-- **Every event of the IGMP subsystem keeps the invariant.** -/
theorem igmpStep {s s' : Sys} (h : NeverInv igmpProto addr (fun _ => True) s)
    (hs : Step McastBridge.igmpReceive McastBridge.igmpRunTimer s s') :
    NeverInv igmpProto addr (fun _ => True) s' := by
  cases hs with
  | receive i src buf now rand _ _ => exact (h.withClock now).igmpReceive trivial src buf rand
  | expire t rest now rand ht _ _ =>
      exact (h.pop ht now).igmpRunTimer (h.timers _ (mem_pending_of_cons ht)) rand

/-! ### MLD -/

theorem handleMldV1Report (h : NeverInv P addr started s) (i a : Nat) :
    NeverInv P addr started (McastBridge.handleMldV1Report s i a) := by
  unfold McastBridge.handleMldV1Report
  split
  · exact h
  · rename_i ifc g hfind
    exact (h.setFound hfind).joinCommon _ i g

theorem handleMldV1Leave (h : NeverInv P addr started s) {i : Nat} (hs : started i) (a : Nat) :
    NeverInv P addr started (McastBridge.handleMldV1Leave s i a) := by
  unfold McastBridge.handleMldV1Leave
  split
  · exact h
  · rename_i ifc g hfind
    exact (h.setFound hfind).mldLeaveCommon hs g

theorem mldReceive (h : NeverInv P addr started s) {i : Nat} (hs : started i) (src : Nat)
    (buf : List UInt8) (rand : Nat) :
    NeverInv P addr started (McastBridge.mldReceive s i src buf rand) := by
  unfold McastBridge.mldReceive
  split
  · exact h
  · rename_i hsrc
    split
    · exact h
    · split
      · exact h.handleQuery _ _ hsrc
      · exact h.handleMldV1Report i _
      · exact h.handleMldV1Leave hs _
      · split
        · exact h
        · exact groupRecords mldProto _ i (fun _ g h' => h'.mldLeaveCommon hs g) _ _ _ h
      · exact h.handleMrdSolicitation i rand
      · exact h

theorem mldRunTimer {s : Sys} (h : NeverInv mldProto addr started s) {k : TimerKey}
    (hk : k.NeverAllowed mldProto addr) (rand : Nat) :
    NeverInv mldProto addr started (McastBridge.mldRunTimer s k rand) := by
  cases k with
  | sendMrdAdvertisement i => exact h.sendMrdAdvertisement i rand
  | sendGeneralQuery i => exact (hk : False).elim
  | querierTimeout i => exact h.querierTimeout i
  | sendGroupSpecificQuery i g => exact h.sendGroupSpecificQuery mldProto hk g
  | groupTimeout i g => exact h.groupTimeout i g
  | v1HostTimeout i g => exact h

/-- **Every event of the MLD subsystem keeps the invariant.** -/
theorem mldStep {s s' : Sys} (h : NeverInv mldProto addr (fun _ => True) s)
    (hs : Step McastBridge.mldReceive McastBridge.mldRunTimer s s') :
    NeverInv mldProto addr (fun _ => True) s' := by
  cases hs with
  | receive i src buf now rand _ _ => exact (h.withClock now).mldReceive trivial src buf rand
  | expire t rest now rand ht _ _ =>
      exact (h.pop ht now).mldRunTimer (h.timers _ (mem_pending_of_cons ht)) rand

/-! ### Start-up -/

/-- Start-up's setting of the election parameters of interface `n`: it listens. -/
theorem listen {n : Nat} (h : NeverInv P addr (· < n) s) (f : Interface → Interface)
    (ha : (f (s.iface n)).ifAddr = (s.iface n).ifAddr)
    (hq : (f (s.iface n)).querierAddr = P.allOnes) :
    NeverInv P addr (· < n + 1) (s.modifyIface n f) :=
  ⟨h.mode, h.ifAddr_modifyIface ha, fun j hj => s.iface_modifyIface_cases (fun j ifc =>
      j < s.interfaceList.length → j < n + 1 → addr j ≠ P.allOnes → ifc.querierAddr ≠ addr j)
    n f (fun _ _ _ hne => hq ▸ hne.symm)
    (fun j hc hj _ hne => h.notQuerier j hj (by omega) hne) j (by simpa using hj), h.timers,
    h.injected⟩

/-- One pass of the start-up loop in mode never: advertise, then listen. -/
theorem startInterface {n : Nat} (h : NeverInv P addr (· < n) s) (r : Nat) :
    NeverInv P addr (· < n + 1) (McastBridge.startInterface P s n r) := by
  have h₁ := (h.modifyKeep n (fun ifc => { ifc with mrdInitialAdvertisementsRemaining := 2 })
    rfl rfl).sendMrdAdvertisement n r
  dsimp only [McastBridge.startInterface]
  rw [if_neg (by rw [h₁.mode]; decide),
    if_neg (by rw [Sys.querierMode_modifyIface, h₁.mode]; exact not_not.2 rfl)]
  exact h₁.listen _ rfl rfl

/-- **Start-up in mode never establishes the invariant for every interface.** -/
theorem start (P : Proto) {s : Sys} (hm : s.querierMode = .never)
    (ha : ∀ j, (s.iface j).ifAddr = addr j) (ht : s.pending = []) (hi : s.injected = [])
    (rands : Nat → Nat) : NeverInv P addr (fun _ => True) (McastBridge.start P s rands) := by
  have hfold : ∀ n, NeverInv P addr (· < n)
      ((List.range n).foldl (fun s i => McastBridge.startInterface P s i (rands i)) s) := by
    intro n
    induction n with
    | zero => exact ⟨hm, ha, fun _ _ h0 => absurd h0 (Nat.not_lt_zero _), by simp [ht], by simp [hi]⟩
    | succ n ih =>
        rw [List.range_succ, List.foldl_append]
        exact ih.startInterface (rands n)
  have h := hfold s.interfaceList.length
  have hlen := length_start P s rands
  exact ⟨h.mode, h.ifAddr, fun j hj _ => h.notQuerier j hj (hlen ▸ hj), h.timers, h.injected⟩

/-! ### Runs -/

theorem igmpReachable {nonConfiguredGroups : Nat} {bl : List BridgeInstance} {s : Sys}
    (hs : IgmpReachable .never nonConfiguredGroups bl s) :
    NeverInv igmpProto (fun j => ((registerAll (·.ipv4Addr) .inet bl).getD j default).ifAddr)
      (fun _ => True) s := by
  induction hs with
  | init h =>
      obtain ⟨now, rands, rfl⟩ := h
      exact start igmpProto rfl (fun _ => ifAddr_initializeSys ..) rfl rfl rands
  | step _ hst ih => exact ih.igmpStep hst

theorem mldReachable {nonConfiguredGroups : Nat} {bl : List BridgeInstance} {s : Sys}
    (hs : MldReachable .never nonConfiguredGroups bl s) :
    NeverInv mldProto (fun j => ((registerAll (·.ipv6AddrLl) .inet6 bl).getD j default).ifAddr)
      (fun _ => True) s := by
  induction hs with
  | init h =>
      obtain ⟨now, rands, rfl⟩ := h
      exact start mldProto rfl (fun _ => ifAddr_initializeSys ..) rfl rfl rands
  | step _ hst ih => exact ih.mldStep hst

/-- The invariant, once start-up has reached every interface, makes the state passive. -/
theorem passive (h : NeverInv P addr (fun _ => True) s) (leave : Sys → Nat → Nat → Sys)
    (hleave : ∀ i g, addr i ≠ P.allOnes → leave s i g = s) : Passive P leave s where
  notQuerier j hj ha := by
    rw [h.ifAddr] at ha ⊢
    exact h.notQuerier j hj trivial ha
  noQuery p hp hq := by
    have hal := h.injected p hp
    rw [h.ifAddr]
    cases p with
    | mrdAdvertisement i => cases hq
    | generalQuery i => exact (hal : False).elim
    | groupSpecificQuery i a b => exact hal
  leaveIgnored j g ha := hleave j g (h.ifAddr j ▸ ha)

end NeverInv

/-- **Querier mode never.**  In every state an IGMP or MLD subsystem started in mode never
reaches, whatever frames it receives and whenever its timers expire, no interface whose address
is not the sentinel is the querier or has sent a general or group-specific query, and every
leave on it is ignored. -/
theorem never_mode_quiet (nonConfiguredGroups : Nat) (bl : List BridgeInstance) :
    (∀ s, IgmpReachable .never nonConfiguredGroups bl s → Passive igmpProto igmpLeaveCommon s) ∧
    (∀ s, MldReachable .never nonConfiguredGroups bl s → Passive mldProto mldLeaveCommon s) := by
  constructor
  · intro s hs
    have h := NeverInv.igmpReachable hs
    exact h.passive _ fun i g ha => h.igmpLeaveCommon_eq trivial ha g
  · intro s hs
    have h := NeverInv.mldReachable hs
    exact h.passive _ fun i g ha => h.mldLeaveCommon_eq trivial ha g

/-- A run in mode never: a query from another router makes it the querier of `eth0`. -/
theorem never_mode_quiet_after_query : ∃ s, IgmpReachable .never 100 igmpRunBridges s ∧
    (s.iface 0).querierAddr = 0x0a000009 ∧ Passive igmpProto igmpLeaveCommon s := by
  obtain ⟨s, hs, hq⟩ : ∃ s, IgmpReachable .never 100 igmpRunBridges s ∧
      (s.iface 0).querierAddr = 0x0a000009 :=
    ⟨_, Reachable.runEvents igmpReceive igmpRunTimer
      [.receive 0 0x0a000009 [0x11, 100, 0, 0, 0, 0, 0, 0] 1000000 0]
      (Reachable.init ⟨0, fun _ => 0, rfl⟩) (by decide), by decide⟩
  exact ⟨s, hs, hq, (never_mode_quiet 100 igmpRunBridges).1 s hs⟩

end McastBridge
