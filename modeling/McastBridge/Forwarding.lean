import McastBridge.Daemon
import McastBridge.ConfigRead
import McastBridge.MldTimers
/-
**What the bridges forward.**

`bridge_receive` drops a datagram received on an interface that is not inbound active, and
otherwise sends it out of every other interface of its bridge that is outbound active.  The flags
it reads are left clear by `read_config`, set by `initialize_interfaces` and switched by the IGMP
and MLD threads.  In every state the daemon reaches they are these: a direction that is not
dynamic is active; a dynamic outbound interface is active exactly when the group it is subscribed
to is active in the table of its bridge's family; and a dynamic inbound interface is active
exactly when another interface of its bridge sends.  So in every interleaving of the two threads
the forwarding decision depends only on the configuration and on the group tables
(`McastBridge.Daemon.forwardSet`).

Main definitions:

* `McastBridge.StaticActive`, `McastBridge.StaticInv` — every direction that is not dynamic is
  active, on one bridge and on all of them;
* `McastBridge.groupActiveFor` — some group a bridge interface is subscribed to is active in a
  table;
* `McastBridge.Daemon.sends`, `McastBridge.Daemon.listens`, `McastBridge.Daemon.forwardSet` — the
  forwarding that the configuration and the group tables call for.

Main results:

* `McastBridge.StaticInv.worldStep` — joins and expiries never deactivate a direction that is not
  dynamic;
* `McastBridge.Coupled.outboundActive_eq`, `McastBridge.Coupled.inboundActive_eq` — the flags of a
  coupled world, read from the configuration and the tables;
* `McastBridge.Daemon.ShownBy.outboundActive_eq`, `McastBridge.Daemon.ShownBy.inboundActive_eq` —
  so an interface of a daemon shown by a reachable world is outbound active exactly when it sends,
  and inbound active exactly when it listens;
* `McastBridge.readConfig_flagsClear` — `read_config` leaves every flag clear;
* `McastBridge.readConfig_linkLocal`, `McastBridge.readConfig_mldTimers` — it keeps no link-local
  address that is all ones, so the MLD timer invariant holds for every configuration it accepts;
* `McastBridge.daemon_forwarding` — **for every configuration `read_config` accepts, in every
  state the daemon reaches, `bridge_receive` forwards exactly as the configuration and the group
  tables call for**.
-/

set_option relaxedAutoImplicit false
set_option autoImplicit false

namespace McastBridge

/-! ### Directions that are not dynamic stay active -/

/-- Every direction of every interface of the list that is not dynamic is active. -/
def StaticActive (l : List BridgeInterface) : Prop :=
  ∀ j < l.length, ((l.getD j default).inboundConfiguration ≠ .dynamic →
      (l.getD j default).inboundActive = true) ∧
    ((l.getD j default).outboundConfiguration ≠ .dynamic →
      (l.getD j default).outboundActive = true)

namespace StaticActive

variable {l l' : List BridgeInterface}

theorem of_grows (hl : StaticActive l) (g : Grows l l') : StaticActive l' := fun j hj => by
  have hj' : j < l.length := g.length_eq ▸ hj
  rw [g.inboundConfiguration j hj', g.outboundConfiguration j hj']
  exact ⟨fun h => g.inboundActive j hj' ((hl j hj').1 h),
    fun h => g.outboundActive j hj' ((hl j hj').2 h)⟩

/-- `interface_deactivate_outbound` deactivates only dynamic directions. -/
theorem deactivateOutboundAt (hl : StaticActive l) (k : Nat) :
    StaticActive (McastBridge.deactivateOutboundAt l k) := by
  by_cases h : (l.getD k default).outboundActive = true ∧
      (l.getD k default).outboundConfiguration = .dynamic
  · intro j hj
    have hj' : j < l.length := by simpa using hj
    obtain ⟨hi, ho⟩ := hl j hj'
    rw [deactivateOutboundAt_getD _ _ _ hj' h.1 h.2]
    split_ifs with hjk hc
    · subst hjk; exact ⟨hi, fun hne => absurd h.2 hne⟩
    · exact ⟨hi, ho⟩
    · have hdyn : (l.getD j default).inboundConfiguration = .dynamic :=
        by_contra fun hne => hc (.inl hne)
      simp only [interfaceDeactivateInbound_inboundConfiguration, hdyn,
        interfaceDeactivateInbound_outboundConfiguration, interfaceDeactivateInbound_outboundActive]
      exact ⟨fun hne => absurd rfl hne, ho⟩
  · rwa [deactivateOutboundAt_of_not l k h]

end StaticActive

/-- `McastBridge.StaticActive` on every bridge. -/
def StaticInv (bl : List BridgeInstance) : Prop :=
  ∀ b, StaticActive (bl.getD b default).interfaceList

namespace StaticInv

variable {bl : List BridgeInstance}

theorem modifyInterfaces (hbl : StaticInv bl) (b : Nat)
    (f : List BridgeInterface → List BridgeInterface)
    (hf : StaticActive (bl.getD b default).interfaceList →
      StaticActive (f (bl.getD b default).interfaceList)) :
    StaticInv (McastBridge.modifyInterfaces bl b f) := by
  intro b'
  rcases Nat.lt_or_ge b' bl.length with hb' | hb'
  · simp only [McastBridge.modifyInterfaces, getD_modify _ _ _ _ _ hb']
    split
    · rename_i he; subst he; exact hf (hbl _)
    · exact hbl b'
  · rw [List.getD_eq_default _ _ (by simpa [McastBridge.modifyInterfaces] using hb')]
    exact fun j hj => absurd hj (Nat.not_lt_zero _)

theorem foldl_activate (hbl : StaticInv bl) (S : List BridgeHandle) :
    StaticInv (S.foldl interfaceActivateOutbound bl) := by
  induction S generalizing bl with
  | nil => exact hbl
  | cons x S ih =>
      exact ih (hbl.modifyInterfaces _ _ fun h => h.of_grows (activateOutboundAt_grows _ _))

theorem foldl_deactivate (hbl : StaticInv bl) (S : List BridgeHandle) :
    StaticInv (S.foldl interfaceDeactivateOutbound bl) := by
  induction S generalizing bl with
  | nil => exact hbl
  | cons x S ih => exact ih (hbl.modifyInterfaces _ _ fun h => h.deactivateOutboundAt _)

/-- Start-up activates every direction that is not dynamic. -/
theorem initializeInterfaces (bl : List BridgeInstance) :
    StaticInv (McastBridge.initializeInterfaces bl) := by
  intro b
  rcases Nat.lt_or_ge b bl.length with hb | hb
  · rw [initializeInterfaces_getD _ _ hb]
    obtain ⟨g, hset⟩ := foldl_initializeInterface
      (List.range (bl.getD b default).interfaceList.length) (bl.getD b default).interfaceList
    intro j hj
    have hj' : j < (bl.getD b default).interfaceList.length := g.length_eq ▸ hj
    rw [g.inboundConfiguration j hj', g.outboundConfiguration j hj']
    exact hset j (List.mem_range.2 hj') hj'
  · rw [List.getD_eq_default _ _ (by simpa [McastBridge.initializeInterfaces] using hb)]
    exact fun j hj => absurd hj (Nat.not_lt_zero _)

/-- Joins and expiries never deactivate a direction that is not dynamic. -/
theorem worldStep {w w' : World} (hw : StaticInv w.bridgeList) (hs : WorldStep w w') :
    StaticInv w'.bridgeList := by
  cases hs with
  | join fam k g =>
      show StaticInv (joinActivateAt _ _ g).1
      rw [joinActivateAt_bridgeList]
      split
      · exact hw
      · exact hw.foldl_activate _
  | timeout fam k g =>
      show StaticInv (groupTimeoutAt _ _ g).1
      rw [groupTimeoutAt_bridgeList]
      exact hw.foldl_deactivate _

end StaticInv

theorem WorldReachable.staticInv {n : Nat} {bl : List BridgeInstance} {w : World}
    (hw : WorldReachable n bl w) : StaticInv w.bridgeList := by
  induction hw with
  | init => exact StaticInv.initializeInterfaces bl
  | step _ hs ih => exact ih.worldStep hs

/-! ### The flags of a coupled world -/

/-- Some group that the bridge interface `h` is subscribed to is active in the table `ifs`. -/
def groupActiveFor (ifs : List Interface) (h : BridgeHandle) : Bool :=
  ifs.any fun ifc => ifc.groupList.any fun grp =>
    grp.active && decide (h ∈ grp.bridgeInterfaceList)

theorem any_map_eq {α β : Type} (F : α → β) (p : β → Bool) :
    ∀ l : List α, (l.map F).any p = l.any fun a => p (F a)
  | [] => rfl
  | a :: l => by rw [List.map_cons, List.any_cons, List.any_cons, any_map_eq F p l]

/-- The test reads only the planes of the table. -/
theorem groupActiveFor_congr {ifs ifs' : List Interface} (h : planes ifs = planes ifs')
    (x : BridgeHandle) : groupActiveFor ifs x = groupActiveFor ifs' x := by
  have e : ∀ l : List Interface, groupActiveFor l x =
      (planes l).any fun p => p.any fun e => e.1 && decide (x ∈ e.2) := fun l => by
    rw [planes, any_map_eq]
    exact congrArg l.any (funext fun ifc => (any_map_eq (fun grp : Group =>
      (grp.active, grp.bridgeInterfaceList)) (fun e => e.1 && decide (x ∈ e.2)) _).symm)
  rw [e, e, h]

theorem groupActiveFor_eq_true (ifs : List Interface) (x : BridgeHandle) :
    groupActiveFor ifs x = true ↔ ∃ k g, ((ifs.getD k default).group g).active = true ∧
      x ∈ ((ifs.getD k default).group g).bridgeInterfaceList := by
  simp only [groupActiveFor, List.any_eq_true, Bool.and_eq_true, decide_eq_true_eq]
  constructor
  · rintro ⟨ifc, hifc, grp, hgrp, hx⟩
    obtain ⟨k, hk, rfl⟩ := List.getElem_of_mem hifc
    obtain ⟨g, hg, rfl⟩ := List.getElem_of_mem hgrp
    refine ⟨k, g, ?_⟩
    rwa [List.getD_eq_getElem _ _ hk, Interface.group, List.getD_eq_getElem _ _ hg]
  · rintro ⟨k, g, ha, hx⟩
    have hk : k < ifs.length := by
      by_contra hk
      rw [List.getD_eq_default _ _ (Nat.le_of_not_lt hk)] at ha
      exact Bool.false_ne_true ha
    have hg : g < (ifs.getD k default).groupListAllocated := by
      by_contra hg
      rw [Interface.group_of_le _ _ (Nat.le_of_not_lt hg)] at ha
      exact Bool.false_ne_true ha
    refine ⟨_, List.getD_eq_getElem ifs default hk ▸ List.getElem_mem hk, _, ?_, ha, hx⟩
    rw [Interface.group, List.getD_eq_getElem _ _ hg]
    exact List.getElem_mem hg

section Flags

variable {n : Nat} {bl : List BridgeInstance} {w : World}

/-- In a coupled world an interface is outbound active exactly when it is not dynamic outbound
or a group it is subscribed to is active in the table of its bridge's family. -/
theorem Coupled.outboundActive_eq (hw : Coupled n bl w) (hs : StaticInv w.bridgeList)
    {h : BridgeHandle} (hv : h.Valid bl) :
    (interfaceAt w.bridgeList h).outboundActive =
      ((interfaceAt bl h).outboundConfiguration != .dynamic ||
        groupActiveFor (w.tables (bl.getD h.bridgeIndex default).family) h) := by
  by_cases hd : (interfaceAt bl h).outboundConfiguration = .dynamic
  · rw [hd, bne_self_eq_false, Bool.false_or, Bool.eq_iff_iff, groupActiveFor_eq_true]
    constructor
    · intro ha
      obtain ⟨k, g, hm⟩ := registerAll_complete (registrationAddr _) _ bl hv hd rfl
      rw [← initial_slot n, ← hw.subscribers] at hm
      exact ⟨k, g, (hw.outbound _ _ _ _ hm).symm.trans ha, hm⟩
    · rintro ⟨k, g, ha, hm⟩
      exact (hw.outbound _ k g h hm).trans ha
  · have hcfg : (interfaceAt w.bridgeList h).outboundConfiguration =
        (interfaceAt bl h).outboundConfiguration :=
      congrArg Prod.snd (config_of_shape hw.shape_eq h)
    have ha : (interfaceAt w.bridgeList h).outboundActive = true :=
      (hs h.bridgeIndex h.index ((valid_of_shape hw.shape_eq h).2 hv).2).2 (hcfg ▸ hd)
    rw [ha, bne_iff_ne.2 hd, Bool.true_or]

/-- In a coupled world an interface is inbound active exactly when it is not dynamic inbound or
another interface of its bridge is outbound active. -/
theorem Coupled.inboundActive_eq (hw : Coupled n bl w) (hs : StaticInv w.bridgeList)
    {b p : Nat} (hp : p < (bl.getD b default).interfaceList.length) :
    (interfaceAt w.bridgeList ⟨b, p⟩).inboundActive =
      ((interfaceAt bl ⟨b, p⟩).inboundConfiguration != .dynamic ||
        (List.range (bl.getD b default).interfaceList.length).any fun q =>
          q != p && (interfaceAt w.bridgeList ⟨b, q⟩).outboundActive) := by
  have hlen : (w.bridgeList.getD b default).interfaceList.length =
      (bl.getD b default).interfaceList.length := by
    simpa only [Function.comp, BridgeInstance.shape, List.length_map] using
      congrArg (List.length ∘ Prod.snd) (shape_getD_of_shape hw.shape_eq b)
  have hcfg : (interfaceAt w.bridgeList ⟨b, p⟩).inboundConfiguration =
      (interfaceAt bl ⟨b, p⟩).inboundConfiguration :=
    congrArg Prod.fst (config_of_shape hw.shape_eq ⟨b, p⟩)
  by_cases hd : (interfaceAt bl ⟨b, p⟩).inboundConfiguration = .dynamic
  · rw [hd, bne_self_eq_false, Bool.false_or, ← hlen]
    exact hw.peers b p (hlen ▸ hp) (hcfg.trans hd)
  · have ha : (interfaceAt w.bridgeList ⟨b, p⟩).inboundActive = true :=
      (hs b p (hlen ▸ hp)).1 (hcfg ▸ hd)
    rw [ha, bne_iff_ne.2 hd, Bool.true_or]

end Flags

/-! ### The forwarding the tables call for -/

namespace Daemon

/-- The thread of family `fam`. -/
def thread (d : Daemon) : Family → Sys
  | .inet => d.igmp
  | .inet6 => d.mld

/-- Interface `h` of the configuration `bl` sends: it is not dynamic outbound (static, or not
outbound at all: `initialize_interfaces` activates a direction configured none as well), or a
group it is subscribed to is active in the table of its bridge's family. -/
def sends (d : Daemon) (bl : List BridgeInstance) (h : BridgeHandle) : Bool :=
  (interfaceAt bl h).outboundConfiguration != .dynamic ||
    groupActiveFor (d.thread (bl.getD h.bridgeIndex default).family).interfaceList h

/-- Interface `p` of bridge `b` listens: it is not dynamic inbound (static, or not inbound at
all, which `initialize_interfaces` activates inbound as well), or another interface of its bridge
sends. -/
def listens (d : Daemon) (bl : List BridgeInstance) (b p : Nat) : Bool :=
  (interfaceAt bl ⟨b, p⟩).inboundConfiguration != .dynamic ||
    (List.range (bl.getD b default).interfaceList.length).any fun q => q != p && d.sends bl ⟨b, q⟩

/-- The interfaces by which a datagram received on interface `p` of bridge `b` is to leave: none
unless `p` is an interface of the bridge that listens, and otherwise every other interface of the
bridge that sends. -/
def forwardSet (d : Daemon) (bl : List BridgeInstance) (b p : Nat) : List Nat :=
  if p < (bl.getD b default).interfaceList.length ∧ d.listens bl b p = true then
    (List.range (bl.getD b default).interfaceList.length).filter fun j =>
      j != p && d.sends bl ⟨b, j⟩
  else []

variable {d : Daemon} {w : World}

theorem ShownBy.bridgeList_eq (h : d.ShownBy w) : w.bridgeList = d.bridgeList :=
  congrArg Prod.fst h.igmp

theorem ShownBy.planes_eq (h : d.ShownBy w) (fam : Family) :
    planes (w.tables fam) = planes (d.thread fam).interfaceList := by
  cases fam
  · exact congrArg Prod.snd h.igmp
  · exact congrArg Prod.snd h.mld

end Daemon

theorem any_range_congr {m : Nat} {f f' : Nat → Bool} (h : ∀ q < m, f q = f' q) :
    (List.range m).any f = (List.range m).any f' := by
  rw [Bool.eq_iff_iff]
  simp only [List.any_eq_true, List.mem_range]
  exact exists_congr fun q => and_congr_right fun hq => by rw [h q hq]

section Shown

variable {n : Nat} {bl : List BridgeInstance} {d : Daemon} {w : World}

/-- A bridge of a daemon shown by a reachable world has the interfaces of its configuration. -/
theorem Daemon.ShownBy.length_eq (hc : flagsClear bl = true) (hw : WorldReachable n bl w)
    (hsh : d.ShownBy w) (b : Nat) :
    (d.bridgeList.getD b default).interfaceList.length =
      (bl.getD b default).interfaceList.length := by
  simpa only [Function.comp, BridgeInstance.shape, List.length_map, hsh.bridgeList_eq] using
    congrArg (List.length ∘ Prod.snd) (shape_getD_of_shape (hw.coupled hc).shape_eq b)

/-- An interface of a daemon shown by a reachable world is outbound active exactly when it
sends. -/
theorem Daemon.ShownBy.outboundActive_eq (hc : flagsClear bl = true)
    (hw : WorldReachable n bl w) (hsh : d.ShownBy w) {b j : Nat}
    (hj : j < (bl.getD b default).interfaceList.length) :
    (interfaceAt d.bridgeList ⟨b, j⟩).outboundActive = d.sends bl ⟨b, j⟩ := by
  have hb : b < bl.length := by
    by_contra hb
    rw [List.getD_eq_default _ _ (Nat.le_of_not_lt hb)] at hj
    exact Nat.not_lt_zero _ hj
  rw [← hsh.bridgeList_eq, (hw.coupled hc).outboundActive_eq hw.staticInv ⟨hb, hj⟩,
    Daemon.sends, groupActiveFor_congr (hsh.planes_eq _)]

/-- An interface of a daemon shown by a reachable world is inbound active exactly when it
listens. -/
theorem Daemon.ShownBy.inboundActive_eq (hc : flagsClear bl = true)
    (hw : WorldReachable n bl w) (hsh : d.ShownBy w) {b p : Nat}
    (hp : p < (bl.getD b default).interfaceList.length) :
    (interfaceAt d.bridgeList ⟨b, p⟩).inboundActive = d.listens bl b p := by
  rw [← hsh.bridgeList_eq, (hw.coupled hc).inboundActive_eq hw.staticInv hp, hsh.bridgeList_eq,
    Daemon.listens]
  exact congrArg _ (any_range_congr fun q hq => by rw [hsh.outboundActive_eq hc hw hq])

end Shown

/-- What the bridges forward.  In every state the daemon reaches from a configuration with its
flags clear, in any interleaving of its IGMP and MLD threads, `bridge_receive` sends a
datagram received on interface `p` of bridge `b` out of exactly the interfaces that the
configuration and the two threads' group tables call for: none unless `p` listens, and otherwise
every other interface of the bridge that sends. -/
theorem forwarding_of_flagsClear (igmpMode mldMode : QuerierModeType) (nonConfiguredGroups : Nat)
    (bl : List BridgeInstance) (hc : flagsClear bl = true) (d : Daemon)
    (hd : DaemonReachable igmpMode mldMode nonConfiguredGroups bl d) (b p : Nat) :
    bridgeReceive (d.bridgeList.getD b default) p = d.forwardSet bl b p := by
  obtain ⟨w, hw, hsh⟩ := daemon_refines_world _ _ _ _ d hd
  unfold bridgeReceive Daemon.forwardSet
  by_cases hp : p < (bl.getD b default).interfaceList.length
  · rw [show (d.bridgeList.getD b default).interfaceList.getD p default =
      interfaceAt d.bridgeList ⟨b, p⟩ from rfl, hsh.inboundActive_eq hc hw hp,
      hsh.length_eq hc hw b]
    cases d.listens bl b p
    · simp
    · simp only [Bool.not_true, hp, and_self, if_true]
      exact List.filter_congr fun j hj => by
        rw [show (d.bridgeList.getD b default).interfaceList.getD j default =
          interfaceAt d.bridgeList ⟨b, j⟩ from rfl,
          hsh.outboundActive_eq hc hw (List.mem_range.1 hj)]
  · rw [List.getD_eq_default _ _ (by rw [hsh.length_eq hc hw b]; omega),
      if_neg (show ¬(p < (bl.getD b default).interfaceList.length ∧ d.listens bl b p = true)
        from fun h => hp h.1)]
    rfl

/-! ### From the configuration file -/

/-- `read_config` leaves every direction of every bridge inactive. -/
theorem readConfig_flagsClear {env : OsEnv} {m : LineBuf} {input : List UInt8} {fuel : Nat}
    {bl : List BridgeInstance} (h : (readConfig env m input fuel).1 = .ok bl) :
    flagsClear bl = true := by
  simp only [flagsClear, List.all_eq_true]
  intro b hb x hx
  rcases readSections_mem h hb with hb | ⟨_, _, _, -, -, -, hb⟩
  · cases hb
  · obtain ⟨hi, ho⟩ := addBridge_inactive hb x hx
    simp [hi, ho]

/-- `read_config` keeps a link-local address only from fe80::/10, so none is all ones, the
address `initialize_mld` gives an interface that is not the querier. -/
theorem readConfig_linkLocal {env : OsEnv} {m : LineBuf} {input : List UInt8} {fuel : Nat}
    {bl : List BridgeInstance} (h : (readConfig env m input fuel).1 = .ok bl) :
    ∀ br ∈ bl, ∀ bi ∈ br.interfaceList, bi.ipv6AddrLl ≠ mldProto.allOnes := by
  intro br hbr bi hbi
  rcases readSections_mem h hbr with hbr | ⟨d, _, _, hd, hv, -, hb⟩
  · cases hbr
  have hx x (hx : x ∈ _) := hd.interfaces x (validateDraftBridge_interfaces hv ▸ hx)
  rcases addBridge_linkLocal hx hb bi hbi with h0 | hll
  · rw [h0]; decide
  · intro he; rw [he] at hll; exact absurd hll (by decide)

/-- So for every configuration `read_config` accepts, the MLD timers keep their invariant in
every state the MLD subsystem reaches. -/
theorem readConfig_mldTimers {env : OsEnv} {m : LineBuf} {input : List UInt8} {fuel : Nat}
    {bl : List BridgeInstance} (h : (readConfig env m input fuel).1 = .ok bl)
    {mode : QuerierModeType} {nonConfiguredGroups : Nat} {s : Sys}
    (hs : MldReachable mode nonConfiguredGroups bl s) : MldTimers s :=
  (TimerInv.mldReachable (readConfig_linkLocal h) hs).mldTimers

/-- **For every configuration `read_config` accepts, in every state the daemon then reaches,
`bridge_receive` forwards exactly as the configuration and the group tables call for.**  An
interface whose inbound configuration is none listens as a static inbound one does: what an
outbound-only interface receives is forwarded too. -/
theorem daemon_forwarding (env : OsEnv) (m : LineBuf) (input : List UInt8) (fuel : Nat)
    (bl : List BridgeInstance) (hr : (readConfig env m input fuel).1 = .ok bl)
    (igmpMode mldMode : QuerierModeType) (nonConfiguredGroups : Nat) (d : Daemon)
    (hd : DaemonReachable igmpMode mldMode nonConfiguredGroups bl d) (b p : Nat) :
    bridgeReceive (d.bridgeList.getD b default) p = d.forwardSet bl b p :=
  forwarding_of_flagsClear igmpMode mldMode nonConfiguredGroups bl (readConfig_flagsClear hr) d
    hd b p

/-- The sample configuration makes `eth1` outbound only, yet at start-up a datagram received on
it leaves by `eth0`. -/
theorem daemon_forwarding_sample :
    ∃ bl, (readConfig sampleEnv zeroBuf sampleConfig 64).1 = .ok bl ∧
      DaemonReachable .quick .quick 0 bl
        (daemonStart .quick .quick 0 bl 0 0 (fun _ => 0) (fun _ => 0)) ∧
      bridgeReceive ((daemonStart .quick .quick 0 bl 0 0 (fun _ => 0)
        (fun _ => 0)).bridgeList.getD 0 default) 1 =
        (daemonStart .quick .quick 0 bl 0 0 (fun _ => 0) (fun _ => 0)).forwardSet bl 0 1 ∧
      (daemonStart .quick .quick 0 bl 0 0 (fun _ => 0) (fun _ => 0)).forwardSet bl 0 1 = [0] :=
  have hr : (readConfig sampleEnv zeroBuf sampleConfig 64).1 =
      .ok [⟨.inet, 0xef010203, [⟨.dynamic, .none, false, false, 1, 0x0a000001, 0⟩,
        ⟨.none, .dynamic, false, false, 2, 0x0a000002, 0⟩]⟩] := by decide
  ⟨_, hr, .start 0 0 _ _,
    daemon_forwarding sampleEnv zeroBuf sampleConfig 64 _ hr .quick .quick 0 _ (.start 0 0 _ _)
      0 1, by decide⟩

end McastBridge
