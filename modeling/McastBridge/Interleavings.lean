import McastBridge.Threads
import McastBridge.Forwarding
/-
**Any interleaving of the two threads ends as the two threads' runs alone.**

The IGMP and MLD threads run their event loops at once on the one `bridge_list`, with no lock.
What makes that safe is the split of the list by family.  `initialize_interfaces` subscribes each
dynamic outbound interface to the subsystem of its bridge's family, and no handler changes a
subscriber list, so the subscribers of the IGMP tables are interfaces of IPv4 bridges and those
of the MLD tables interfaces of IPv6 bridges: each thread writes only its own family's bridges,
and it writes each of them from that bridge alone.  With `McastBridge.daemon_threads_alone` —
what a thread does to its own state does not depend on the list — this makes the daemon
serialisable: after any interleaving of a sequence of IGMP events with a sequence of MLD events,
from any state the daemon reaches, each thread is in the state its own sequence leaves when run
alone, each bridge is as the thread of its family left it alone, and the interleaving could
happen exactly when both runs alone can.  No update of either thread is lost or changed by the
other's, and the order in which the two threads' events interleave never shows.

Main definitions:

* `McastBridge.SubscribersIn` — the subscribers of a table are interfaces of bridges in a set;
* `McastBridge.DaemonEvent`, `McastBridge.Daemon.apply`, `McastBridge.Daemon.runEvents` — an
  event of either thread, and the daemon after a sequence of them;
* `McastBridge.DaemonEvent.igmpPart`, `McastBridge.DaemonEvent.mldPart` — the events of one
  thread in an interleaving;
* `McastBridge.Serial` — a daemon state as two runs alone leave it.

Main results:

* `McastBridge.Matches.agree_compl` — an event of a thread writes no bridge outside its table's
  subscribers, and keeps them where they were;
* `McastBridge.DaemonReachable.runEvents` — a sequence of enabled events is a run of the daemon;
* `McastBridge.Serial.apply` — an event of either thread keeps a daemon state as the two runs
  alone leave it;
* `McastBridge.daemon_threads_disjoint` — **an IGMP event changes no bridge that is not IPv4, and
  an MLD event none that is not IPv6**: the two threads' writes to `bridge_list`, which no lock
  guards, never touch the same record;
* `McastBridge.daemon_serial` — **after any interleaving, from any reachable state, the daemon
  is the two threads' runs alone**;
* `McastBridge.daemon_order_independent` — **two interleavings of the same IGMP events with the
  same MLD events end in the same state**.
-/

set_option relaxedAutoImplicit false
set_option autoImplicit false

namespace McastBridge

/-! ### Where a table's subscribers lie -/

/-- Every subscriber of every slot of the table `ifs` is an interface of a bridge in `S`. -/
def SubscribersIn (S : Nat → Prop) (ifs : List Interface) : Prop :=
  ∀ k g, ∀ x ∈ ((ifs.getD k default).group g).bridgeInterfaceList, S x.bridgeIndex

namespace SubscribersIn

variable {S : Nat → Prop} {ifs ifs' : List Interface}

theorem mono (h : SubscribersIn S ifs) {T : Nat → Prop} (hST : ∀ b, S b → T b) :
    SubscribersIn T ifs := fun k g x hx => hST _ (h k g x hx)

/-- The subscribers are part of the plane. -/
theorem of_planes (hp : planes ifs = planes ifs') (h : SubscribersIn S ifs) :
    SubscribersIn S ifs' := fun k g x hx =>
  h k g x ((Interface.group_of_plane (plane_getD_of_planes hp k) g).2 ▸ hx)

end SubscribersIn

/-- Joins and expiries never change a slot's subscribers. -/
theorem WorldStep.slot_subscribers {w w' : World} (hs : WorldStep w w') (fam : Family)
    (k g : Nat) : (w'.slot fam k g).bridgeInterfaceList = (w.slot fam k g).bridgeInterfaceList := by
  cases hs with
  | join fam₀ k₀ g₀ =>
      rw [World.slot_update]
      split
      · rename_i hc; obtain ⟨rfl, rfl, -⟩ := hc; exact (joinActivateAt_group _ _ _ _).1
      · rfl
  | timeout fam₀ k₀ g₀ =>
      rw [World.slot_update]
      split
      · rename_i hc; obtain ⟨rfl, rfl, -⟩ := hc; exact (groupTimeoutAt_group _ _ _ _).1
      · rfl

theorem WorldReachable.subscribers {n : Nat} {bl : List BridgeInstance} {w : World}
    (hw : WorldReachable n bl w) (fam : Family) (k g : Nat) :
    (w.slot fam k g).bridgeInterfaceList =
      ((World.initial n bl).slot fam k g).bridgeInterfaceList := by
  induction hw with
  | init => rfl
  | step _ hs ih => exact (hs.slot_subscribers fam k g).trans ih

/-- The subscribers of a table of a reachable world are interfaces of its family's bridges. -/
theorem WorldReachable.subscribersIn {n : Nat} {bl : List BridgeInstance} {w : World}
    (hw : WorldReachable n bl w) (fam : Family) :
    SubscribersIn (fun b => (bl.getD b default).family = fam) (w.tables fam) :=
  fun k g x (hx : x ∈ (w.slot fam k g).bridgeInterfaceList) => by
    rw [hw.subscribers, initial_slot] at hx
    exact (registerAll_subscriber _ _ _ hx).2.2

namespace Agree

variable {S : Nat → Prop}

theorem mono {bl bl' : List BridgeInstance} (h : Agree S bl bl') {T : Nat → Prop}
    (hTS : ∀ b, T b → S b) : Agree T bl bl' := fun b hb => h b (hTS b hb)

/-- Call-outs on interfaces of bridges in `S` leave the bridges outside `S` as they were. -/
theorem foldl_compl (f : BridgeHandle → List BridgeInterface → List BridgeInterface) :
    ∀ (bl : List BridgeInstance) (hs : List BridgeHandle), (∀ x ∈ hs, S x.bridgeIndex) →
      Agree (fun b => ¬S b)
        (hs.foldl (fun bl x => McastBridge.modifyInterfaces bl x.bridgeIndex (f x)) bl) bl
  | _, [], _ => refl _ _
  | bl, x :: hs, h => by
      refine (foldl_compl f _ hs fun y hy => h y (.tail _ hy)).trans fun b hb => ?_
      have hx : x.bridgeIndex ≠ b := fun e => hb (e ▸ h x (.head _))
      simp [McastBridge.modifyInterfaces, List.getElem?_modify, hx]

end Agree

/-! ### What one event of a thread writes -/

namespace FamStep

variable {S : Nat → Prop} {fam : Family} {w w' : World}

theorem subscribersIn (hs : FamStep fam w w') (h : SubscribersIn S (w.tables fam)) :
    SubscribersIn S (w'.tables fam) :=
  fun k g x (hx : x ∈ (w'.slot fam k g).bridgeInterfaceList) =>
    h k g x (hs.worldStep.slot_subscribers fam k g ▸ hx)

/-- A join or an expiry on a table whose subscribers lie in `S` writes no bridge outside `S`. -/
theorem agree_compl (hs : FamStep fam w w') (h : SubscribersIn S (w.tables fam)) :
    Agree (fun b => ¬S b) w'.bridgeList w.bridgeList := by
  cases hs with
  | join k g =>
      show Agree _ (joinActivateAt _ _ g).1 _
      rw [joinActivateAt_bridgeList]
      split
      · exact .refl _ _
      · exact Agree.foldl_compl (fun x l => activateOutboundAt l x.index) _ _ (h k g)
  | timeout k g =>
      show Agree _ (groupTimeoutAt _ _ g).1 _
      rw [groupTimeoutAt_bridgeList]
      exact Agree.foldl_compl (fun x l => deactivateOutboundAt l x.index) _ _ (h k g)

theorem agree_compl_of_rtg (hr : Relation.ReflTransGen (FamStep fam) w w')
    (h : SubscribersIn S (w.tables fam)) :
    Agree (fun b => ¬S b) w'.bridgeList w.bridgeList ∧ SubscribersIn S (w'.tables fam) := by
  induction hr with
  | refl => exact ⟨.refl _ _, h⟩
  | tail _ hs ih => exact ⟨(hs.agree_compl ih.2).trans ih.1, hs.subscribersIn ih.2⟩

end FamStep

namespace Matches

variable {fam : Family}

/-- A thread's event on a state whose table's subscribers lie in `S` writes no bridge outside
`S`, and the subscribers stay in `S`: the world made of the state alone is matched. -/
theorem agree_compl {S : Nat → Prop} {s s' : Sys} (h : Matches fam s s')
    (hS : SubscribersIn S s.interfaceList) :
    Agree (fun b => ¬S b) s'.bridgeList s.bridgeList ∧ SubscribersIn S s'.interfaceList := by
  obtain ⟨w', hr, hw'⟩ := h ⟨s.bridgeList, fun _ => s.interfaceList⟩ rfl
  obtain ⟨ha, hs⟩ := FamStep.agree_compl_of_rtg hr hS
  have hbl : w'.bridgeList = s'.bridgeList := congrArg Prod.fst hw'
  exact ⟨hbl ▸ ha, hs.of_planes (congrArg Prod.snd hw')⟩

/-- An event, enabled or not, of a thread whose handlers are matched. -/
theorem event {receive : Sys → Nat → Nat → List UInt8 → Nat → Sys}
    {runTimer : Sys → TimerKey → Nat → Sys}
    (hr : ∀ s i src buf rand, Matches fam s (receive s i src buf rand))
    (ht : ∀ s k rand, Matches fam s (runTimer s k rand)) (s : Sys) (e : Event) :
    Matches fam s (e.apply receive runTimer s) := by
  cases e with
  | receive i src buf now rand =>
      exact (of_view rfl).trans (hr { s with clock := now } i src buf rand)
  | expire now rand =>
      show Matches fam s (expireFirst runTimer s now rand)
      unfold expireFirst
      split
      · exact of_view rfl
      · rename_i t rest _
        exact (of_view rfl).trans
          (ht { s with clock := now, evm := { s.evm with timerList := rest } } t.key rand)

end Matches

/-- An event of a thread, on a state that agrees on `S` with the thread's state alone `t`, when
the subscribers of `t`'s table lie in `S`: the thread's state is the event's on `t`, with a list
that agrees with that state's on `S` and with the old list off `S`. -/
theorem Event.apply_alone {receive : Sys → Nat → Nat → List UInt8 → Nat → Sys}
    {runTimer : Sys → TimerKey → Nat → Sys} {S : Nat → Prop}
    (hr : ∀ {u v : Sys}, u.AgreeOn S v → ∀ i src buf rand,
      (receive u i src buf rand).AgreeOn S (receive v i src buf rand))
    (ht : ∀ {u v : Sys}, u.AgreeOn S v → ∀ k rand, (runTimer u k rand).AgreeOn S (runTimer v k rand))
    (mr : ∀ s i src buf rand, Matches .inet s (receive s i src buf rand))
    (mt : ∀ s k rand, Matches .inet s (runTimer s k rand))
    {u t : Sys} (h : u.AgreeOn S t) (hS : SubscribersIn S t.interfaceList) (e : Event) :
    ∃ bl, e.apply receive runTimer u = (e.apply receive runTimer t).withBridgeList bl ∧
      Agree S bl (e.apply receive runTimer t).bridgeList ∧
      Agree (fun b => ¬S b) bl u.bridgeList ∧
      SubscribersIn S (e.apply receive runTimer t).interfaceList := by
  obtain ⟨bl, he, ha⟩ := Event.apply_agreeOn hr ht h e
  obtain ⟨hu, -⟩ := (Matches.event mr mt u e).agree_compl (S := S) (by
    obtain ⟨_, rfl, -⟩ := h
    exact hS)
  obtain ⟨-, ht'⟩ := (Matches.event mr mt t e).agree_compl hS
  exact ⟨bl, he, ha, by rwa [he] at hu, ht'⟩

/-! ### Interleavings -/

/-- An event of the daemon: an event of the IGMP thread's loop or of the MLD thread's. -/
inductive DaemonEvent
  | igmp (e : Event)
  | mld (e : Event)
  deriving Repr

namespace DaemonEvent

/-- The event, if it is the IGMP thread's. -/
def igmpPart : DaemonEvent → Option Event
  | igmp e => some e
  | mld _ => none

/-- The event, if it is the MLD thread's. -/
def mldPart : DaemonEvent → Option Event
  | igmp _ => none
  | mld e => some e

end DaemonEvent

namespace Daemon

/-- The daemon after an event of one thread: the thread's handler runs on its own state and on
the list as the other thread left it, and the list it leaves is the shared one. -/
def apply (d : Daemon) : DaemonEvent → Daemon
  | .igmp e =>
      let s := e.apply igmpReceive igmpRunTimer d.igmpThread
      { d with bridgeList := s.bridgeList, igmp := s }
  | .mld e =>
      let s := e.apply mldReceive mldRunTimer d.mldThread
      { d with bridgeList := s.bridgeList, mld := s }

/-- The event can happen in `d`. -/
def enabled (d : Daemon) : DaemonEvent → Bool
  | .igmp e => e.enabled d.igmpThread
  | .mld e => e.enabled d.mldThread

/-- The daemon after a sequence of events, and whether each was enabled when it happened. -/
def runEvents : Daemon → List DaemonEvent → Daemon × Bool
  | d, [] => (d, true)
  | d, e :: es =>
      let r := runEvents (d.apply e) es
      (r.1, d.enabled e && r.2)

theorem step (d : Daemon) (e : DaemonEvent) (h : d.enabled e = true) :
    DaemonStep d (d.apply e) := by
  cases e with
  | igmp e => exact .igmp d _ (Event.step igmpReceive igmpRunTimer _ e h)
  | mld e => exact .mld d _ (Event.step mldReceive mldRunTimer _ e h)

end Daemon

/-- A run whose events were all enabled ends in a state the daemon reaches. -/
theorem DaemonReachable.runEvents {igmpMode mldMode : QuerierModeType} {n : Nat}
    {bl : List BridgeInstance} {d : Daemon} (es : List DaemonEvent)
    (hd : DaemonReachable igmpMode mldMode n bl d) (h : (d.runEvents es).2 = true) :
    DaemonReachable igmpMode mldMode n bl (d.runEvents es).1 := by
  induction es generalizing d with
  | nil => exact hd
  | cons e es ih =>
      simp only [Daemon.runEvents, Bool.and_eq_true] at h ⊢
      exact ih (hd.step (d.step e h.1)) h.2

@[simp] theorem Event.enabled_withBridgeList (s : Sys) (bl : List BridgeInstance) (e : Event) :
    e.enabled (s.withBridgeList bl) = e.enabled s := by
  cases e <;> rfl

/-! ### Serial states -/

/-- The daemon `d` as the IGMP thread's run alone leaves it in `t₄` and the MLD thread's in `t₆`,
the bridges in `S` being the IGMP thread's and the others the MLD thread's: each thread is its
state alone on the shared list, the list holds `t₄`'s bridges on `S` and `t₆`'s off it, and the
subscribers of each table lie on its thread's side. -/
structure Serial (S : Nat → Prop) (d : Daemon) (t₄ t₆ : Sys) : Prop where
  igmp : d.igmpThread = t₄.withBridgeList d.bridgeList
  mld : d.mldThread = t₆.withBridgeList d.bridgeList
  igmpAgree : Agree S d.bridgeList t₄.bridgeList
  mldAgree : Agree (fun b => ¬S b) d.bridgeList t₆.bridgeList
  igmpSubscribers : SubscribersIn S t₄.interfaceList
  mldSubscribers : SubscribersIn (fun b => ¬S b) t₆.interfaceList

namespace Serial

variable {S : Nat → Prop} {d : Daemon} {t₄ t₆ : Sys}

/-- A state the daemon reaches is serial with its own threads, the IPv4 bridges being the IGMP
thread's. -/
theorem of_reachable {igmpMode mldMode : QuerierModeType} {n : Nat} {bl : List BridgeInstance}
    (hd : DaemonReachable igmpMode mldMode n bl d) :
    Serial (fun b => (bl.getD b default).family = .inet) d d.igmpThread d.mldThread := by
  obtain ⟨w, hw, hsh⟩ := daemon_refines_world _ _ _ _ d hd
  refine ⟨rfl, rfl, .refl _ _, .refl _ _, ?_, ?_⟩
  · exact (hw.subscribersIn .inet).of_planes (congrArg Prod.snd hsh.igmp)
  · refine ((hw.subscribersIn .inet6).mono fun b hb => ?_).of_planes (congrArg Prod.snd hsh.mld)
    rw [hb]
    decide

theorem apply (h : Serial S d t₄ t₆) :
    ∀ e : DaemonEvent, Serial S (d.apply e)
      ((e.igmpPart.map (Event.apply igmpReceive igmpRunTimer t₄)).getD t₄)
      ((e.mldPart.map (Event.apply mldReceive mldRunTimer t₆)).getD t₆)
  | .igmp e => by
      obtain ⟨bl, he, ha, hf, hs⟩ := Event.apply_alone igmpReceive_agreeOn igmpRunTimer_agreeOn
        Matches.igmpReceive Matches.igmpRunTimer ⟨_, h.igmp, h.igmpAgree⟩ h.igmpSubscribers e
      dsimp only [Daemon.apply, DaemonEvent.igmpPart, DaemonEvent.mldPart, Option.map_some',
        Option.map_none', Option.getD_some, Option.getD_none]
      rw [he]
      exact ⟨rfl, by simpa using congrArg (·.withBridgeList bl) h.mld, ha, hf.trans h.mldAgree,
        hs, h.mldSubscribers⟩
  | .mld e => by
      obtain ⟨bl, he, ha, hf, hs⟩ := Event.apply_alone mldReceive_agreeOn mldRunTimer_agreeOn
        Matches.mldReceive Matches.mldRunTimer ⟨_, h.mld, h.mldAgree⟩ h.mldSubscribers e
      dsimp only [Daemon.apply, DaemonEvent.igmpPart, DaemonEvent.mldPart, Option.map_some',
        Option.map_none', Option.getD_some, Option.getD_none]
      rw [he]
      exact ⟨by simpa using congrArg (·.withBridgeList bl) h.igmp, rfl,
        (hf.mono fun _ hb hn => hn hb).trans h.igmpAgree, ha, h.igmpSubscribers, hs⟩

theorem enabled (h : Serial S d t₄ t₆) : ∀ e : DaemonEvent,
    d.enabled e = ((e.igmpPart.map (Event.enabled t₄)).getD true &&
      (e.mldPart.map (Event.enabled t₆)).getD true)
  | .igmp e => by simp [Daemon.enabled, DaemonEvent.igmpPart, DaemonEvent.mldPart, h.igmp]
  | .mld e => by simp [Daemon.enabled, DaemonEvent.igmpPart, DaemonEvent.mldPart, h.mld]

/-- **A run of the daemon is the two threads' runs alone.** -/
theorem runEvents : ∀ (es : List DaemonEvent) {d : Daemon} {t₄ t₆ : Sys}, Serial S d t₄ t₆ →
    (d.runEvents es).2 =
        ((McastBridge.runEvents igmpReceive igmpRunTimer t₄ (es.filterMap DaemonEvent.igmpPart)).2
          && (McastBridge.runEvents mldReceive mldRunTimer t₆
            (es.filterMap DaemonEvent.mldPart)).2) ∧
      Serial S (d.runEvents es).1
        (McastBridge.runEvents igmpReceive igmpRunTimer t₄ (es.filterMap DaemonEvent.igmpPart)).1
        (McastBridge.runEvents mldReceive mldRunTimer t₆ (es.filterMap DaemonEvent.mldPart)).1
  | [], _, _, _, h => ⟨rfl, h⟩
  | e :: es, _, _, _, h => by
      obtain ⟨h₂, h'⟩ := runEvents es (h.apply e)
      refine ⟨?_, ?_⟩ <;> cases e <;>
        simp_all [Daemon.runEvents, McastBridge.runEvents, h.enabled, DaemonEvent.igmpPart,
          DaemonEvent.mldPart, Bool.and_assoc, Bool.and_left_comm]

end Serial

/-- **The IGMP and MLD threads write disjoint bridges.**  In every state the daemon reaches, an
event of the IGMP thread leaves every bridge that is not IPv4 as it was, and an event of the MLD
thread every bridge that is not IPv6, whatever the frame or the timer. -/
theorem daemon_threads_disjoint (igmpMode mldMode : QuerierModeType) (nonConfiguredGroups : Nat)
    (bl : List BridgeInstance) (d : Daemon)
    (hd : DaemonReachable igmpMode mldMode nonConfiguredGroups bl d) :
    (∀ s, Step igmpReceive igmpRunTimer d.igmpThread s → ∀ b, (bl.getD b default).family ≠ .inet →
      s.bridgeList.getD b default = d.bridgeList.getD b default) ∧
    (∀ s, Step mldReceive mldRunTimer d.mldThread s → ∀ b, (bl.getD b default).family ≠ .inet6 →
      s.bridgeList.getD b default = d.bridgeList.getD b default) := by
  have h := Serial.of_reachable hd
  refine ⟨fun s hs b hb => ?_, fun s hs b hb => ?_⟩
  · have e := ((Matches.igmpStep hs : Matches .inet _ _).agree_compl h.igmpSubscribers).1 b hb
    simpa only [List.getD_eq_getElem?_getD] using congrArg (Option.getD · default) e
  · have e := ((Matches.mldStep hs : Matches .inet _ _).agree_compl h.mldSubscribers).1 b
      fun hn => hb (by revert hn; cases (bl.getD b default).family <;> decide)
    simpa only [List.getD_eq_getElem?_getD] using congrArg (Option.getD · default) e

/-- The disjointness theorem after a host joins 239.0.75.0 on `eth0` of the bridge of the IGMP
runs, which activates `eth0` outbound. -/
theorem daemon_threads_disjoint_after_join :
    ∃ d, DaemonReachable .quick .quick 0 igmpRunBridges d ∧
      (interfaceAt d.bridgeList ⟨0, 0⟩).outboundActive = true ∧
      ((∀ s, Step igmpReceive igmpRunTimer d.igmpThread s →
        ∀ b, (igmpRunBridges.getD b default).family ≠ .inet →
        s.bridgeList.getD b default = d.bridgeList.getD b default) ∧
      (∀ s, Step mldReceive mldRunTimer d.mldThread s →
        ∀ b, (igmpRunBridges.getD b default).family ≠ .inet6 →
        s.bridgeList.getD b default = d.bridgeList.getD b default)) :=
  have hd : DaemonReachable .quick .quick 0 igmpRunBridges _ :=
    .step (.start 0 0 (fun _ => 0) (fun _ => 0)) (.igmp _ _ (.receive _ 0 0x0a000005
      [0x16, 0, 0, 0, 0xef, 0, 0x4b, 0] 1000000 0 (by decide) (by decide)))
  ⟨_, hd, by decide, daemon_threads_disjoint .quick .quick 0 igmpRunBridges _ hd⟩

/-- **The daemon is serialisable.**  From any state the daemon reaches, after any sequence of
events of its two threads, interleaved in any order: the sequence could happen, every event
enabled when it came, exactly when the IGMP events could happen in order on the IGMP thread alone
and the MLD events on the MLD thread alone; each thread is, but for the shared list, in the state
its own events leave it in alone; and every IPv4 bridge is as the IGMP thread's run alone leaves
it, every other bridge as the MLD thread's run alone leaves it. -/
theorem daemon_serial (igmpMode mldMode : QuerierModeType) (nonConfiguredGroups : Nat)
    (bl : List BridgeInstance) (d : Daemon)
    (hd : DaemonReachable igmpMode mldMode nonConfiguredGroups bl d) (es : List DaemonEvent) :
    let r₄ := runEvents igmpReceive igmpRunTimer d.igmpThread (es.filterMap DaemonEvent.igmpPart)
    let r₆ := runEvents mldReceive mldRunTimer d.mldThread (es.filterMap DaemonEvent.mldPart)
    (d.runEvents es).2 = (r₄.2 && r₆.2) ∧
    (d.runEvents es).1.igmpThread = r₄.1.withBridgeList (d.runEvents es).1.bridgeList ∧
    (d.runEvents es).1.mldThread = r₆.1.withBridgeList (d.runEvents es).1.bridgeList ∧
    ∀ b, (d.runEvents es).1.bridgeList[b]? =
      if (bl.getD b default).family = .inet then r₄.1.bridgeList[b]? else r₆.1.bridgeList[b]? := by
  obtain ⟨h₂, h⟩ := Serial.runEvents es (Serial.of_reachable hd)
  refine ⟨h₂, h.igmp, h.mld, fun b => ?_⟩
  split_ifs with hb
  · exact h.igmpAgree b hb
  · exact h.mldAgree b hb

/-- Serialisability at start-up on the configuration of the IGMP runs, for a v2 report of
239.0.75.0 interleaved with an MLD expiry. -/
theorem daemon_serial_at_start :
    let d := daemonStart .quick .quick 100 igmpRunBridges 0 0 (fun _ => 0) (fun _ => 0)
    let es := [DaemonEvent.igmp (.receive 0 0x0a000005 [0x16, 0, 0, 0, 0xef, 0, 0x4b, 0] 1000000 0),
      .mld (.expire 1000000 0)]
    let r₄ := runEvents igmpReceive igmpRunTimer d.igmpThread (es.filterMap DaemonEvent.igmpPart)
    let r₆ := runEvents mldReceive mldRunTimer d.mldThread (es.filterMap DaemonEvent.mldPart)
    DaemonReachable .quick .quick 100 igmpRunBridges d ∧
    (d.runEvents es).2 = (r₄.2 && r₆.2) ∧
    (d.runEvents es).1.igmpThread = r₄.1.withBridgeList (d.runEvents es).1.bridgeList ∧
    (d.runEvents es).1.mldThread = r₆.1.withBridgeList (d.runEvents es).1.bridgeList ∧
    ∀ b, (d.runEvents es).1.bridgeList[b]? =
      if (igmpRunBridges.getD b default).family = .inet then r₄.1.bridgeList[b]?
      else r₆.1.bridgeList[b]? :=
  ⟨.start 0 0 _ _, daemon_serial .quick .quick 100 igmpRunBridges _ (.start 0 0 _ _) _⟩

/-- **The order of the two threads' events never shows.**  From any state the daemon reaches,
two interleavings of the same IGMP events, in the same order, with the same MLD events, in the
same order, end with the same bridge list and each thread in the same state, and one could
happen exactly when the other could. -/
theorem daemon_order_independent (igmpMode mldMode : QuerierModeType)
    (nonConfiguredGroups : Nat) (bl : List BridgeInstance) (d : Daemon)
    (hd : DaemonReachable igmpMode mldMode nonConfiguredGroups bl d) (es es' : List DaemonEvent)
    (h₄ : es.filterMap DaemonEvent.igmpPart = es'.filterMap DaemonEvent.igmpPart)
    (h₆ : es.filterMap DaemonEvent.mldPart = es'.filterMap DaemonEvent.mldPart) :
    (d.runEvents es).2 = (d.runEvents es').2 ∧
    (d.runEvents es).1.bridgeList = (d.runEvents es').1.bridgeList ∧
    (d.runEvents es).1.igmpThread = (d.runEvents es').1.igmpThread ∧
    (d.runEvents es).1.mldThread = (d.runEvents es').1.mldThread := by
  obtain ⟨h₂, h⟩ := Serial.runEvents es (Serial.of_reachable hd)
  obtain ⟨h₂', h'⟩ := Serial.runEvents es' (Serial.of_reachable hd)
  rw [h₄, h₆] at h₂ h
  have hbl : (d.runEvents es).1.bridgeList = (d.runEvents es').1.bridgeList :=
    List.ext_getElem? fun b => by
      by_cases hb : (bl.getD b default).family = .inet
      · exact (h.igmpAgree b hb).trans (h'.igmpAgree b hb).symm
      · exact (h.mldAgree b hb).trans (h'.mldAgree b hb).symm
  exact ⟨h₂.trans h₂'.symm, hbl, by rw [h.igmp, h'.igmp, hbl], by rw [h.mld, h'.mld, hbl]⟩

/-- The two orders of a v2 report of 239.0.75.0 and an MLD expiry, at start-up on the
configuration of the IGMP runs. -/
theorem daemon_order_independent_swap :
    let d := daemonStart .quick .quick 100 igmpRunBridges 0 0 (fun _ => 0) (fun _ => 0)
    let es := [DaemonEvent.igmp (.receive 0 0x0a000005 [0x16, 0, 0, 0, 0xef, 0, 0x4b, 0] 1000000 0),
      .mld (.expire 1000000 0)]
    DaemonReachable .quick .quick 100 igmpRunBridges d ∧
    es.filterMap DaemonEvent.igmpPart = es.reverse.filterMap DaemonEvent.igmpPart ∧
    es.filterMap DaemonEvent.mldPart = es.reverse.filterMap DaemonEvent.mldPart ∧
    (d.runEvents es).2 = (d.runEvents es.reverse).2 ∧
    (d.runEvents es).1.bridgeList = (d.runEvents es.reverse).1.bridgeList ∧
    (d.runEvents es).1.igmpThread = (d.runEvents es.reverse).1.igmpThread ∧
    (d.runEvents es).1.mldThread = (d.runEvents es.reverse).1.mldThread :=
  ⟨.start 0 0 _ _, rfl, rfl,
    daemon_order_independent .quick .quick 100 igmpRunBridges _ (.start 0 0 _ _) _ _ rfl rfl⟩

end McastBridge
