import McastBridge.Group
/-
**Group membership drives the data plane.**

The IGMP and MLD subsystems switch the data plane through two call-outs only: `*_join_common`
activates the outbound interfaces subscribed to a group that becomes active, and
`*_group_timeout` deactivates them when the group expires.  Each call-out also switches the
inbound side of the bridge: an interface configured dynamic inbound listens exactly while
another interface of its bridge sends.  This module states that coupling as an invariant of
every interleaving of joins and expiries, over both subsystems' tables, from the state that
start-up leaves.

Main definitions:

* `McastBridge.PeersInv` — the inbound rule on one bridge's interface list;
* `McastBridge.shape` — what the call-outs never change (families and configurations);
* `McastBridge.World`, `McastBridge.WorldStep`, `McastBridge.WorldReachable` — the bridge list
  and the two group tables, and the joins and expiries acting on them.

Main results:

* `McastBridge.PeersInv.activateOutboundAt`, `McastBridge.PeersInv.deactivateOutboundAt` — each
  call-out keeps the inbound rule, the skip-self cases of its peer scans included;
* `McastBridge.Coupled.step` — a join or an expiry keeps the coupling;
* `McastBridge.world_coupled` — **an outbound dynamic interface is active exactly when the group
  it is subscribed to is, and a dynamic inbound interface exactly when another interface of its
  bridge is outbound active**.
-/

set_option relaxedAutoImplicit false
set_option autoImplicit false

namespace McastBridge

/-! ### The inbound rule on one bridge -/

theorem otherOutboundActive_eq_true (l : List BridgeInterface) (j : Nat) :
    otherOutboundActive l j = true ↔
      ∃ q < l.length, q ≠ j ∧ (l.getD q default).outboundActive = true := by
  simp [otherOutboundActive]

/-- The scan of `j`'s peers reads only the other interfaces' outbound flags. -/
theorem otherOutboundActive_congr {l l' : List BridgeInterface} (j : Nat)
    (hlen : l'.length = l.length)
    (h : ∀ q < l.length, q ≠ j →
      (l'.getD q default).outboundActive = (l.getD q default).outboundActive) :
    otherOutboundActive l' j = otherOutboundActive l j := by
  rw [Bool.eq_iff_iff, otherOutboundActive_eq_true, otherOutboundActive_eq_true, hlen]
  exact exists_congr fun q => and_congr_right fun hq => and_congr_right fun hqj => by
    rw [h q hq hqj]

theorem activateOutboundAt_outboundActive (l : List BridgeInterface) (k j : Nat)
    (hj : j < l.length) :
    ((activateOutboundAt l k).getD j default).outboundActive =
      ((l.getD j default).outboundActive || decide (j = k)) := by
  rw [activateOutboundAt_getD _ _ _ hj]
  by_cases hjk : j = k
  · subst hjk; split_ifs <;> simp_all
  · split_ifs <;> simp [hjk]

theorem deactivateOutboundAt_outboundActive (l : List BridgeInterface) (k j : Nat)
    (hj : j < l.length) :
    ((deactivateOutboundAt l k).getD j default).outboundActive =
      ((l.getD j default).outboundActive &&
        !(decide (j = k) && decide ((l.getD j default).outboundConfiguration = .dynamic))) := by
  by_cases h : (l.getD k default).outboundActive = true ∧
      (l.getD k default).outboundConfiguration = .dynamic
  · rw [deactivateOutboundAt_getD _ _ _ hj h.1 h.2]
    by_cases hjk : j = k
    · subst hjk; simp_all
    · split_ifs <;> simp [hjk]
  · rw [deactivateOutboundAt_of_not l k h]
    by_cases hjk : j = k
    · subst hjk
      cases hb : (l.getD j default).outboundActive <;> simp_all
    · simp [hjk]

/-- The inbound rule: every dynamic inbound interface of the list is active exactly when another
interface is outbound active. -/
def PeersInv (l : List BridgeInterface) : Prop :=
  ∀ j < l.length, (l.getD j default).inboundConfiguration = .dynamic →
    (l.getD j default).inboundActive = otherOutboundActive l j

theorem lt_of_outboundActive {l : List BridgeInterface} {k : Nat}
    (h : (l.getD k default).outboundActive = true) : k < l.length := by
  by_contra hk
  rw [List.getD_eq_default _ _ (Nat.le_of_not_lt hk)] at h
  exact Bool.false_ne_true h

/-- `interface_activate_outbound` keeps the inbound rule. -/
theorem PeersInv.activateOutboundAt {l : List BridgeInterface} (hl : PeersInv l) {k : Nat}
    (hk : k < l.length) : PeersInv (activateOutboundAt l k) := by
  intro j hj hdyn
  rw [length_activateOutboundAt] at hj
  rw [(activateOutboundAt_config l k j hj).1] at hdyn
  by_cases hjk : j = k
  · -- the interface itself keeps its inbound flag, and its peers their outbound flags
    subst hjk
    have hin : ((McastBridge.activateOutboundAt l j).getD j default).inboundActive =
        (l.getD j default).inboundActive := by
      rw [activateOutboundAt_getD _ _ _ hj]; split_ifs <;> simp_all
    rw [hin, hl j hj hdyn]
    refine (otherOutboundActive_congr j (length_activateOutboundAt l j) fun q hq hqj => ?_).symm
    rw [activateOutboundAt_outboundActive _ _ _ hq]; simp [hqj]
  · -- a dynamic peer has `k` as an active outbound peer afterwards
    have hother : otherOutboundActive (McastBridge.activateOutboundAt l k) j = true := by
      refine (otherOutboundActive_eq_true _ _).2 ⟨k, by simpa using hk, Ne.symm hjk, ?_⟩
      rw [activateOutboundAt_outboundActive _ _ _ hk]; simp
    rw [hother, activateOutboundAt_getD _ _ _ hj]
    split_ifs with h₁
    · rw [hl j hj hdyn]
      exact (otherOutboundActive_eq_true _ _).2 ⟨k, hk, Ne.symm hjk, h₁⟩
    · exact interfaceActivateInbound_inboundActive _

/-- `interface_deactivate_outbound` keeps the inbound rule. -/
theorem PeersInv.deactivateOutboundAt {l : List BridgeInterface} (hl : PeersInv l) (k : Nat) :
    PeersInv (deactivateOutboundAt l k) := by
  by_cases h : (l.getD k default).outboundActive = true ∧
      (l.getD k default).outboundConfiguration = .dynamic
  swap
  · rwa [deactivateOutboundAt_of_not l k h]
  intro j hj hdyn
  rw [length_deactivateOutboundAt] at hj
  rw [(deactivateOutboundAt_config l k j hj).1] at hdyn
  -- afterwards the outbound flags are those of `setOutboundActive l k false`
  have hsame : otherOutboundActive (McastBridge.deactivateOutboundAt l k) j =
      otherOutboundActive (setOutboundActive l k false) j := by
    refine otherOutboundActive_congr j (by simp) fun q hq _ => ?_
    rw [length_setOutboundActive] at hq
    rw [deactivateOutboundAt_outboundActive _ _ _ hq, setOutboundActive_getD _ _ _ _ hq]
    by_cases hqk : q = k
    · subst hqk; simp_all
    · simp [hqk, Ne.symm hqk]
  rw [hsame, deactivateOutboundAt_getD _ _ _ hj h.1 h.2]
  by_cases hjk : j = k
  · subst hjk
    rw [if_pos rfl, hl j hj hdyn]
    refine (otherOutboundActive_congr j (by simp) fun q hq hqj => ?_).symm
    rw [setOutboundActive_getD _ _ _ _ hq]; simp [Ne.symm hqj]
  · simp only [if_neg hjk, hdyn, ne_eq, not_true_eq_false, false_or]
    split_ifs with hoth
    · rw [hl j hj hdyn, hoth]
      exact (otherOutboundActive_eq_true _ _).2 ⟨k, lt_of_outboundActive h.1, Ne.symm hjk, h.1⟩
    · rw [interfaceDeactivateInbound_inboundActive _ hdyn]
      simpa using hoth

/-- Activating a direction that is not dynamic inbound keeps the inbound rule. -/
theorem PeersInv.activateInbound {l : List BridgeInterface} (hl : PeersInv l) {k : Nat}
    (hk : (l.getD k default).inboundConfiguration ≠ .dynamic) :
    PeersInv (l.modify interfaceActivateInbound k) := by
  intro j hj hdyn
  rw [List.length_modify] at hj
  rw [getD_modify _ _ _ _ _ hj] at hdyn ⊢
  have hjk : k ≠ j := by rintro rfl; simp_all
  rw [if_neg hjk] at hdyn ⊢
  rw [hl j hj hdyn]
  refine (otherOutboundActive_congr j (List.length_modify _ _ _) fun q hq _ => ?_).symm
  rw [getD_modify _ _ _ _ _ hq]; split <;> simp

/-- One iteration of the activation loop of start-up keeps the inbound rule. -/
theorem PeersInv.initializeInterface {l : List BridgeInterface} (hl : PeersInv l) {k : Nat}
    (hk : k < l.length) : PeersInv (initializeInterface l k) := by
  have h₁ : PeersInv (if (l.getD k default).inboundConfiguration ≠ .dynamic then
      l.modify interfaceActivateInbound k else l) := by
    split
    · exact hl.activateInbound ‹_›
    · exact hl
  dsimp only [McastBridge.initializeInterface]
  split
  · exact h₁
  · exact h₁.activateOutboundAt (by split <;> simp [hk])

/-- A list with every flag clear satisfies the inbound rule. -/
theorem PeersInv.of_clear {l : List BridgeInterface}
    (h : ∀ j, (l.getD j default).inboundActive = false ∧
      (l.getD j default).outboundActive = false) : PeersInv l := by
  intro j _ _
  rw [(h j).1, eq_comm, Bool.eq_false_iff, ne_eq, otherOutboundActive_eq_true]
  rintro ⟨q, -, -, hq⟩
  rw [(h q).2] at hq
  exact Bool.false_ne_true hq

theorem PeersInv.nil : PeersInv [] := fun _ hj => absurd hj (Nat.not_lt_zero _)

/-! ### What the call-outs keep and change on the bridge list -/

/-- The configuration of an interface, inbound and outbound. -/
def BridgeInterface.config (bi : BridgeInterface) : InterfaceConfigType × InterfaceConfigType :=
  (bi.inboundConfiguration, bi.outboundConfiguration)

/-- A bridge's family and its interfaces' configurations. -/
def BridgeInstance.shape (br : BridgeInstance) :
    Family × List (InterfaceConfigType × InterfaceConfigType) :=
  (br.family, br.interfaceList.map BridgeInterface.config)

/-- What the call-outs never change: each bridge's family and its interfaces' configurations. -/
def shape (bl : List BridgeInstance) :
    List (Family × List (InterfaceConfigType × InterfaceConfigType)) :=
  bl.map BridgeInstance.shape

theorem map_config_eq {l l' : List BridgeInterface} (hlen : l'.length = l.length)
    (h : ∀ j < l.length, (l'.getD j default).config = (l.getD j default).config) :
    l'.map BridgeInterface.config = l.map BridgeInterface.config := by
  refine List.ext_getElem (by simpa using hlen) fun j h₁ h₂ => ?_
  have hj : j < l.length := by simpa using h₂
  have := h j hj
  rw [List.getD_eq_getElem _ _ hj, List.getD_eq_getElem _ _ (hlen ▸ hj)] at this
  simpa only [List.getElem_map] using this

theorem map_config_of_grows {l l' : List BridgeInterface} (g : Grows l l') :
    l'.map BridgeInterface.config = l.map BridgeInterface.config :=
  map_config_eq g.length_eq fun j hj =>
    Prod.ext (g.inboundConfiguration j hj) (g.outboundConfiguration j hj)

theorem shape_modifyInterfaces (bl : List BridgeInstance) (b : Nat)
    (f : List BridgeInterface → List BridgeInterface)
    (hf : ∀ l, (f l).map BridgeInterface.config = l.map BridgeInterface.config) :
    shape (modifyInterfaces bl b f) = shape bl :=
  map_modify_of_eq _ _ (fun br => by simp [BridgeInstance.shape, hf]) bl b

theorem shape_interfaceActivateOutbound (bl : List BridgeInstance) (x : BridgeHandle) :
    shape (interfaceActivateOutbound bl x) = shape bl :=
  shape_modifyInterfaces _ _ _ fun l => map_config_eq (length_activateOutboundAt l _) fun j hj =>
    Prod.ext (activateOutboundAt_config l _ j hj).1 (activateOutboundAt_config l _ j hj).2

theorem shape_interfaceDeactivateOutbound (bl : List BridgeInstance) (x : BridgeHandle) :
    shape (interfaceDeactivateOutbound bl x) = shape bl :=
  shape_modifyInterfaces _ _ _ fun l => map_config_eq (length_deactivateOutboundAt l _) fun j hj =>
    Prod.ext (deactivateOutboundAt_config l _ j hj).1 (deactivateOutboundAt_config l _ j hj).2

section Shape

variable {bl bl' : List BridgeInstance} (hs : shape bl' = shape bl)
include hs

theorem shape_getD_of_shape (b : Nat) :
    (bl'.getD b default).shape = (bl.getD b default).shape := by
  simpa only [shape, List.getD_map] using
    congrArg (fun s => s.getD b (default : BridgeInstance).shape) hs

theorem family_of_shape (b : Nat) : (bl'.getD b default).family = (bl.getD b default).family :=
  congrArg Prod.fst (shape_getD_of_shape hs b)

theorem config_of_shape (x : BridgeHandle) : (interfaceAt bl' x).config = (interfaceAt bl x).config := by
  simpa only [BridgeInstance.shape, List.getD_map] using
    congrArg (fun s => s.2.getD x.index (default : BridgeInterface).config)
      (shape_getD_of_shape hs x.bridgeIndex)

theorem valid_of_shape (x : BridgeHandle) : x.Valid bl' ↔ x.Valid bl := by
  have h₁ : bl'.length = bl.length := by simpa [shape] using congrArg List.length hs
  have h₂ := congrArg (List.length ∘ Prod.snd) (shape_getD_of_shape hs x.bridgeIndex)
  simp only [Function.comp, BridgeInstance.shape, List.length_map] at h₂
  simp only [BridgeHandle.Valid, h₁, h₂]

end Shape

theorem interfaceAt_modifyInterfaces (bl : List BridgeInstance) (b : Nat)
    (f : List BridgeInterface → List BridgeInterface) (h : BridgeHandle)
    (hb : h.bridgeIndex < bl.length) :
    interfaceAt (modifyInterfaces bl b f) h =
      if b = h.bridgeIndex then (f (bl.getD h.bridgeIndex default).interfaceList).getD h.index default
      else interfaceAt bl h := by
  simp only [interfaceAt, modifyInterfaces, getD_modify _ _ _ _ _ hb]
  split <;> rfl

theorem outboundActive_interfaceActivateOutbound (bl : List BridgeInstance) (x h : BridgeHandle)
    (hh : h.Valid bl) :
    (interfaceAt (interfaceActivateOutbound bl x) h).outboundActive =
      ((interfaceAt bl h).outboundActive || decide (h = x)) := by
  rw [interfaceActivateOutbound, interfaceAt_modifyInterfaces _ _ _ _ hh.1]
  obtain ⟨xb, xi⟩ := x
  obtain ⟨hb, hi⟩ := h
  split
  · rename_i he
    simp only at he; subst he
    rw [activateOutboundAt_outboundActive _ _ _ hh.2]
    simp [interfaceAt]
  · rename_i he
    simp [Ne.symm he]

theorem outboundActive_interfaceDeactivateOutbound (bl : List BridgeInstance) (x h : BridgeHandle)
    (hh : h.Valid bl) :
    (interfaceAt (interfaceDeactivateOutbound bl x) h).outboundActive =
      ((interfaceAt bl h).outboundActive && !(decide (h = x) &&
        decide ((interfaceAt bl h).outboundConfiguration = .dynamic))) := by
  rw [interfaceDeactivateOutbound, interfaceAt_modifyInterfaces _ _ _ _ hh.1]
  obtain ⟨xb, xi⟩ := x
  obtain ⟨hb, hi⟩ := h
  split
  · rename_i he
    simp only at he; subst he
    rw [deactivateOutboundAt_outboundActive _ _ _ hh.2]
    simp [interfaceAt]
  · rename_i he
    simp [Ne.symm he]

/-- The inbound rule on every bridge. -/
def BridgesInv (bl : List BridgeInstance) : Prop := ∀ b, PeersInv (bl.getD b default).interfaceList

theorem BridgesInv.modifyInterfaces {bl : List BridgeInstance} (hbl : BridgesInv bl) (b : Nat)
    (f : List BridgeInterface → List BridgeInterface)
    (hf : PeersInv (bl.getD b default).interfaceList →
      PeersInv (f (bl.getD b default).interfaceList)) :
    BridgesInv (McastBridge.modifyInterfaces bl b f) := by
  intro b'
  rcases Nat.lt_or_ge b' bl.length with hb' | hb'
  · simp only [McastBridge.modifyInterfaces, getD_modify _ _ _ _ _ hb']
    split
    · rename_i he; subst he; exact hf (hbl _)
    · exact hbl b'
  · rw [List.getD_eq_default _ _ (by simpa [McastBridge.modifyInterfaces] using hb')]
    exact PeersInv.nil

/-! ### Loops over a group's subscribers -/

section Loops

variable (S : List BridgeHandle)

theorem shape_foldl_activate (bl : List BridgeInstance) :
    shape (S.foldl interfaceActivateOutbound bl) = shape bl := by
  induction S generalizing bl with
  | nil => rfl
  | cons x S ih => rw [List.foldl_cons, ih, shape_interfaceActivateOutbound]

theorem shape_foldl_deactivate (bl : List BridgeInstance) :
    shape (S.foldl interfaceDeactivateOutbound bl) = shape bl := by
  induction S generalizing bl with
  | nil => rfl
  | cons x S ih => rw [List.foldl_cons, ih, shape_interfaceDeactivateOutbound]

/-- After the activation loop of `*_join_common`, exactly the subscribers have been added to the
outbound active interfaces. -/
theorem outboundActive_foldl_activate (bl : List BridgeInstance) (h : BridgeHandle)
    (hh : h.Valid bl) :
    (interfaceAt (S.foldl interfaceActivateOutbound bl) h).outboundActive =
      ((interfaceAt bl h).outboundActive || decide (h ∈ S)) := by
  induction S generalizing bl with
  | nil => simp
  | cons x S ih =>
      rw [List.foldl_cons, ih _ ((valid_of_shape (shape_interfaceActivateOutbound bl x) h).2 hh),
        outboundActive_interfaceActivateOutbound _ _ _ hh]
      simp [Bool.or_assoc]

/-- After the deactivation loop of `*_group_timeout`, exactly the dynamic subscribers have been
removed from the outbound active interfaces. -/
theorem outboundActive_foldl_deactivate (bl : List BridgeInstance) (h : BridgeHandle)
    (hh : h.Valid bl) :
    (interfaceAt (S.foldl interfaceDeactivateOutbound bl) h).outboundActive =
      ((interfaceAt bl h).outboundActive && !(decide (h ∈ S) &&
        decide ((interfaceAt bl h).outboundConfiguration = .dynamic))) := by
  induction S generalizing bl with
  | nil => simp
  | cons x S ih =>
      have hs := shape_interfaceDeactivateOutbound bl x
      have hcfg : (interfaceAt (interfaceDeactivateOutbound bl x) h).outboundConfiguration =
          (interfaceAt bl h).outboundConfiguration := congrArg Prod.snd (config_of_shape hs h)
      rw [List.foldl_cons, ih _ ((valid_of_shape hs h).2 hh), hcfg,
        outboundActive_interfaceDeactivateOutbound _ _ _ hh]
      rcases eq_or_ne h x with rfl | hx
      · by_cases hd : (interfaceAt bl h).outboundConfiguration = .dynamic <;> simp [hd]
      · by_cases hS : h ∈ S <;> simp [hx, hS]

theorem BridgesInv.foldl_activate {bl : List BridgeInstance} (hbl : BridgesInv bl)
    (hS : ∀ x ∈ S, x.Valid bl) : BridgesInv (S.foldl interfaceActivateOutbound bl) := by
  induction S generalizing bl with
  | nil => exact hbl
  | cons x S ih =>
      have hx := hS x (List.mem_cons_self _ _)
      exact ih (hbl.modifyInterfaces _ _ fun hp => hp.activateOutboundAt hx.2) fun y hy =>
        (valid_of_shape (shape_interfaceActivateOutbound bl x) y).2 (hS y (List.mem_cons_of_mem _ hy))

theorem BridgesInv.foldl_deactivate {bl : List BridgeInstance} (hbl : BridgesInv bl) :
    BridgesInv (S.foldl interfaceDeactivateOutbound bl) := by
  induction S generalizing bl with
  | nil => exact hbl
  | cons x S ih => exact ih (hbl.modifyInterfaces _ _ fun hp => hp.deactivateOutboundAt _)

end Loops

/-! ### Start-up -/

/-- Every flag of the configuration is clear, as `read_config` leaves them. -/
def flagsClear (bl : List BridgeInstance) : Bool :=
  bl.all fun br => br.interfaceList.all fun bi => !bi.inboundActive && !bi.outboundActive

theorem flagsClear_interfaceAt {bl : List BridgeInstance} (hc : flagsClear bl = true)
    (x : BridgeHandle) :
    (interfaceAt bl x).inboundActive = false ∧ (interfaceAt bl x).outboundActive = false := by
  simp only [interfaceAt]
  rcases Nat.lt_or_ge x.bridgeIndex bl.length with hb | hb
  · rw [List.getD_eq_getElem _ _ hb]
    have hbr := List.all_eq_true.1 hc _ (List.getElem_mem hb)
    rcases Nat.lt_or_ge x.index bl[x.bridgeIndex].interfaceList.length with hj | hj
    · rw [List.getD_eq_getElem _ _ hj]
      simpa using List.all_eq_true.1 hbr _ (List.getElem_mem hj)
    · rw [List.getD_eq_default _ _ hj]; exact ⟨rfl, rfl⟩
  · rw [List.getD_eq_default _ _ hb]; exact ⟨rfl, rfl⟩

theorem initializeInterfaces_getD (bl : List BridgeInstance) (b : Nat) (hb : b < bl.length) :
    (initializeInterfaces bl).getD b default =
      { bl.getD b default with
        interfaceList := (List.range (bl.getD b default).interfaceList.length).foldl
          initializeInterface (bl.getD b default).interfaceList } := by
  simp [initializeInterfaces, List.getD_eq_getElem?_getD, List.getElem?_eq_getElem hb]

theorem shape_initializeInterfaces (bl : List BridgeInstance) :
    shape (initializeInterfaces bl) = shape bl := by
  simp only [shape, initializeInterfaces, List.map_map]
  refine List.map_congr_left fun br _ => ?_
  simp only [Function.comp, BridgeInstance.shape, map_config_of_grows
    (foldl_initializeInterface (List.range br.interfaceList.length) br.interfaceList).1]

/-- Start-up leaves a dynamic outbound interface's flag as it was. -/
theorem initializeInterface_outboundActive {l : List BridgeInterface} (k : Nat) {j : Nat}
    (hj : j < l.length) (hd : (l.getD j default).outboundConfiguration = .dynamic) :
    ((initializeInterface l k).getD j default).outboundActive = (l.getD j default).outboundActive := by
  set l₁ := if (l.getD k default).inboundConfiguration ≠ .dynamic then
    l.modify interfaceActivateInbound k else l with hl₁
  have h₁ : (l₁.getD j default).outboundActive = (l.getD j default).outboundActive := by
    rw [hl₁]; split
    · rw [getD_modify _ _ _ _ _ hj]; split <;> simp
    · rfl
  have hlen : j < l₁.length := by rw [hl₁]; split <;> simp [hj]
  dsimp only [initializeInterface]
  rw [← hl₁]
  split
  · exact h₁
  · rw [activateOutboundAt_outboundActive _ _ _ hlen, h₁]
    have : j ≠ k := by rintro rfl; simp_all
    simp [this]

theorem foldl_initializeInterface_outboundActive (ks : List Nat) {l : List BridgeInterface} {j : Nat}
    (hj : j < l.length) (hd : (l.getD j default).outboundConfiguration = .dynamic) :
    ((ks.foldl initializeInterface l).getD j default).outboundActive =
      (l.getD j default).outboundActive := by
  induction ks generalizing l with
  | nil => rfl
  | cons k ks ih =>
      have g := initializeInterface_grows l k
      rw [List.foldl_cons, ih (g.length_eq ▸ hj) (by rwa [g.outboundConfiguration j hj]),
        initializeInterface_outboundActive k hj hd]

theorem PeersInv.foldl_initializeInterface (ks : List Nat) {l : List BridgeInterface}
    (hl : PeersInv l) (hks : ∀ k ∈ ks, k < l.length) :
    PeersInv (ks.foldl McastBridge.initializeInterface l) := by
  induction ks generalizing l with
  | nil => exact hl
  | cons k ks ih =>
      have g := initializeInterface_grows l k
      exact ih (hl.initializeInterface (hks k (List.mem_cons_self _ _))) fun k' hk' =>
        g.length_eq ▸ hks k' (List.mem_cons_of_mem _ hk')

/-- **Start-up establishes the inbound rule** on every bridge whose flags were clear. -/
theorem BridgesInv.initializeInterfaces {bl : List BridgeInstance} (hc : flagsClear bl = true) :
    BridgesInv (McastBridge.initializeInterfaces bl) := by
  intro b
  rcases Nat.lt_or_ge b bl.length with hb | hb
  · rw [initializeInterfaces_getD _ _ hb]
    have hcl : PeersInv (bl.getD b default).interfaceList :=
      PeersInv.of_clear fun j => flagsClear_interfaceAt hc ⟨b, j⟩
    exact hcl.foldl_initializeInterface _ fun k hk => List.mem_range.1 hk
  · rw [List.getD_eq_default _ _ (by simpa [McastBridge.initializeInterfaces] using hb)]
    exact PeersInv.nil

theorem outboundActive_initializeInterfaces {bl : List BridgeInstance} {h : BridgeHandle}
    (hh : h.Valid bl) (hd : (interfaceAt bl h).outboundConfiguration = .dynamic) :
    (interfaceAt (initializeInterfaces bl) h).outboundActive = (interfaceAt bl h).outboundActive := by
  simp only [interfaceAt, initializeInterfaces_getD _ _ hh.1]
  exact foldl_initializeInterface_outboundActive _ hh.2 hd

/-! ### The data plane and the two group tables -/

/-- The bridge list and the group tables of the IGMP (`.inet`) and MLD (`.inet6`) subsystems. -/
structure World where
  bridgeList : List BridgeInstance
  tables : Family → List Interface

namespace World

/-- Group slot `g` of interface `k` of the table of family `fam`. -/
def slot (w : World) (fam : Family) (k g : Nat) : Group := ((w.tables fam).getD k default).group g

/-- The bridge list and interface `k` of the table of family `fam` replaced by a call's
results. -/
def update (w : World) (fam : Family) (k : Nat) (r : List BridgeInstance × Interface) : World where
  bridgeList := r.1
  tables f := if f = fam then (w.tables f).modify (fun _ => r.2) k else w.tables f

theorem slot_update (w : World) (fam : Family) (k : Nat) (r : List BridgeInstance × Interface)
    (fam' : Family) (k' g : Nat) :
    (w.update fam k r).slot fam' k' g =
      if fam' = fam ∧ k' = k ∧ k < (w.tables fam).length then r.2.group g else w.slot fam' k' g := by
  simp only [slot, update]
  by_cases hf : fam' = fam
  · subst hf
    simp only [if_true, true_and]
    rcases Nat.lt_or_ge k' (w.tables fam').length with hk | hk
    · rw [getD_modify _ _ _ _ _ hk]
      by_cases he : k' = k
      · subst he; simp [hk]
      · simp [he, Ne.symm he]
    · rw [List.getD_eq_default _ _ (by simpa using hk), List.getD_eq_default _ _ hk,
        if_neg (by omega)]
  · simp [hf]

/-- A slot with a subscriber exists. -/
theorem lt_of_mem_slot {w : World} {fam : Family} {k g : Nat} {h : BridgeHandle}
    (hm : h ∈ (w.slot fam k g).bridgeInterfaceList) :
    k < (w.tables fam).length ∧ g < ((w.tables fam).getD k default).groupListAllocated := by
  have hk : k < (w.tables fam).length := by
    by_contra hk
    rw [slot, List.getD_eq_default _ _ (Nat.le_of_not_lt hk),
      Interface.group_of_le _ _ (Nat.zero_le g)] at hm
    exact List.not_mem_nil _ hm
  refine ⟨hk, ?_⟩
  by_contra hg
  rw [slot, Interface.group_of_le _ _ (Nat.le_of_not_lt hg)] at hm
  exact List.not_mem_nil _ hm

end World

/-- What `*_join_common` does to the slots: the joined one becomes active. -/
theorem joinActivateAt_group (bl : List BridgeInstance) (ifc : Interface) (g j : Nat) :
    ((joinActivateAt bl ifc g).2.group j).bridgeInterfaceList = (ifc.group j).bridgeInterfaceList ∧
      ((joinActivateAt bl ifc g).2.group j).active =
        ((ifc.group j).active || decide (j = g ∧ g < ifc.groupListAllocated)) := by
  unfold joinActivateAt
  by_cases hj : j = g
  · subst hj
    split
    · simp_all
    · rw [Interface.group_modifyGroup_eq]; split <;> simp_all
  · split <;> simp [Interface.group_modifyGroup_eq, hj, Ne.symm hj]

/-- What `*_group_timeout` does to the slots: the expired one becomes inactive. -/
theorem groupTimeoutAt_group (bl : List BridgeInstance) (ifc : Interface) (g j : Nat) :
    ((groupTimeoutAt bl ifc g).2.group j).bridgeInterfaceList = (ifc.group j).bridgeInterfaceList ∧
      ((groupTimeoutAt bl ifc g).2.group j).active = ((ifc.group j).active && !decide (j = g)) := by
  have key : ((ifc.modifyGroup g fun grp => { grp with active := false }).group j).bridgeInterfaceList =
      (ifc.group j).bridgeInterfaceList ∧
      ((ifc.modifyGroup g fun grp => { grp with active := false }).group j).active =
        ((ifc.group j).active && !decide (j = g)) := by
    rw [Interface.group_modifyGroup_eq]
    by_cases hj : j = g
    · subst hj
      split
      · simp
      · simp_all [Interface.group_of_le]; rfl
    · simp [hj, Ne.symm hj]
  dsimp only [groupTimeoutAt]
  split
  · exact key
  · exact key

theorem joinActivateAt_bridgeList (bl : List BridgeInstance) (ifc : Interface) (g : Nat) :
    (joinActivateAt bl ifc g).1 = if (ifc.group g).active then bl
      else (ifc.group g).bridgeInterfaceList.foldl interfaceActivateOutbound bl := by
  unfold joinActivateAt; split <;> rfl

theorem groupTimeoutAt_bridgeList (bl : List BridgeInstance) (ifc : Interface) (g : Nat) :
    (groupTimeoutAt bl ifc g).1 = (ifc.group g).bridgeInterfaceList.foldl interfaceDeactivateOutbound bl := by
  dsimp only [groupTimeoutAt]
  split
  · rfl
  · rename_i h; simp only [ne_eq, not_not] at h; rw [h]; rfl

/-- A join or an expiry of either subsystem, on any slot of any interface. -/
inductive WorldStep : World → World → Prop
  | join (w : World) (fam : Family) (k g : Nat) :
      WorldStep w (w.update fam k (joinActivateAt w.bridgeList ((w.tables fam).getD k default) g))
  | timeout (w : World) (fam : Family) (k g : Nat) :
      WorldStep w (w.update fam k (groupTimeoutAt w.bridgeList ((w.tables fam).getD k default) g))

/-- The address a bridge interface registers with: IPv4 for IGMP, link-local IPv6 for MLD. -/
def registrationAddr : Family → BridgeInterface → Nat
  | .inet => (·.ipv4Addr)
  | .inet6 => (·.ipv6AddrLl)

/-- The world after `initialize_interfaces`, `initialize_igmp` and `initialize_mld`. -/
def World.initial (nonConfiguredGroups : Nat) (bl : List BridgeInstance) : World where
  bridgeList := initializeInterfaces bl
  tables fam := (registerAll (registrationAddr fam) fam bl).map
    (initializeGroupList nonConfiguredGroups)

/-- The worlds reached from start-up by joins and expiries. -/
inductive WorldReachable (nonConfiguredGroups : Nat) (bl : List BridgeInstance) : World → Prop
  | init : WorldReachable nonConfiguredGroups bl (World.initial nonConfiguredGroups bl)
  | step {w w' : World} : WorldReachable nonConfiguredGroups bl w → WorldStep w w' →
      WorldReachable nonConfiguredGroups bl w'

/-! ### The coupling invariant -/

section Coupling

variable (nonConfiguredGroups : Nat) (bl : List BridgeInstance)

/-- The slots of the initial world are those registration built. -/
theorem initial_slot (fam : Family) (k g : Nat) :
    (World.initial nonConfiguredGroups bl).slot fam k g =
      ((registerAll (registrationAddr fam) fam bl).getD k default).group g := by
  simp only [World.slot, World.initial]
  rcases Nat.lt_or_ge k (registerAll (registrationAddr fam) fam bl).length with hk | hk
  · rw [List.getD_eq_getElem _ _ (by simpa using hk), List.getElem_map,
      ← List.getD_eq_getElem _ default hk,
      ((registerAll_spec _ fam bl).1 k).group_initializeGroupList]
  · rw [List.getD_eq_default _ _ (by simpa using hk), List.getD_eq_default _ _ hk]

/-- The coupling of the data plane with the tables, the subscriber lists being those of
registration. -/
structure Coupled (w : World) : Prop where
  shape_eq : shape w.bridgeList = shape bl
  subscribers : ∀ fam k g, (w.slot fam k g).bridgeInterfaceList =
    ((World.initial nonConfiguredGroups bl).slot fam k g).bridgeInterfaceList
  outbound : ∀ fam k g h, h ∈ (w.slot fam k g).bridgeInterfaceList →
    (interfaceAt w.bridgeList h).outboundActive = (w.slot fam k g).active
  peers : BridgesInv w.bridgeList

variable {nonConfiguredGroups bl}

theorem Coupled.subscriber {w : World} (hw : Coupled nonConfiguredGroups bl w) {fam : Family}
    {k g : Nat} {h : BridgeHandle} (hm : h ∈ (w.slot fam k g).bridgeInterfaceList) :
    h.Valid bl ∧ (interfaceAt bl h).outboundConfiguration = .dynamic ∧
      (bl.getD h.bridgeIndex default).family = fam := by
  rw [hw.subscribers, initial_slot] at hm
  exact registerAll_subscriber _ _ _ hm

theorem Coupled.unique {w : World} (hw : Coupled nonConfiguredGroups bl w) {fam fam' : Family}
    {k g k' g' : Nat} {h : BridgeHandle} (h₁ : h ∈ (w.slot fam k g).bridgeInterfaceList)
    (h₂ : h ∈ (w.slot fam' k' g').bridgeInterfaceList) : fam = fam' ∧ k = k' ∧ g = g' := by
  obtain rfl : fam = fam' := (hw.subscriber h₁).2.2.symm.trans (hw.subscriber h₂).2.2
  rw [hw.subscribers, initial_slot] at h₁ h₂
  obtain ⟨rfl, rfl⟩ := registerAll_unique _ _ _ h₁ h₂
  exact ⟨rfl, rfl, rfl⟩

/-- A subscriber of one slot subscribes to no other. -/
theorem Coupled.not_mem_of_ne {w : World} (hw : Coupled nonConfiguredGroups bl w)
    {fam fam' : Family} {k g k' g' : Nat} {h : BridgeHandle}
    (hm : h ∈ (w.slot fam' k' g').bridgeInterfaceList) (hne : ¬(fam' = fam ∧ k' = k ∧ g' = g)) :
    h ∉ (w.slot fam k g).bridgeInterfaceList := fun hS =>
  let ⟨e₁, e₂, e₃⟩ := hw.unique hS hm
  hne ⟨e₁.symm, e₂.symm, e₃.symm⟩

theorem Coupled.initial (hc : flagsClear bl = true) :
    Coupled nonConfiguredGroups bl (World.initial nonConfiguredGroups bl) where
  shape_eq := shape_initializeInterfaces bl
  subscribers _ _ _ := rfl
  outbound fam k g h hm := by
    rw [initial_slot] at hm ⊢
    obtain ⟨hv, hd, -⟩ := registerAll_subscriber _ _ _ hm
    have hshape := (registerAll_spec (registrationAddr fam) fam bl).1 k
    have hg : g < ((registerAll (registrationAddr fam) fam bl).getD k default).groupListCount := by
      by_contra hg
      rw [Interface.group_of_le _ _ (hshape.allocated_eq ▸ Nat.le_of_not_lt hg)] at hm
      exact List.not_mem_nil _ hm
    simp only [World.initial]
    rw [outboundActive_initializeInterfaces hv hd, (flagsClear_interfaceAt hc h).2,
      (hshape.group g hg).2.1]
  peers := BridgesInv.initializeInterfaces hc

theorem Coupled.join {w : World} (hw : Coupled nonConfiguredGroups bl w) (fam : Family)
    (k g : Nat) :
    Coupled nonConfiguredGroups bl
      (w.update fam k (joinActivateAt w.bridgeList ((w.tables fam).getD k default) g)) := by
  set ifc := (w.tables fam).getD k default
  set w' := w.update fam k (joinActivateAt w.bridgeList ifc g)
  have hslot : ∀ fam' k' g', (w'.slot fam' k' g').bridgeInterfaceList =
      (w.slot fam' k' g').bridgeInterfaceList ∧ (w'.slot fam' k' g').active =
      ((w.slot fam' k' g').active || decide (fam' = fam ∧ k' = k ∧ k < (w.tables fam).length ∧
        g' = g ∧ g < ifc.groupListAllocated)) := by
    intro fam' k' g'
    rw [World.slot_update]
    split
    · rename_i hc
      obtain ⟨rfl, rfl, hk⟩ := hc
      obtain ⟨h₁, h₂⟩ := joinActivateAt_group w.bridgeList ifc g g'
      exact ⟨h₁, by rw [h₂]; simp only [eq_self_iff_true, hk, true_and]; rfl⟩
    · rename_i hc
      exact ⟨rfl, by rw [decide_eq_false fun h => hc ⟨h.1, h.2.1, h.2.2.1⟩, Bool.or_false]⟩
  have hbl : w'.bridgeList = if (ifc.group g).active then w.bridgeList
      else (ifc.group g).bridgeInterfaceList.foldl interfaceActivateOutbound w.bridgeList :=
    joinActivateAt_bridgeList _ _ _
  have hS : ∀ x ∈ (ifc.group g).bridgeInterfaceList, x.Valid w.bridgeList := fun x hx =>
    (valid_of_shape hw.shape_eq x).2
      (hw.subscriber (show x ∈ (w.slot fam k g).bridgeInterfaceList from hx)).1
  refine ⟨?_, fun fam' k' g' => (hslot fam' k' g').1.trans (hw.subscribers fam' k' g'), ?_, ?_⟩
  · rw [hbl]
    split
    · exact hw.shape_eq
    · rw [shape_foldl_activate]; exact hw.shape_eq
  · intro fam' k' g' h hm
    rw [(hslot _ _ _).1] at hm
    have hv : h.Valid w.bridgeList := (valid_of_shape hw.shape_eq h).2 (hw.subscriber hm).1
    have hout := hw.outbound _ _ _ _ hm
    rw [(hslot _ _ _).2, hbl]
    by_cases hsame : fam' = fam ∧ k' = k ∧ g' = g
    · -- the joined slot: its subscribers are now outbound active
      obtain ⟨rfl, rfl, rfl⟩ := hsame
      obtain ⟨hk, hg⟩ := World.lt_of_mem_slot hm
      rw [decide_eq_true ⟨rfl, rfl, hk, rfl, hg⟩, Bool.or_true]
      split
      · rw [hout]; assumption
      · rw [outboundActive_foldl_activate _ _ _ hv,
          decide_eq_true (show h ∈ (ifc.group g').bridgeInterfaceList from hm), Bool.or_true]
    · -- another slot: its subscribers are not the joined slot's
      have hnot : h ∉ (ifc.group g).bridgeInterfaceList := hw.not_mem_of_ne hm hsame
      rw [decide_eq_false fun h => hsame ⟨h.1, h.2.1, h.2.2.2.1⟩, Bool.or_false, ← hout]
      split
      · rfl
      · rw [outboundActive_foldl_activate _ _ _ hv]; simp [hnot]
  · rw [hbl]
    split
    · exact hw.peers
    · exact hw.peers.foldl_activate _ hS

theorem Coupled.timeout {w : World} (hw : Coupled nonConfiguredGroups bl w) (fam : Family)
    (k g : Nat) :
    Coupled nonConfiguredGroups bl
      (w.update fam k (groupTimeoutAt w.bridgeList ((w.tables fam).getD k default) g)) := by
  set ifc := (w.tables fam).getD k default
  set w' := w.update fam k (groupTimeoutAt w.bridgeList ifc g)
  have hslot : ∀ fam' k' g', (w'.slot fam' k' g').bridgeInterfaceList =
      (w.slot fam' k' g').bridgeInterfaceList ∧ (w'.slot fam' k' g').active =
      ((w.slot fam' k' g').active &&
        !decide (fam' = fam ∧ k' = k ∧ k < (w.tables fam).length ∧ g' = g)) := by
    intro fam' k' g'
    rw [World.slot_update]
    split
    · rename_i hc
      obtain ⟨rfl, rfl, hk⟩ := hc
      obtain ⟨h₁, h₂⟩ := groupTimeoutAt_group w.bridgeList ifc g g'
      exact ⟨h₁, by rw [h₂]; simp only [eq_self_iff_true, hk, true_and]; rfl⟩
    · rename_i hc
      exact ⟨rfl, by rw [decide_eq_false fun h => hc ⟨h.1, h.2.1, h.2.2.1⟩, Bool.not_false,
        Bool.and_true]⟩
  have hbl : w'.bridgeList =
      (ifc.group g).bridgeInterfaceList.foldl interfaceDeactivateOutbound w.bridgeList :=
    groupTimeoutAt_bridgeList _ _ _
  refine ⟨?_, fun fam' k' g' => (hslot fam' k' g').1.trans (hw.subscribers fam' k' g'), ?_, ?_⟩
  · rw [hbl, shape_foldl_deactivate]; exact hw.shape_eq
  · intro fam' k' g' h hm
    rw [(hslot _ _ _).1] at hm
    obtain ⟨hv₀, hd₀, -⟩ := hw.subscriber hm
    have hv : h.Valid w.bridgeList := (valid_of_shape hw.shape_eq h).2 hv₀
    have hd : (interfaceAt w.bridgeList h).outboundConfiguration = .dynamic :=
      (congrArg Prod.snd (config_of_shape hw.shape_eq h)).trans hd₀
    rw [(hslot _ _ _).2, hbl, outboundActive_foldl_deactivate _ _ _ hv, hw.outbound _ _ _ _ hm, hd]
    by_cases hsame : fam' = fam ∧ k' = k ∧ g' = g
    · -- the expired slot: its subscribers are now outbound inactive
      obtain ⟨rfl, rfl, rfl⟩ := hsame
      obtain ⟨hk, -⟩ := World.lt_of_mem_slot hm
      rw [decide_eq_true (show fam' = fam' ∧ k' = k' ∧ k' < (w.tables fam').length ∧ g' = g' from
        ⟨rfl, rfl, hk, rfl⟩), decide_eq_true (show h ∈ (ifc.group g').bridgeInterfaceList from hm)]
      simp
    · have hnot : h ∉ (ifc.group g).bridgeInterfaceList := hw.not_mem_of_ne hm hsame
      rw [decide_eq_false (show ¬(fam' = fam ∧ k' = k ∧ k < (w.tables fam).length ∧ g' = g) from
        fun e => hsame ⟨e.1, e.2.1, e.2.2.2⟩), decide_eq_false hnot]
      simp
  · rw [hbl]; exact hw.peers.foldl_deactivate _

theorem Coupled.step {w w' : World} (hw : Coupled nonConfiguredGroups bl w) (hs : WorldStep w w') :
    Coupled nonConfiguredGroups bl w' := by
  cases hs with
  | join fam k g => exact hw.join fam k g
  | timeout fam k g => exact hw.timeout fam k g

theorem WorldReachable.coupled (hc : flagsClear bl = true) {w : World}
    (hw : WorldReachable nonConfiguredGroups bl w) : Coupled nonConfiguredGroups bl w := by
  induction hw with
  | init => exact Coupled.initial hc
  | step _ hs ih => exact ih.step hs

end Coupling

/-- The coupling of the data plane with the group tables: (a) a dynamic outbound interface is
subscribed to exactly one group slot of the table of its bridge's family, and is outbound active
exactly when that group is active; (b) a dynamic inbound interface is inbound active exactly when
another interface of its bridge is outbound active. -/
structure DataPlaneCoupled (w : World) : Prop where
  outbound : ∀ h : BridgeHandle, h.Valid w.bridgeList →
    (interfaceAt w.bridgeList h).outboundConfiguration = .dynamic →
    ∃ k g, h ∈ (w.slot (w.bridgeList.getD h.bridgeIndex default).family k g).bridgeInterfaceList ∧
      (∀ k' g', h ∈ (w.slot (w.bridgeList.getD h.bridgeIndex default).family k' g').bridgeInterfaceList →
        k' = k ∧ g' = g) ∧
      (interfaceAt w.bridgeList h).outboundActive =
        (w.slot (w.bridgeList.getD h.bridgeIndex default).family k g).active
  inbound : ∀ b p, p < (w.bridgeList.getD b default).interfaceList.length →
    (interfaceAt w.bridgeList ⟨b, p⟩).inboundConfiguration = .dynamic →
    ((interfaceAt w.bridgeList ⟨b, p⟩).inboundActive = true ↔
      ∃ q < (w.bridgeList.getD b default).interfaceList.length, q ≠ p ∧
        (interfaceAt w.bridgeList ⟨b, q⟩).outboundActive = true)

/-- **Group membership drives the data plane.**  Every world reached from start-up, the flags
clear as `read_config` leaves them, by joins and expiries of either subsystem in any order is
coupled. -/
theorem world_coupled (nonConfiguredGroups : Nat) (bl : List BridgeInstance)
    (hc : flagsClear bl = true) (w : World) (hw : WorldReachable nonConfiguredGroups bl w) :
    DataPlaneCoupled w := by
  have hw' := hw.coupled hc
  refine ⟨fun h hv hd => ?_, fun b p hp hdyn => ?_⟩
  · have hv₀ := (valid_of_shape hw'.shape_eq h).1 hv
    have hd₀ : (interfaceAt bl h).outboundConfiguration = .dynamic :=
      (congrArg Prod.snd (config_of_shape hw'.shape_eq h)).symm.trans hd
    rw [family_of_shape hw'.shape_eq]
    obtain ⟨k, g, hm⟩ := registerAll_complete (registrationAddr _) _ bl hv₀ hd₀ rfl
    rw [← initial_slot nonConfiguredGroups, ← hw'.subscribers] at hm
    exact ⟨k, g, hm, fun k' g' hm' => let ⟨_, e₂, e₃⟩ := hw'.unique hm' hm; ⟨e₂, e₃⟩,
      hw'.outbound _ _ _ _ hm⟩
  · simp only [interfaceAt] at hdyn ⊢
    rw [hw'.peers b p hp hdyn, otherOutboundActive_eq_true]

/-- A bridge with a dynamic outbound interface `eth0` and a dynamic inbound interface `eth1`
stays coupled when a host joins its group: the join activates `eth0` outbound, and with it `eth1`
inbound. -/
theorem world_coupled_after_join : ∃ bl : List BridgeInstance, ∃ w : World,
    flagsClear bl = true ∧ WorldReachable 100 bl w ∧
    (interfaceAt w.bridgeList ⟨0, 0⟩).outboundActive = true ∧
    (interfaceAt w.bridgeList ⟨0, 1⟩).inboundActive = true ∧ DataPlaneCoupled w :=
  ⟨[{ family := .inet
      dstAddr := 0xef004b00
      interfaceList := [
        { inboundConfiguration := .static, outboundConfiguration := .dynamic,
          inboundActive := false, outboundActive := false, ifIndex := 2,
          ipv4Addr := 0x0a000003, ipv6AddrLl := 0 },
        { inboundConfiguration := .dynamic, outboundConfiguration := .static,
          inboundActive := false, outboundActive := false, ifIndex := 3,
          ipv4Addr := 0x0a010003, ipv6AddrLl := 0 }] }],
    _, by decide, .step .init (.join _ .inet 0 0), by decide, by decide,
    world_coupled 100 _ (by decide) _ (.step .init (.join _ .inet 0 0))⟩

end McastBridge
