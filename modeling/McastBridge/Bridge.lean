import Mathlib.Data.List.Basic
import Mathlib.Data.List.GetD
import Mathlib.Data.List.Nodup
/-
**The data plane's view of a bridge: which interfaces are inbound and outbound active.**

A bridge instance (`bridge_instance_t`, `common.h`) is a UDP port and a multicast group address
with a list of interfaces (`bridge_interface_t`).  Each interface is configured, separately for
each direction, as none, dynamic, static or forced (`interface_config_type_t`), and carries two
flags, `inbound_active` and `outbound_active`, that the data plane reads on every datagram.
This module models the functions of `interface.c` that set and clear those flags, the loop of
`initialize_interfaces` that sets them at start-up, and the forwarding decision of
`bridge_receive`.

The socket operations these functions perform (`setsockopt` joins and leaves, binding) are side
effects on the kernel and are not modelled; only the flags are.  An interface of a bridge is
named by a `BridgeHandle`: the index of its bridge in `bridge_list` and its index in the
bridge's `interface_list`, which is what the pointer comparisons `peer == bridge_interface` of
the source compare.

Main definitions:

* `McastBridge.interfaceActivateOutbound`, `McastBridge.interfaceDeactivateOutbound` — the
  call-outs of the IGMP and MLD subsystems, with the inbound peers they switch;
* `McastBridge.initializeInterfaces` — the activation loop of `initialize_interfaces`;
* `McastBridge.bridgeReceive` — the interfaces a received datagram is sent out of.

Main results:

* `McastBridge.initializeInterfaces_active` — **start-up activates every direction that is not
  dynamic, the `INTERFACE_CONFIG_NONE` ones included**;
* `McastBridge.bridgeReceive_outbound_only` — hence a bridge with one inbound-only and one
  outbound-only interface forwards datagrams the wrong way as well.
-/

set_option relaxedAutoImplicit false
set_option autoImplicit false

namespace McastBridge

/-! ### List facts used throughout -/

theorem getD_modify {α : Type} (f : α → α) (l : List α) (n m : Nat) (d : α) (hm : m < l.length) :
    (l.modify f n).getD m d = if n = m then f (l.getD m d) else l.getD m d := by
  simp only [List.getD_eq_getElem?_getD, List.getElem?_modify, List.getElem?_eq_getElem hm]
  split <;> rfl

theorem getD_mapIdx {α β : Type} (f : Nat → α → β) (l : List α) (m : Nat) (d : α) (d' : β)
    (hm : m < l.length) : (l.mapIdx f).getD m d' = f m (l.getD m d) := by
  simp [List.getD_eq_getElem?_getD, List.getElem?_mapIdx, List.getElem?_eq_getElem hm]

/-- An entry of `l.modify f n` is the entry of `l` or its image under `f`. -/
theorem getD_modify_cases {α : Type} (f : α → α) (l : List α) (n m : Nat) (d : α) :
    (l.modify f n).getD m d = l.getD m d ∨ (l.modify f n).getD m d = f (l.getD m d) := by
  by_cases hm : m < l.length
  · rw [getD_modify _ _ _ _ _ hm]; split <;> simp
  · left
    rw [List.getD_eq_default _ _ (by simpa using Nat.le_of_not_lt hm),
      List.getD_eq_default _ _ (Nat.le_of_not_lt hm)]

/-- A change to one entry that keeps `F` keeps the list's image under `F`. -/
theorem map_modify_of_eq {α β : Type} (F : α → β) (f : α → α) (hf : ∀ a, F (f a) = F a) :
    ∀ (l : List α) (n : Nat), (l.modify f n).map F = l.map F
  | [], _ => by simp
  | a :: l, 0 => by simp [hf]
  | a :: l, n + 1 => by simp [map_modify_of_eq F f hf l n]

/-- An entry of `l ++ [a]` is the entry of `l` or `a`. -/
theorem getD_append_singleton_cases {α : Type} (l : List α) (a : α) (m : Nat) (d : α) :
    (l ++ [a]).getD m d = l.getD m d ∨ (l ++ [a]).getD m d = a := by
  rcases Nat.lt_or_ge m l.length with hm | hm
  · exact .inl (List.getD_append _ _ _ _ hm)
  · rcases Nat.eq_or_lt_of_le hm with rfl | hm
    · exact .inr (by simp)
    · left
      rw [List.getD_eq_default _ _ (by simpa using hm), List.getD_eq_default _ _ (by omega)]

/-! ### Interfaces and bridges -/

/-- `interface_config_type_t`. -/
inductive InterfaceConfigType
  | none
  | dynamic
  | static
  | forced
  deriving DecidableEq, Repr, Inhabited

/-- The address family of a bridge instance (`AF_INET` or `AF_INET6`). -/
inductive Family
  | inet
  | inet6
  deriving DecidableEq, Repr, Inhabited

/-- `bridge_interface_t`, with the fields the control plane reads or writes. -/
structure BridgeInterface where
  inboundConfiguration : InterfaceConfigType
  outboundConfiguration : InterfaceConfigType
  inboundActive : Bool
  outboundActive : Bool
  ifIndex : Nat
  /-- `ipv4_addr`, the source address of the IGMP subsystem on this interface. -/
  ipv4Addr : Nat
  /-- `ipv6_addr_ll`, the source address of the MLD subsystem on this interface. -/
  ipv6AddrLl : Nat
  deriving DecidableEq, Repr, Inhabited

/-- `bridge_instance_t`: a family, a multicast group address and the interfaces. -/
structure BridgeInstance where
  family : Family
  dstAddr : Nat
  interfaceList : List BridgeInterface
  deriving DecidableEq, Repr, Inhabited

/-- A pointer to a bridge interface: its bridge's index in `bridge_list` and its index in that
bridge's `interface_list`. -/
structure BridgeHandle where
  bridgeIndex : Nat
  index : Nat
  deriving DecidableEq, Repr, Inhabited

/-- The interface a handle points to. -/
def interfaceAt (bl : List BridgeInstance) (h : BridgeHandle) : BridgeInterface :=
  (bl.getD h.bridgeIndex default).interfaceList.getD h.index default

/-- A handle that points into the bridge list. -/
def BridgeHandle.Valid (h : BridgeHandle) (bl : List BridgeInstance) : Prop :=
  h.bridgeIndex < bl.length ∧ h.index < (bl.getD h.bridgeIndex default).interfaceList.length

/-- A valid handle points to an interface of a bridge of the list. -/
theorem BridgeHandle.Valid.mem {h : BridgeHandle} {bl : List BridgeInstance} (hv : h.Valid bl) :
    ∃ br ∈ bl, interfaceAt bl h ∈ br.interfaceList := by
  refine ⟨bl.getD h.bridgeIndex default, ?_, ?_⟩
  · rw [List.getD_eq_getElem _ _ hv.1]; exact List.getElem_mem _
  · rw [interfaceAt, List.getD_eq_getElem _ _ hv.2]; exact List.getElem_mem _

/-- Apply `f` to the interface list of bridge `b`. -/
def modifyInterfaces (bl : List BridgeInstance) (b : Nat)
    (f : List BridgeInterface → List BridgeInterface) : List BridgeInstance :=
  bl.modify (fun br => { br with interfaceList := f br.interfaceList }) b

/-! ### Activation and deactivation -/

/-- `interface_activate_inbound`: join the group on the interface and mark it active. -/
def interfaceActivateInbound (bi : BridgeInterface) : BridgeInterface :=
  if bi.inboundActive then bi else { bi with inboundActive := true }

/-- `interface_deactivate_inbound`: only a dynamic inbound interface is ever deactivated. -/
def interfaceDeactivateInbound (bi : BridgeInterface) : BridgeInterface :=
  if !bi.inboundActive then bi
  else if bi.inboundConfiguration ≠ .dynamic then bi
  else { bi with inboundActive := false }

/-- The `k`-th interface's `outbound_active` set to `b`. -/
def setOutboundActive (l : List BridgeInterface) (k : Nat) (b : Bool) : List BridgeInterface :=
  l.modify (fun bi => { bi with outboundActive := b }) k

/-- The inner scan of `interface_deactivate_outbound`: an interface other than the `j`-th is
outbound active. -/
def otherOutboundActive (l : List BridgeInterface) (j : Nat) : Bool :=
  (List.range l.length).any fun j' => j' != j && (l.getD j' default).outboundActive

/-- The body of `interface_activate_outbound` on the interface list of the bridge: mark the
`k`-th interface active and activate every other interface that is dynamic inbound. -/
def activateOutboundAt (l : List BridgeInterface) (k : Nat) : List BridgeInterface :=
  if (l.getD k default).outboundActive then l
  else
    (setOutboundActive l k true).mapIdx fun j p =>
      if j ≠ k ∧ p.inboundConfiguration = .dynamic then interfaceActivateInbound p else p

/-- The body of `interface_deactivate_outbound`: a dynamic outbound interface is marked inactive,
and every other dynamic inbound interface that no longer has an active outbound peer is
deactivated. -/
def deactivateOutboundAt (l : List BridgeInterface) (k : Nat) : List BridgeInterface :=
  let bi := l.getD k default
  if !bi.outboundActive then l
  else if bi.outboundConfiguration ≠ .dynamic then l
  else
    let l := setOutboundActive l k false
    l.mapIdx fun j p =>
      if j = k ∨ p.inboundConfiguration ≠ .dynamic then p
      else if otherOutboundActive l j then p else interfaceDeactivateInbound p

/-- `interface_activate_outbound`. -/
def interfaceActivateOutbound (bl : List BridgeInstance) (h : BridgeHandle) :
    List BridgeInstance :=
  modifyInterfaces bl h.bridgeIndex (activateOutboundAt · h.index)

/-- `interface_deactivate_outbound`. -/
def interfaceDeactivateOutbound (bl : List BridgeInstance) (h : BridgeHandle) :
    List BridgeInstance :=
  modifyInterfaces bl h.bridgeIndex (deactivateOutboundAt · h.index)

/-! ### Start-up and forwarding -/

/-- One iteration of the activation loop of `initialize_interfaces`: a direction that is not
dynamic is activated; a dynamic outbound interface is registered with IGMP or MLD instead
(`McastBridge.registerAll`). -/
def initializeInterface (l : List BridgeInterface) (k : Nat) : List BridgeInterface :=
  let bi := l.getD k default
  let l := if bi.inboundConfiguration ≠ .dynamic then l.modify interfaceActivateInbound k else l
  if bi.outboundConfiguration = .dynamic then l else activateOutboundAt l k

/-- The activation loop of `initialize_interfaces`, bridge by bridge and interface by
interface.  A bridge's activations touch only its own interfaces. -/
def initializeInterfaces (bl : List BridgeInstance) : List BridgeInstance :=
  bl.map fun br =>
    { br with interfaceList :=
        (List.range br.interfaceList.length).foldl initializeInterface br.interfaceList }

/-- `bridge_receive`: the indices of the interfaces a datagram received on the `k`-th interface
is sent out of — none if that interface is not inbound active, otherwise every other interface
that is outbound active. -/
def bridgeReceive (br : BridgeInstance) (k : Nat) : List Nat :=
  if !(br.interfaceList.getD k default).inboundActive then []
  else (List.range br.interfaceList.length).filter fun j =>
    j != k && (br.interfaceList.getD j default).outboundActive


/-! ### What the activations do, interface by interface -/

@[simp] theorem interfaceActivateInbound_inboundActive (bi : BridgeInterface) :
    (interfaceActivateInbound bi).inboundActive = true := by
  unfold interfaceActivateInbound; split <;> simp_all

@[simp] theorem interfaceActivateInbound_outboundActive (bi : BridgeInterface) :
    (interfaceActivateInbound bi).outboundActive = bi.outboundActive := by
  unfold interfaceActivateInbound; split <;> rfl

@[simp] theorem interfaceActivateInbound_inboundConfiguration (bi : BridgeInterface) :
    (interfaceActivateInbound bi).inboundConfiguration = bi.inboundConfiguration := by
  unfold interfaceActivateInbound; split <;> rfl

@[simp] theorem interfaceActivateInbound_outboundConfiguration (bi : BridgeInterface) :
    (interfaceActivateInbound bi).outboundConfiguration = bi.outboundConfiguration := by
  unfold interfaceActivateInbound; split <;> rfl

@[simp] theorem interfaceDeactivateInbound_outboundActive (bi : BridgeInterface) :
    (interfaceDeactivateInbound bi).outboundActive = bi.outboundActive := by
  unfold interfaceDeactivateInbound; split_ifs <;> rfl

@[simp] theorem interfaceDeactivateInbound_inboundConfiguration (bi : BridgeInterface) :
    (interfaceDeactivateInbound bi).inboundConfiguration = bi.inboundConfiguration := by
  unfold interfaceDeactivateInbound; split_ifs <;> rfl

@[simp] theorem interfaceDeactivateInbound_outboundConfiguration (bi : BridgeInterface) :
    (interfaceDeactivateInbound bi).outboundConfiguration = bi.outboundConfiguration := by
  unfold interfaceDeactivateInbound; split_ifs <;> rfl

/-- A dynamic inbound interface is inactive after `interface_deactivate_inbound`. -/
theorem interfaceDeactivateInbound_inboundActive (bi : BridgeInterface)
    (h : bi.inboundConfiguration = .dynamic) : (interfaceDeactivateInbound bi).inboundActive = false := by
  unfold interfaceDeactivateInbound; split_ifs <;> simp_all

@[simp] theorem length_setOutboundActive (l : List BridgeInterface) (k : Nat) (b : Bool) :
    (setOutboundActive l k b).length = l.length := List.length_modify _ _ _

theorem setOutboundActive_getD (l : List BridgeInterface) (k j : Nat) (b : Bool)
    (hj : j < l.length) : (setOutboundActive l k b).getD j default =
      if k = j then { l.getD j default with outboundActive := b } else l.getD j default :=
  getD_modify _ _ _ _ _ hj

@[simp] theorem length_activateOutboundAt (l : List BridgeInterface) (k : Nat) :
    (activateOutboundAt l k).length = l.length := by
  unfold activateOutboundAt; split <;> simp

@[simp] theorem length_deactivateOutboundAt (l : List BridgeInterface) (k : Nat) :
    (deactivateOutboundAt l k).length = l.length := by
  simp only [deactivateOutboundAt]; split_ifs <;> simp

/-- `interface_deactivate_outbound` does nothing to an inactive or a non-dynamic interface. -/
theorem deactivateOutboundAt_of_not (l : List BridgeInterface) (k : Nat)
    (h : ¬((l.getD k default).outboundActive = true ∧
      (l.getD k default).outboundConfiguration = .dynamic)) :
    deactivateOutboundAt l k = l := by
  simp only [deactivateOutboundAt]
  split_ifs <;> simp_all

/-- The `j`-th interface after `interface_activate_outbound` on the `k`-th. -/
theorem activateOutboundAt_getD (l : List BridgeInterface) (k j : Nat) (hj : j < l.length) :
    (activateOutboundAt l k).getD j default =
      if (l.getD k default).outboundActive then l.getD j default
      else if j = k then { l.getD j default with outboundActive := true }
      else if (l.getD j default).inboundConfiguration = .dynamic then
        interfaceActivateInbound (l.getD j default)
      else l.getD j default := by
  unfold activateOutboundAt
  split
  · rfl
  · rw [getD_mapIdx _ _ _ default _ (by simpa using hj), setOutboundActive_getD _ _ _ _ hj]
    by_cases hjk : j = k
    · simp [hjk]
    · simp only [hjk, Ne.symm hjk, ↓reduceIte, ne_eq, not_false_eq_true, true_and]

/-- The `j`-th interface after `interface_deactivate_outbound` on a dynamic, active `k`-th. -/
theorem deactivateOutboundAt_getD (l : List BridgeInterface) (k j : Nat) (hj : j < l.length)
    (hk : (l.getD k default).outboundActive = true)
    (hd : (l.getD k default).outboundConfiguration = .dynamic) :
    (deactivateOutboundAt l k).getD j default =
      if j = k then { l.getD j default with outboundActive := false }
      else if (l.getD j default).inboundConfiguration ≠ .dynamic
          ∨ otherOutboundActive (setOutboundActive l k false) j then l.getD j default
      else interfaceDeactivateInbound (l.getD j default) := by
  simp only [deactivateOutboundAt, hk, hd, Bool.not_true, ne_eq, not_true_eq_false,
    Bool.false_eq_true, ↓reduceIte]
  rw [getD_mapIdx _ _ _ default _ (by simpa using hj), setOutboundActive_getD _ _ _ _ hj]
  by_cases hjk : j = k
  · simp [hjk]
  · simp only [hjk, eq_comm, false_or, ↓reduceIte]
    split_ifs <;> simp_all

/-- The configurations of every interface are never changed by the call-outs. -/
theorem activateOutboundAt_config (l : List BridgeInterface) (k j : Nat) (hj : j < l.length) :
    ((activateOutboundAt l k).getD j default).inboundConfiguration =
        (l.getD j default).inboundConfiguration ∧
      ((activateOutboundAt l k).getD j default).outboundConfiguration =
        (l.getD j default).outboundConfiguration := by
  rw [activateOutboundAt_getD _ _ _ hj]; split_ifs <;> simp

theorem deactivateOutboundAt_config (l : List BridgeInterface) (k j : Nat) (hj : j < l.length) :
    ((deactivateOutboundAt l k).getD j default).inboundConfiguration =
        (l.getD j default).inboundConfiguration ∧
      ((deactivateOutboundAt l k).getD j default).outboundConfiguration =
        (l.getD j default).outboundConfiguration := by
  by_cases h : (l.getD k default).outboundActive = true ∧
      (l.getD k default).outboundConfiguration = .dynamic
  · rw [deactivateOutboundAt_getD _ _ _ hj h.1 h.2]; split_ifs <;> simp
  · simp [deactivateOutboundAt_of_not l k h]

/-! ### Start-up activates the directions that are not dynamic -/

/-- `l'` has the length and the configurations of `l`, and every flag set in `l`. -/
structure Grows (l l' : List BridgeInterface) : Prop where
  length_eq : l'.length = l.length
  inboundConfiguration : ∀ j < l.length,
    (l'.getD j default).inboundConfiguration = (l.getD j default).inboundConfiguration
  outboundConfiguration : ∀ j < l.length,
    (l'.getD j default).outboundConfiguration = (l.getD j default).outboundConfiguration
  inboundActive : ∀ j < l.length,
    (l.getD j default).inboundActive = true → (l'.getD j default).inboundActive = true
  outboundActive : ∀ j < l.length,
    (l.getD j default).outboundActive = true → (l'.getD j default).outboundActive = true

theorem Grows.refl (l : List BridgeInterface) : Grows l l :=
  ⟨rfl, fun _ _ => rfl, fun _ _ => rfl, fun _ _ h => h, fun _ _ h => h⟩

theorem Grows.trans {l₁ l₂ l₃ : List BridgeInterface} (h₁ : Grows l₁ l₂) (h₂ : Grows l₂ l₃) :
    Grows l₁ l₃ where
  length_eq := h₂.length_eq.trans h₁.length_eq
  inboundConfiguration j hj := (h₂.inboundConfiguration j (h₁.length_eq ▸ hj)).trans
    (h₁.inboundConfiguration j hj)
  outboundConfiguration j hj := (h₂.outboundConfiguration j (h₁.length_eq ▸ hj)).trans
    (h₁.outboundConfiguration j hj)
  inboundActive j hj h := h₂.inboundActive j (h₁.length_eq ▸ hj) (h₁.inboundActive j hj h)
  outboundActive j hj h := h₂.outboundActive j (h₁.length_eq ▸ hj) (h₁.outboundActive j hj h)

theorem activateOutboundAt_grows (l : List BridgeInterface) (k : Nat) :
    Grows l (activateOutboundAt l k) where
  length_eq := length_activateOutboundAt l k
  inboundConfiguration j hj := (activateOutboundAt_config l k j hj).1
  outboundConfiguration j hj := (activateOutboundAt_config l k j hj).2
  inboundActive j hj h := by rw [activateOutboundAt_getD _ _ _ hj]; split_ifs <;> simp_all
  outboundActive j hj h := by rw [activateOutboundAt_getD _ _ _ hj]; split_ifs <;> simp_all

theorem activateInbound_grows (l : List BridgeInterface) (k : Nat) :
    Grows l (l.modify interfaceActivateInbound k) where
  length_eq := List.length_modify _ _ _
  inboundConfiguration j hj := by rw [getD_modify _ _ _ _ _ hj]; split <;> simp
  outboundConfiguration j hj := by rw [getD_modify _ _ _ _ _ hj]; split <;> simp
  inboundActive j hj h := by rw [getD_modify _ _ _ _ _ hj]; split <;> simp_all
  outboundActive j hj h := by rw [getD_modify _ _ _ _ _ hj]; split <;> simp_all

theorem initializeInterface_grows (l : List BridgeInterface) (k : Nat) :
    Grows l (initializeInterface l k) := by
  have h₁ : Grows l (if (l.getD k default).inboundConfiguration ≠ .dynamic then
      l.modify interfaceActivateInbound k else l) := by
    split
    · exact activateInbound_grows l k
    · exact Grows.refl l
  dsimp only [initializeInterface]
  split
  · exact h₁
  · exact h₁.trans (activateOutboundAt_grows _ k)

/-- After its iteration, the `k`-th interface is active in each direction that is not
dynamic. -/
theorem initializeInterface_active (l : List BridgeInterface) (k : Nat) (hk : k < l.length) :
    ((l.getD k default).inboundConfiguration ≠ .dynamic →
        ((initializeInterface l k).getD k default).inboundActive = true) ∧
      ((l.getD k default).outboundConfiguration ≠ .dynamic →
        ((initializeInterface l k).getD k default).outboundActive = true) := by
  set l₁ := if (l.getD k default).inboundConfiguration ≠ .dynamic then
    l.modify interfaceActivateInbound k else l with hl₁
  have g₁ : Grows l l₁ := by
    rw [hl₁]; split
    · exact activateInbound_grows l k
    · exact Grows.refl l
  have hin : (l.getD k default).inboundConfiguration ≠ .dynamic →
      (l₁.getD k default).inboundActive = true := by
    intro h; rw [hl₁, if_pos h, getD_modify _ _ _ _ _ hk]; simp
  have hk₁ : k < l₁.length := g₁.length_eq ▸ hk
  have hout : ((activateOutboundAt l₁ k).getD k default).outboundActive = true := by
    rw [activateOutboundAt_getD _ _ _ hk₁]; split_ifs <;> simp_all
  dsimp only [initializeInterface]
  rw [← hl₁]
  refine ⟨fun h => ?_, fun h => ?_⟩
  · split
    · exact hin h
    · exact (activateOutboundAt_grows l₁ k).inboundActive k hk₁ (hin h)
  · rw [if_neg h]; exact hout

theorem foldl_initializeInterface (ks : List Nat) (l : List BridgeInterface) :
    Grows l (ks.foldl initializeInterface l) ∧ ∀ k ∈ ks, k < l.length →
      ((l.getD k default).inboundConfiguration ≠ .dynamic →
          ((ks.foldl initializeInterface l).getD k default).inboundActive = true) ∧
        ((l.getD k default).outboundConfiguration ≠ .dynamic →
          ((ks.foldl initializeInterface l).getD k default).outboundActive = true) := by
  induction ks generalizing l with
  | nil => exact ⟨Grows.refl l, by simp⟩
  | cons k ks ih =>
      have g := initializeInterface_grows l k
      obtain ⟨g', hset⟩ := ih (initializeInterface l k)
      refine ⟨g.trans g', fun j hj hjl => ?_⟩
      have hjl' : j < (initializeInterface l k).length := g.length_eq ▸ hjl
      rcases List.mem_cons.1 hj with rfl | hj
      · obtain ⟨hi, ho⟩ := initializeInterface_active l j hjl
        exact ⟨fun h => g'.inboundActive j hjl' (hi h), fun h => g'.outboundActive j hjl' (ho h)⟩
      · obtain ⟨hi, ho⟩ := hset j hj hjl'
        rw [g.inboundConfiguration j hjl, g.outboundConfiguration j hjl] at *
        exact ⟨hi, ho⟩

/-- **Start-up activates every direction of every interface that is not dynamic**, whatever its
configuration: an interface configured `INTERFACE_CONFIG_NONE` inbound is inbound active and
one configured `INTERFACE_CONFIG_NONE` outbound is outbound active. -/
theorem initializeInterfaces_active (bl : List BridgeInstance) (h : BridgeHandle)
    (hv : h.Valid bl) :
    ((interfaceAt bl h).inboundConfiguration ≠ .dynamic →
        (interfaceAt (initializeInterfaces bl) h).inboundActive = true) ∧
      ((interfaceAt bl h).outboundConfiguration ≠ .dynamic →
        (interfaceAt (initializeInterfaces bl) h).outboundActive = true) := by
  obtain ⟨hb, hk⟩ := hv
  have hmap : (initializeInterfaces bl).getD h.bridgeIndex default =
      { bl.getD h.bridgeIndex default with
        interfaceList := (List.range (bl.getD h.bridgeIndex default).interfaceList.length).foldl
          initializeInterface (bl.getD h.bridgeIndex default).interfaceList } := by
    simp [initializeInterfaces, List.getD_eq_getElem?_getD, List.getElem?_eq_getElem hb]
  simp only [interfaceAt, hmap]
  exact (foldl_initializeInterface _ _).2 h.index (List.mem_range.2 hk) hk

/-- A bridge with an inbound-only interface (index 0) and an outbound-only interface (index 1),
as `read_config` builds it from `static-inbound-interfaces = eth0` and
`static-outbound-interfaces = eth1`: after start-up a datagram received on the outbound-only
interface is forwarded out of the inbound-only one. -/
theorem bridgeReceive_outbound_only :
    bridgeReceive ((initializeInterfaces [
      { family := .inet
        dstAddr := 0xef000001
        interfaceList := [
          { inboundConfiguration := .static, outboundConfiguration := .none,
            inboundActive := false, outboundActive := false, ifIndex := 2,
            ipv4Addr := 0x0a000001, ipv6AddrLl := 0 },
          { inboundConfiguration := .none, outboundConfiguration := .static,
            inboundActive := false, outboundActive := false, ifIndex := 3,
            ipv4Addr := 0x0a010001, ipv6AddrLl := 0 }] }]).getD 0 default) 1 = [0] := by
  decide

end McastBridge
