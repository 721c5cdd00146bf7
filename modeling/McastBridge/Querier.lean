import McastBridge.Igmp
import McastBridge.Mld
/-
**What changes an interface's querier.**

The querier state of an interface is the querier it has elected (`querier_addr`) and the
parameters it took from that querier: robustness, query interval, response interval and
last-member interval.  Of the handlers and timer callbacks of `igmp.c` and `mld.c`, two change
it: `handle_*_query`, which runs the election and adopts the parameters of a query, and
`*_querier_timeout`, which makes the interface the querier with the default parameters or, in
mode never, reopens the election.  Every other function keeps it, together with the querier
mode, the number of interfaces and their addresses.

Main definitions:

* `McastBridge.QuerierParams` — the parameters an interface took from its querier;
* `McastBridge.Sys.SameQuerier` — two states with the same querier state on every interface;
* `McastBridge.Sys.SameQuerierBut` — the same, except on one interface;
* `McastBridge.igmpIsQuery`, `McastBridge.mldIsQuery` — a message the dispatcher hands to the
  query handler, which takes it;
* `McastBridge.QuerierDispatch` — what a subsystem's dispatchers can do to the querier state.

Main results:

* `McastBridge.querierAddr_handleQuery` — the election: a querier in mode defer yields to the
  source of any query, and otherwise the lower address wins;
* `McastBridge.querierParams_handleQuery` — after a query the parameters are the old ones, the
  defaults, or the query's;
* `McastBridge.querierParams_start` — start-up sets the default parameters on every interface;
* `McastBridge.igmpReceive_querier`, `McastBridge.mldReceive_querier` — a received message
  changes the querier state only as a query the handler takes;
* `McastBridge.igmpRunTimer_querier`, `McastBridge.mldRunTimer_querier` — a timer changes it
  only as a querier timeout; `McastBridge.igmpDispatch` and `McastBridge.mldDispatch` bundle the
  two as `McastBridge.QuerierDispatch`.
-/

set_option relaxedAutoImplicit false
set_option autoImplicit false

namespace McastBridge

/-! ### The querier state -/

/-- The parameters an interface took from its querier, or its defaults. -/
structure QuerierParams where
  robustness : Nat
  intervalSec : Nat
  responseInterval : Nat
  lastmbrInterval : Nat
  deriving DecidableEq, Repr

/-- The parameters of an interface. -/
def Interface.querierParams (ifc : Interface) : QuerierParams :=
  ⟨ifc.querierRobustness, ifc.querierIntervalSec, ifc.querierResponseInterval,
    ifc.querierLastmbrInterval⟩

/-- The parameters with a robustness, a query interval and a response interval adopted, from a
query or from the defaults; the last-member interval is kept. -/
def QuerierParams.adopt (p : QuerierParams) (robustness intervalSec responseInterval : Nat) :
    QuerierParams :=
  { p with robustness, intervalSec, responseInterval }

theorem Interface.querierParams_eq_of_querierView {a b : Interface}
    (h : a.querierView = b.querierView) : a.querierParams = b.querierParams := by
  have := congrArg Interface.querierParams h; exact this

/-- `s'` has the querier mode, the interfaces, their addresses and their querier state of `s`. -/
structure Sys.SameQuerier (s s' : Sys) : Prop where
  mode : s'.querierMode = s.querierMode
  length : s'.interfaceList.length = s.interfaceList.length
  ifAddr : ∀ j, (s'.iface j).ifAddr = (s.iface j).ifAddr
  querierAddr : ∀ j, (s'.iface j).querierAddr = (s.iface j).querierAddr
  params : ∀ j, (s'.iface j).querierParams = (s.iface j).querierParams

/-- `s'` is as `s` in the sense of `McastBridge.Sys.SameQuerier`, except for the querier state of
interface `i`. -/
structure Sys.SameQuerierBut (i : Nat) (s s' : Sys) : Prop where
  mode : s'.querierMode = s.querierMode
  length : s'.interfaceList.length = s.interfaceList.length
  ifAddr : ∀ j, (s'.iface j).ifAddr = (s.iface j).ifAddr
  querierAddr : ∀ j, j ≠ i → (s'.iface j).querierAddr = (s.iface j).querierAddr
  params : ∀ j, j ≠ i → (s'.iface j).querierParams = (s.iface j).querierParams

/-- Interface `i` after an update of it: the updated record or, beyond the list, the old one. -/
theorem Sys.iface_modifyIface_self_or (s : Sys) (i : Nat) (f : Interface → Interface) :
    (s.modifyIface i f).iface i = f (s.iface i) ∨ (s.modifyIface i f).iface i = s.iface i := by
  rw [Sys.iface_modifyIface]
  split_ifs
  · exact .inl rfl
  · exact .inr rfl

namespace Sys.SameQuerier

variable {s s' s'' : Sys}

theorem refl (s : Sys) : SameQuerier s s := ⟨rfl, rfl, fun _ => rfl, fun _ => rfl, fun _ => rfl⟩

theorem trans (h : SameQuerier s s') (h' : SameQuerier s' s'') : SameQuerier s s'' :=
  ⟨h'.mode.trans h.mode, h'.length.trans h.length, fun j => (h'.ifAddr j).trans (h.ifAddr j),
    fun j => (h'.querierAddr j).trans (h.querierAddr j),
    fun j => (h'.params j).trans (h.params j)⟩

theorem but (h : SameQuerier s s') (i : Nat) : SameQuerierBut i s s' :=
  ⟨h.mode, h.length, h.ifAddr, fun j _ => h.querierAddr j, fun j _ => h.params j⟩

theorem inject (s : Sys) (p : Injected) : SameQuerier s (s.inject p) :=
  ⟨rfl, rfl, fun _ => rfl, fun _ => rfl, fun _ => rfl⟩

theorem delTimer (s : Sys) (k : TimerKey) : SameQuerier s (s.delTimer k) :=
  ⟨rfl, rfl, fun _ => rfl, fun _ => rfl, fun _ => rfl⟩

theorem addTimer (s : Sys) (m : Nat) (k : TimerKey) : SameQuerier s (s.addTimer m k) :=
  ⟨by simp, by simp, fun j => by simp, fun j => by simp, fun j => by simp⟩

theorem withBridgeList (s : Sys) (bl : List BridgeInstance) :
    SameQuerier s { s with bridgeList := bl } :=
  ⟨rfl, rfl, fun _ => rfl, fun _ => rfl, fun _ => rfl⟩

/-- The clock reading and the timers an event of the loop sets before its handler runs. -/
theorem withClock (s : Sys) (now : Nat) (evm : Evm TimerKey) :
    SameQuerier s { s with clock := now, evm } :=
  ⟨rfl, rfl, fun _ => rfl, fun _ => rfl, fun _ => rfl⟩

theorem trans_but {i : Nat} (h : SameQuerier s s') (h' : SameQuerierBut i s' s'') :
    SameQuerierBut i s s'' :=
  ⟨h'.mode.trans h.mode, h'.length.trans h.length, fun j => (h'.ifAddr j).trans (h.ifAddr j),
    fun j hj => (h'.querierAddr j hj).trans (h.querierAddr j),
    fun j hj => (h'.params j hj).trans (h.params j)⟩

/-- An update of interface `i` that keeps its address and its querier state. -/
theorem modifyIface (s : Sys) (i : Nat) {f : Interface → Interface}
    (ha : (f (s.iface i)).ifAddr = (s.iface i).ifAddr)
    (hq : (f (s.iface i)).querierAddr = (s.iface i).querierAddr)
    (hp : (f (s.iface i)).querierParams = (s.iface i).querierParams) :
    SameQuerier s (s.modifyIface i f) :=
  ⟨rfl, s.length_modifyIface i f,
    s.iface_modifyIface_cases (fun j ifc => ifc.ifAddr = (s.iface j).ifAddr) i f
      (fun _ => ha) fun _ _ => rfl,
    s.iface_modifyIface_cases (fun j ifc => ifc.querierAddr = (s.iface j).querierAddr) i f
      (fun _ => hq) fun _ _ => rfl,
    s.iface_modifyIface_cases (fun j ifc => ifc.querierParams = (s.iface j).querierParams) i f
      (fun _ => hp) fun _ _ => rfl⟩

/-- An update of interface `i` that keeps its querier view. -/
theorem ofView (s : Sys) (i : Nat) {f : Interface → Interface}
    (h : (f (s.iface i)).querierView = (s.iface i).querierView) :
    SameQuerier s (s.modifyIface i f) :=
  modifyIface s i (Interface.ifAddr_eq_of_querierView h)
    (Interface.querierAddr_eq_of_querierView h) (Interface.querierParams_eq_of_querierView h)

theorem modifyGroup (s : Sys) (i g : Nat) (f : Group → Group) :
    SameQuerier s (s.modifyGroup i g f) :=
  ofView s i (Interface.querierView_modifyGroup _ _ _)

/-- The interface a table lookup returns replaces interface `i`. -/
theorem setFound (s : Sys) {isLinkScope : Nat → Bool} {i a g : Nat} {ifc : Interface}
    (hfind : interfaceFindGroup isLinkScope (s.iface i) a = some (ifc, g)) :
    SameQuerier s (s.setIface i ifc) :=
  ofView s i (querierView_of_interfaceFindGroup hfind)

/-! The functions that keep the querier state. -/

theorem sendMrdAdvertisement (s : Sys) (i rand : Nat) :
    SameQuerier s (McastBridge.sendMrdAdvertisement s i rand) := by
  dsimp only [McastBridge.sendMrdAdvertisement]
  split
  · exact (inject s _).trans ((modifyIface _ i rfl rfl rfl).trans (addTimer _ _ _))
  · exact (inject s _).trans (addTimer _ _ _)

theorem sendGeneralQuery (s : Sys) (i : Nat) :
    SameQuerier s (McastBridge.sendGeneralQuery s i) := by
  dsimp only [McastBridge.sendGeneralQuery]
  split
  · exact (inject s _).trans ((modifyIface _ i rfl rfl rfl).trans (addTimer _ _ _))
  · exact (inject s _).trans (addTimer _ _ _)

theorem sendGroupSpecificQuery (P : Proto) (s : Sys) (i g : Nat) :
    SameQuerier s (McastBridge.sendGroupSpecificQuery P s i g) := by
  dsimp only [McastBridge.sendGroupSpecificQuery]
  split
  · exact (inject s _).trans ((modifyGroup _ i g _).trans (addTimer _ _ _))
  · exact (inject s _).trans (modifyGroup _ i g _)

theorem groupTimeout (s : Sys) (i g : Nat) : SameQuerier s (McastBridge.groupTimeout s i g) :=
  (withBridgeList s _).trans (ofView _ i (querierView_groupTimeoutAt _ _ _))

theorem v1HostTimeout (s : Sys) (i g : Nat) : SameQuerier s (McastBridge.v1HostTimeout s i g) :=
  modifyGroup s i g _

theorem handleMrdSolicitation (s : Sys) (i rand : Nat) :
    SameQuerier s (McastBridge.handleMrdSolicitation s i rand) :=
  (delTimer s _).trans (sendMrdAdvertisement _ i rand)

theorem queryGroup (P : Proto) (s : Sys) (i a : Nat) :
    SameQuerier s (McastBridge.queryGroup P s i a) := by
  unfold McastBridge.queryGroup
  split
  · exact refl s
  · rename_i ifc g hfind
    have h := setFound s hfind
    dsimp only
    split
    · exact h
    · exact h.trans ((delTimer _ _).trans (addTimer _ _ _))

theorem joinCommon (P : Proto) (s : Sys) (i g : Nat) :
    SameQuerier s (McastBridge.joinCommon P s i g) := by
  dsimp only [McastBridge.joinCommon]
  have h : SameQuerier s (if (s.group i g).active then s.delTimer (.groupTimeout i g) else s) := by
    split
    · exact delTimer s _
    · exact refl s
  exact (h.trans (withBridgeList _ _)).trans
    ((ofView _ i (querierView_joinActivateAt _ _ _)).trans (addTimer _ _ _))

theorem leaveAccept (P : Proto) (s : Sys) (i g : Nat) :
    SameQuerier s (McastBridge.leaveAccept P s i g) := by
  dsimp only [McastBridge.leaveAccept]
  exact (((delTimer s _).trans (addTimer _ _ _)).trans (modifyGroup _ i g _)).trans
    (sendGroupSpecificQuery P _ i g)

/-- The group-record loop keeps the querier state, given a leave that keeps it. -/
theorem groupRecords (P : Proto) (leave : Sys → Nat → Nat → Sys) (i : Nat)
    (hleave : ∀ s g, SameQuerier s (leave s i g)) :
    ∀ (n : Nat) (buf : List UInt8) (s : Sys),
      SameQuerier s (McastBridge.groupRecords P leave s i n buf)
  | 0, _, s => refl s
  | n + 1, buf, s => by
      unfold McastBridge.groupRecords
      split
      · exact refl s
      · dsimp only
        split
        · exact refl s
        · split
          · exact groupRecords P leave i hleave n _ s
          · rename_i ifc g hfind
            have h := setFound s hfind
            have hjoin := fun b =>
              h.trans ((joinCommon P _ i g).trans (groupRecords P leave i hleave n b _))
            have hleave₁ := fun b =>
              h.trans ((hleave _ g).trans (groupRecords P leave i hleave n b _))
            split <;> (try split) <;> first | exact h | exact hjoin _ | exact hleave₁ _

theorem igmpLeaveCommon (s : Sys) (i g : Nat) :
    SameQuerier s (McastBridge.igmpLeaveCommon s i g) := by
  unfold McastBridge.igmpLeaveCommon
  split_ifs
  · exact refl s
  · exact refl s
  · exact refl s
  · exact refl s
  · exact leaveAccept igmpProto s i g

theorem mldLeaveCommon (s : Sys) (i g : Nat) :
    SameQuerier s (McastBridge.mldLeaveCommon s i g) := by
  unfold McastBridge.mldLeaveCommon
  split_ifs
  · exact refl s
  · exact refl s
  · exact refl s
  · exact leaveAccept mldProto s i g

theorem handleIgmpV1Report (s : Sys) (i : Nat) (buf : List UInt8) :
    SameQuerier s (McastBridge.handleIgmpV1Report s i buf) := by
  unfold McastBridge.handleIgmpV1Report
  split
  · exact refl s
  · split
    · exact refl s
    · rename_i ifc g hfind
      dsimp only
      refine (setFound s hfind).trans (trans (trans ?_ (addTimer _ _ _)) (joinCommon _ _ i g))
      split
      · exact delTimer _ _
      · exact modifyGroup _ i g _

theorem handleIgmpV2Report (s : Sys) (i : Nat) (buf : List UInt8) :
    SameQuerier s (McastBridge.handleIgmpV2Report s i buf) := by
  unfold McastBridge.handleIgmpV2Report
  split
  · exact refl s
  · split
    · exact refl s
    · rename_i ifc g hfind
      exact (setFound s hfind).trans (joinCommon _ _ i g)

theorem handleIgmpV2Leave (s : Sys) (i : Nat) (buf : List UInt8) :
    SameQuerier s (McastBridge.handleIgmpV2Leave s i buf) := by
  unfold McastBridge.handleIgmpV2Leave
  split
  · exact refl s
  · split
    · exact refl s
    · rename_i ifc g hfind
      exact (setFound s hfind).trans (igmpLeaveCommon _ i g)

theorem handleIgmpV3Report (s : Sys) (i : Nat) (buf : List UInt8) :
    SameQuerier s (McastBridge.handleIgmpV3Report s i buf) := by
  unfold McastBridge.handleIgmpV3Report
  split
  · exact refl s
  · exact groupRecords _ _ i (fun s g => igmpLeaveCommon s i g) _ _ s

theorem handleMldV1Report (s : Sys) (i a : Nat) :
    SameQuerier s (McastBridge.handleMldV1Report s i a) := by
  unfold McastBridge.handleMldV1Report
  split
  · exact refl s
  · rename_i ifc g hfind
    exact (setFound s hfind).trans (joinCommon _ _ i g)

theorem handleMldV1Leave (s : Sys) (i a : Nat) :
    SameQuerier s (McastBridge.handleMldV1Leave s i a) := by
  unfold McastBridge.handleMldV1Leave
  split
  · exact refl s
  · rename_i ifc g hfind
    exact (setFound s hfind).trans (mldLeaveCommon _ i g)

theorem handleMldV2Report (s : Sys) (i : Nat) (buf : List UInt8) :
    SameQuerier s (McastBridge.handleMldV2Report s i buf) :=
  groupRecords _ _ i (fun s g => mldLeaveCommon s i g) _ _ s

end Sys.SameQuerier

namespace Sys.SameQuerierBut

variable {i : Nat} {s s' s'' : Sys}

theorem trans (h : SameQuerierBut i s s') (h' : SameQuerierBut i s' s'') :
    SameQuerierBut i s s'' :=
  ⟨h'.mode.trans h.mode, h'.length.trans h.length, fun j => (h'.ifAddr j).trans (h.ifAddr j),
    fun j hj => (h'.querierAddr j hj).trans (h.querierAddr j hj),
    fun j hj => (h'.params j hj).trans (h.params j hj)⟩

theorem trans_same (h : SameQuerierBut i s s') (h' : SameQuerier s' s'') :
    SameQuerierBut i s s'' :=
  h.trans (h'.but i)

/-- An update of interface `i` that keeps its address. -/
theorem modifyIface (s : Sys) (i : Nat) {f : Interface → Interface}
    (ha : (f (s.iface i)).ifAddr = (s.iface i).ifAddr) : SameQuerierBut i s (s.modifyIface i f) :=
  ⟨rfl, s.length_modifyIface i f,
    s.iface_modifyIface_cases (fun j ifc => ifc.ifAddr = (s.iface j).ifAddr) i f
      (fun _ => ha) fun _ _ => rfl,
    fun j hj => by rw [Sys.iface_modifyIface, if_neg fun h => hj h.1.symm],
    fun j hj => by rw [Sys.iface_modifyIface, if_neg fun h => hj h.1.symm]⟩

end Sys.SameQuerierBut

/-! ### The election of `handle_*_query` -/

/-- The querier of interface `i` after an update that sets it. -/
theorem querierAddr_modifyIface_self (s : Sys) {i : Nat} (hi : i < s.interfaceList.length)
    {f : Interface → Interface} {a : Nat} (hf : ∀ ifc, (f ifc).querierAddr = a) :
    ((s.modifyIface i f).iface i).querierAddr = a := by
  rw [Sys.iface_modifyIface_self _ _ _ hi]; exact hf _

/-- The election keeps the querier state of the other interfaces; interface `i` keeps its
parameters or, for a query too short to carry them, takes the defaults with the new querier. -/
theorem electQuerier_querier {P : Proto} {s s' : Sys} {i src : Nat} {q : Query}
    (he : electQuerier P s i src q = some s') :
    Sys.SameQuerierBut i s s' ∧
      ((s'.iface i).querierParams = (s.iface i).querierParams ∨
        (s'.iface i).querierParams =
          (s.iface i).querierParams.adopt P.robustness P.queryInterval P.responseInterval) := by
  have hnew : ∀ s₀ : Sys, Sys.SameQuerier s s₀ → ∀ f : Interface → Interface,
      (∀ ifc, (f ifc).ifAddr = ifc.ifAddr) →
      (∀ ifc, (f ifc).querierParams = ifc.querierParams ∨
        (f ifc).querierParams = ifc.querierParams.adopt P.robustness P.queryInterval
          P.responseInterval) →
      Sys.SameQuerierBut i s (s₀.modifyIface i f) ∧
        (((s₀.modifyIface i f).iface i).querierParams = (s.iface i).querierParams ∨
          ((s₀.modifyIface i f).iface i).querierParams =
            (s.iface i).querierParams.adopt P.robustness P.queryInterval P.responseInterval) := by
    intro s₀ h₀ f ha hp
    refine ⟨h₀.trans_but (.modifyIface _ i (ha _)), ?_⟩
    rw [← h₀.params i]
    rcases Sys.iface_modifyIface_self_or s₀ i f with h | h <;> rw [h]
    · exact hp _
    · exact .inl rfl
  dsimp only [electQuerier] at he
  split_ifs at he <;> cases he
  · exact hnew _ (.delTimer s _) _ (fun _ => rfl) fun _ => .inl rfl
  · exact hnew _ (.delTimer s _) _ (fun _ => rfl) fun _ => .inr rfl
  · exact hnew _ (.refl s) _ (fun _ => rfl) fun _ => .inl rfl
  · exact hnew _ (.refl s) _ (fun _ => rfl) fun _ => .inr rfl
  · exact ⟨(Sys.SameQuerier.refl s).but i, .inl rfl⟩
  · exact ⟨(Sys.SameQuerier.refl s).but i, .inl rfl⟩

/-- **The election.**  For a query from `src`, not the interface's own address, the querier of
interface `i` becomes `src` if the interface was the querier in mode defer, and otherwise the
lower of the old querier and `src`. -/
theorem querierAddr_electQuerier (P : Proto) (s : Sys) {i src : Nat} (q : Query)
    (hi : i < s.interfaceList.length) (hsrc : src ≠ (s.iface i).ifAddr) :
    (((electQuerier P s i src q).getD s).iface i).querierAddr =
      if (s.iface i).querierAddr = (s.iface i).ifAddr ∧ s.querierMode = .defer then src
      else min (s.iface i).querierAddr src := by
  have hnew : ∀ s₀ : Sys, s₀.interfaceList = s.interfaceList → ∀ f : Interface → Interface,
      (∀ ifc, (f ifc).querierAddr = src) → ((s₀.modifyIface i f).iface i).querierAddr = src :=
    fun s₀ h₀ f hf => by rw [Sys.iface_modifyIface_self _ _ _ (h₀ ▸ hi)]; exact hf _
  dsimp only [electQuerier]
  by_cases h₁ : src = (s.iface i).querierAddr
  · rw [if_neg (not_not.2 h₁), if_neg fun h => hsrc (h₁.trans h.1), Option.getD_some, ← h₁,
      Nat.min_self]
  rw [if_pos h₁]
  by_cases h₂ : (s.iface i).querierAddr = (s.iface i).ifAddr
  · rw [if_pos h₂]
    by_cases h₃ : src < (s.iface i).ifAddr ∨ s.querierMode = .defer
    · rw [if_pos h₃, Option.getD_some]
      refine (hnew _ rfl _ fun ifc => ?_).trans ?_
      · split <;> rfl
      · split_ifs with hd
        · rfl
        · have : src < (s.iface i).ifAddr := h₃.resolve_right fun h => hd ⟨h₂, h⟩
          omega
    · rw [if_neg h₃, Option.getD_none, if_neg fun h => h₃ (.inr h.2)]
      have : ¬src < (s.iface i).ifAddr := fun h => h₃ (.inl h)
      omega
  · rw [if_neg h₂, if_neg (not_and_of_not_left _ h₂)]
    by_cases h₄ : src < (s.iface i).querierAddr
    · rw [if_pos h₄, Option.getD_some]
      refine (hnew _ rfl _ fun ifc => ?_).trans ?_
      · split <;> rfl
      · omega
    · rw [if_neg h₄, Option.getD_some]
      omega

/-- After the election the handler keeps the querier, and the interface adopts the parameters of
a v3 (v2) query. -/
theorem recordQuerier_querier (P : Proto) (s : Sys) (i : Nat) (q : Query) :
    Sys.SameQuerierBut i s (recordQuerier P s i q) ∧
      ((recordQuerier P s i q).iface i).querierAddr = (s.iface i).querierAddr ∧
      (((recordQuerier P s i q).iface i).querierParams = (s.iface i).querierParams ∨
        ((recordQuerier P s i q).iface i).querierParams =
          (s.iface i).querierParams.adopt q.qrv q.intervalSec q.responseInterval) := by
  dsimp only [recordQuerier]
  split
  · refine ⟨(Sys.SameQuerierBut.modifyIface s i rfl).trans_same
      ((Sys.SameQuerier.delTimer _ _).trans (.addTimer _ _ _)), ?_⟩
    simp only [Sys.iface_addTimer, Sys.iface_delTimer, Sys.iface_modifyIface, true_and]
    split
    · exact ⟨rfl, .inr rfl⟩
    · exact ⟨rfl, .inl rfl⟩
  · exact ⟨((Sys.SameQuerier.delTimer s _).trans (.addTimer _ _ _)).but i, by simp,
      .inl (by simp)⟩

/-- `handle_*_query` is the election, the adoption of the query's parameters, and then nothing
that touches the querier state. -/
theorem handleQuery_cases (P : Proto) (s : Sys) (i src : Nat) (q : Query) :
    (electQuerier P s i src q = none ∧ handleQuery P s i src q = s) ∨
      ∃ s₁, electQuerier P s i src q = some s₁ ∧
        Sys.SameQuerier (recordQuerier P s₁ i q) (handleQuery P s i src q) := by
  unfold handleQuery
  split
  · rename_i he
    exact .inl ⟨he, rfl⟩
  · rename_i s₁ he
    refine .inr ⟨s₁, he, ?_⟩
    dsimp only
    split
    · exact .refl _
    · split
      · exact .refl _
      · exact .queryGroup P _ i _

/-- The querier `handle_*_query` leaves on interface `i`: see
`McastBridge.querierAddr_electQuerier`. -/
theorem querierAddr_handleQuery (P : Proto) (s : Sys) {i src : Nat} (q : Query)
    (hi : i < s.interfaceList.length) (hsrc : src ≠ (s.iface i).ifAddr) :
    ((handleQuery P s i src q).iface i).querierAddr =
      if (s.iface i).querierAddr = (s.iface i).ifAddr ∧ s.querierMode = .defer then src
      else min (s.iface i).querierAddr src := by
  rw [← querierAddr_electQuerier P s q hi hsrc]
  rcases handleQuery_cases P s i src q with ⟨he, h⟩ | ⟨s₁, he, h⟩
  · rw [h, he, Option.getD_none]
  · rw [he, Option.getD_some, h.querierAddr i, (recordQuerier_querier P s₁ i q).2.1]

/-- `handle_*_query` changes the querier state of interface `i` only; its parameters afterwards
are the old ones, the defaults, or the query's. -/
theorem querierParams_handleQuery (P : Proto) (s : Sys) (i src : Nat) (q : Query) :
    Sys.SameQuerierBut i s (handleQuery P s i src q) ∧
      (((handleQuery P s i src q).iface i).querierParams = (s.iface i).querierParams ∨
        ((handleQuery P s i src q).iface i).querierParams =
          (s.iface i).querierParams.adopt P.robustness P.queryInterval P.responseInterval ∨
        ((handleQuery P s i src q).iface i).querierParams =
          (s.iface i).querierParams.adopt q.qrv q.intervalSec q.responseInterval) := by
  rcases handleQuery_cases P s i src q with ⟨-, h⟩ | ⟨s₁, he, h⟩
  · rw [h]
    exact ⟨(Sys.SameQuerier.refl s).but i, .inl rfl⟩
  obtain ⟨he₁, hp₁⟩ := electQuerier_querier he
  obtain ⟨hr, -, hp₂⟩ := recordQuerier_querier P s₁ i q
  refine ⟨(he₁.trans hr).trans_same h, ?_⟩
  rw [h.params i]
  rcases hp₂ with hp₂ | hp₂ <;> rw [hp₂] <;> rcases hp₁ with hp₁ | hp₁ <;> rw [hp₁]
  · exact .inl rfl
  · exact .inr (.inl rfl)
  · exact .inr (.inr rfl)
  · exact .inr (.inr rfl)

/-! ### Becoming the querier -/

/-- The default parameters of a protocol. -/
def Proto.defaultParams (P : Proto) : QuerierParams :=
  ⟨P.robustness, P.queryInterval, P.responseInterval, P.lastmbrInterval⟩

/-- `*_activate_querier_mode` sets the default parameters of interface `i` and keeps the querier
state of the others. -/
theorem activateQuerierMode_querier (P : Proto) (s : Sys) (i : Nat) :
    Sys.SameQuerierBut i s (activateQuerierMode P s i) ∧
      (i < s.interfaceList.length →
        ((activateQuerierMode P s i).iface i).querierParams = P.defaultParams) := by
  dsimp only [activateQuerierMode]
  refine ⟨(Sys.SameQuerierBut.modifyIface s i rfl).trans_same (.sendGeneralQuery _ i),
    fun hi => ?_⟩
  rw [(Sys.SameQuerier.sendGeneralQuery _ i).params i, Sys.iface_modifyIface_self _ _ _ hi]
  rfl

/-- A querier timeout changes the querier state of interface `i` only; its parameters become the
defaults or stay. -/
theorem querierTimeout_querier (P : Proto) (s : Sys) (i : Nat) :
    Sys.SameQuerierBut i s (querierTimeout P s i) ∧
      (((querierTimeout P s i).iface i).querierParams = (s.iface i).querierParams ∨
        ((querierTimeout P s i).iface i).querierParams = P.defaultParams) := by
  unfold querierTimeout
  split
  · obtain ⟨h, hp⟩ := activateQuerierMode_querier P s i
    refine ⟨h, ?_⟩
    rcases Nat.lt_or_ge i s.interfaceList.length with hi | hi
    · exact .inr (hp hi)
    · left
      rw [Sys.iface, Sys.iface, List.getD_eq_default _ _ hi,
        List.getD_eq_default _ _ (h.length ▸ hi)]
  · refine ⟨.modifyIface s i rfl, .inl ?_⟩
    rcases Sys.iface_modifyIface_self_or s i fun ifc => { ifc with querierAddr := P.allOnes }
      with h | h
    · rw [h]; rfl
    · rw [h]

/-- The start of interface `i` sets its default parameters and keeps the querier state of the
others. -/
theorem startInterface_querier (P : Proto) (s : Sys) (i rand : Nat) :
    Sys.SameQuerierBut i s (startInterface P s i rand) ∧
      (i < s.interfaceList.length →
        ((startInterface P s i rand).iface i).querierParams = P.defaultParams) := by
  dsimp only [startInterface]
  have hlen : ∀ {s' : Sys}, s'.interfaceList.length = s.interfaceList.length →
      i < s.interfaceList.length → i < s'.interfaceList.length := fun h hi => h ▸ hi
  split
  · obtain ⟨h, hp⟩ := activateQuerierMode_querier P
      (sendMrdAdvertisement (s.modifyIface i fun ifc =>
        { ifc with mrdInitialAdvertisementsRemaining := 2 }) i rand) i
    have h₁ := (Sys.SameQuerier.modifyIface s i rfl rfl rfl).trans
      (.sendMrdAdvertisement (s.modifyIface i fun ifc =>
        { ifc with mrdInitialAdvertisementsRemaining := 2 }) i rand)
    exact ⟨h₁.trans_but h, fun hi => hp (hlen h₁.length hi)⟩
  · have h₁ := (Sys.SameQuerier.modifyIface s i rfl rfl rfl).trans
      (.sendMrdAdvertisement (s.modifyIface i fun ifc =>
        { ifc with mrdInitialAdvertisementsRemaining := 2 }) i rand)
    have h₂ := h₁.trans_but (Sys.SameQuerierBut.modifyIface _ i (f := fun ifc => { ifc with
      querierRobustness := P.robustness
      querierIntervalSec := P.queryInterval
      querierResponseInterval := P.responseInterval
      querierLastmbrInterval := P.lastmbrInterval
      querierAddr := P.allOnes }) rfl)
    split
    · refine ⟨h₂.trans_same (.addTimer _ _ _), fun hi => ?_⟩
      rw [Sys.iface_addTimer, Sys.iface_modifyIface_self _ _ _ (hlen h₁.length hi)]
      rfl
    · refine ⟨h₂, fun hi => ?_⟩
      rw [Sys.iface_modifyIface_self _ _ _ (hlen h₁.length hi)]
      rfl

/-- **Start-up sets the default parameters on every interface.** -/
theorem querierParams_start (P : Proto) (s : Sys) (rands : Nat → Nat) {j : Nat}
    (hj : j < s.interfaceList.length) :
    ((start P s rands).iface j).querierParams = P.defaultParams := by
  suffices key : ∀ (l : List Nat) (s : Sys), (∀ k ∈ l, k < s.interfaceList.length) → ∀ j,
      ((l.foldl (fun s i => startInterface P s i (rands i)) s).iface j).querierParams =
        if j ∈ l then P.defaultParams else (s.iface j).querierParams by
    rw [start, key _ s (fun k hk => List.mem_range.1 hk) j, if_pos (List.mem_range.2 hj)]
  intro l
  induction l with
  | nil => intro s _ j; rfl
  | cons i l ih =>
      intro s hl j
      obtain ⟨h, hp⟩ := startInterface_querier P s i (rands i)
      rw [List.foldl_cons, ih _ (fun k hk => h.length ▸ hl k (.tail _ hk)) j]
      by_cases hjl : j ∈ l
      · rw [if_pos hjl, if_pos (.tail _ hjl)]
      · rw [if_neg hjl]
        by_cases hji : j = i
        · subst hji
          rw [if_pos (.head _), hp (hl _ (.head _))]
        · rw [if_neg (by simp [hji, hjl]), h.params j hji]

/-! ### What an event changes -/

/-- `igmp_receive` hands the message to `handle_igmp_query`, which takes it: an IGMP query (type
`0x11`) of at least eight bytes. -/
def igmpIsQuery (buf : List UInt8) : Bool := rd8 buf 0 = 0x11 && 8 ≤ buf.length

/-- `mld_receive` hands the message to `handle_mld_query`: an MLD query (type `0x82`) of at least
the 24 bytes of `mcb_mld_t`. -/
def mldIsQuery (buf : List UInt8) : Bool := 24 ≤ buf.length && rd8 buf 0 = 0x82

/-- A message received on interface `i` is a query the handler takes, from another address, or
it keeps the querier state. -/
theorem igmpReceive_querier (s : Sys) (i src : Nat) (buf : List UInt8) (rand : Nat) :
    if src ≠ (s.iface i).ifAddr ∧ igmpIsQuery buf = true then
      igmpReceive s i src buf rand = handleQuery igmpProto s i src (igmpQuery buf)
    else Sys.SameQuerier s (igmpReceive s i src buf rand) := by
  unfold igmpReceive
  by_cases hsrc : src = (s.iface i).ifAddr
  · rw [if_neg fun h => h.1 hsrc, if_pos hsrc]
    exact .refl s
  rw [if_neg hsrc]
  split_ifs with hq
  · simp only [igmpIsQuery, Bool.and_eq_true, decide_eq_true_eq] at hq
    rw [hq.2.1]
    exact if_neg (Nat.not_lt.2 hq.2.2)
  · have hq : rd8 buf 0 = 0x11 → buf.length < 8 := by
      simpa [igmpIsQuery, hsrc] using hq
    split
    next h =>
      unfold handleIgmpQuery
      rw [if_pos (hq h)]
      exact .refl s
    · exact .handleIgmpV1Report s i buf
    · exact .handleIgmpV2Report s i buf
    · exact .handleIgmpV2Leave s i buf
    · exact .handleIgmpV3Report s i buf
    · exact .handleMrdSolicitation s i rand
    · exact .refl s

/-- The MLD counterpart of `McastBridge.igmpReceive_querier`. -/
theorem mldReceive_querier (s : Sys) (i src : Nat) (buf : List UInt8) (rand : Nat) :
    if src ≠ (s.iface i).ifAddr ∧ mldIsQuery buf = true then
      mldReceive s i src buf rand = handleQuery mldProto s i src (mldQuery buf)
    else Sys.SameQuerier s (mldReceive s i src buf rand) := by
  unfold mldReceive
  by_cases hsrc : src = (s.iface i).ifAddr
  · rw [if_neg fun h => h.1 hsrc, if_pos hsrc]
    exact .refl s
  rw [if_neg hsrc]
  by_cases hl : buf.length < 24
  · rw [if_pos hl, if_neg fun h => by simp [mldIsQuery] at h; omega]
    exact .refl s
  rw [if_neg hl]
  by_cases h82 : rd8 buf 0 = 0x82
  · rw [if_pos ⟨hsrc, by simp [mldIsQuery, h82]; omega⟩, h82]
    rfl
  rw [if_neg fun h => by simp [mldIsQuery, h82] at h]
  split
  next h => exact absurd h h82
  · exact .handleMldV1Report s i _
  · exact .handleMldV1Leave s i _
  · split
    · exact .refl s
    · exact .handleMldV2Report s i buf
  · exact .handleMrdSolicitation s i rand
  · exact .refl s

/-- A timer callback of IGMP keeps the querier state, or is a querier timeout. -/
theorem igmpRunTimer_querier (s : Sys) (k : TimerKey) (rand : Nat) :
    Sys.SameQuerier s (igmpRunTimer s k rand) ∨
      ∃ j, k = .querierTimeout j ∧ igmpRunTimer s k rand = querierTimeout igmpProto s j := by
  cases k with
  | sendMrdAdvertisement j => exact .inl (.sendMrdAdvertisement s j rand)
  | sendGeneralQuery j => exact .inl (.sendGeneralQuery s j)
  | querierTimeout j => exact .inr ⟨j, rfl, by simp only [igmpRunTimer]⟩
  | sendGroupSpecificQuery j g => exact .inl (.sendGroupSpecificQuery igmpProto s j g)
  | groupTimeout j g => exact .inl (.groupTimeout s j g)
  | v1HostTimeout j g => exact .inl (.v1HostTimeout s j g)

/-- A timer callback of MLD keeps the querier state, or is a querier timeout. -/
theorem mldRunTimer_querier (s : Sys) (k : TimerKey) (rand : Nat) :
    Sys.SameQuerier s (mldRunTimer s k rand) ∨
      ∃ j, k = .querierTimeout j ∧ mldRunTimer s k rand = querierTimeout mldProto s j := by
  cases k with
  | sendMrdAdvertisement j => exact .inl (.sendMrdAdvertisement s j rand)
  | sendGeneralQuery j => exact .inl (.sendGeneralQuery s j)
  | querierTimeout j => exact .inr ⟨j, rfl, by simp only [mldRunTimer]⟩
  | sendGroupSpecificQuery j g => exact .inl (.sendGroupSpecificQuery mldProto s j g)
  | groupTimeout j g => exact .inl (.groupTimeout s j g)
  | v1HostTimeout j g => exact .inl (.refl s)

/-- What a subsystem's dispatchers do to the querier state: a message is a query the handler
takes, or it keeps the querier state; a timer callback is a querier timeout, or it keeps it. -/
structure QuerierDispatch (receive : Sys → Nat → Nat → List UInt8 → Nat → Sys)
    (runTimer : Sys → TimerKey → Nat → Sys) (P : Proto) (isQuery : List UInt8 → Bool)
    (query : List UInt8 → Query) : Prop where
  onReceive : ∀ s i src buf rand, if src ≠ (s.iface i).ifAddr ∧ isQuery buf = true then
      receive s i src buf rand = handleQuery P s i src (query buf)
    else Sys.SameQuerier s (receive s i src buf rand)
  onTimer : ∀ s k rand, Sys.SameQuerier s (runTimer s k rand) ∨
    ∃ j, k = .querierTimeout j ∧ runTimer s k rand = querierTimeout P s j

theorem igmpDispatch :
    QuerierDispatch igmpReceive igmpRunTimer igmpProto igmpIsQuery igmpQuery :=
  ⟨igmpReceive_querier, igmpRunTimer_querier⟩

theorem mldDispatch : QuerierDispatch mldReceive mldRunTimer mldProto mldIsQuery mldQuery :=
  ⟨mldReceive_querier, mldRunTimer_querier⟩

end McastBridge
