import McastBridge.Querier
/-
**The querier parameters stay in range, and no timer duration wraps.**

An interface takes its robustness, query interval and response interval from the queries of the
querier it elects (`handle_*_query`), or from the defaults: at start-up, when it becomes the
querier, and for a query too short to carry them.  The fields they are read from bound them.
The QRV is three bits.  The QQIC is an 8-bit time code, which decodes to at most 31 744 seconds.
The Max Response Code is an 8-bit time code in tenths of a second for IGMP, at most 31 744, and a
16-bit one in milliseconds for MLD, at most 8 387 584.  The last-member interval is the default
or, before start-up reaches the interface, zero.  These bounds hold in every reachable state, and
under them every timer duration the handlers compute in `unsigned int` arithmetic is the exact
value of its formula, below `2 ^ 31`.

The handlers compute each duration from the parameters the interface has in the state before the
handler or in the state after it: `handle_*_query` adopts the query's parameters before it sets
the other-querier-present timer, and start-up and `*_activate_querier_mode` set the defaults
before they send the first general query.

Main definitions:

* `McastBridge.QuerierParams.Within` — parameters within the ranges of their fields;
* `McastBridge.ParamsInRange` — a protocol whose defaults and queries are in range;
* `McastBridge.ExactMillis` — a duration that is the exact value of its formula, below `2 ^ 31`;
* `McastBridge.IgmpTimerBounds`, `McastBridge.MldTimerBounds` — the bounds of the parameters, and
  every timer duration of the subsystem exact.

Main results:

* `McastBridge.QuerierDispatch.paramsWithin_reachable` — the parameters stay in range in every
  reachable state of a subsystem whose defaults and queries are in range;
* `McastBridge.igmpTimerBounds_of_within`, `McastBridge.mldTimerBounds_of_within` — parameters in
  range give exact durations;
* `McastBridge.querier_parameters_bounded` — both, for IGMP and MLD.
-/

set_option relaxedAutoImplicit false
set_option autoImplicit false

namespace McastBridge

/-! ### Parameters in range -/

/-- Parameters within the ranges of the fields they are read from: a 3-bit QRV, an 8-bit QQIC
time code, a response time code of at most `responseMax`, and a last-member interval of at most
`lastmbrMax`. -/
structure QuerierParams.Within (responseMax lastmbrMax : Nat) (p : QuerierParams) : Prop where
  robustness : p.robustness ≤ 7
  intervalSec : p.intervalSec ≤ 31744
  responseInterval : p.responseInterval ≤ responseMax
  lastmbrInterval : p.lastmbrInterval ≤ lastmbrMax

theorem QuerierParams.Within.adopt {R L : Nat} {p : QuerierParams} (hp : p.Within R L)
    {r i x : Nat} (hr : r ≤ 7) (hi : i ≤ 31744) (hx : x ≤ R) : (p.adopt r i x).Within R L :=
  ⟨hr, hi, hx, hp.lastmbrInterval⟩

/-- The parameters of every interface of a state are in range. -/
def Sys.ParamsWithin (responseMax lastmbrMax : Nat) (s : Sys) : Prop :=
  ∀ j, (s.iface j).querierParams.Within responseMax lastmbrMax

/-- The defaults of a protocol, and the parameters of each of its queries, are in range. -/
structure ParamsInRange (P : Proto) (query : List UInt8 → Query) (responseMax lastmbrMax : Nat) :
    Prop where
  defaults : P.defaultParams.Within responseMax lastmbrMax
  qrv : ∀ buf, (query buf).qrv ≤ 7
  intervalSec : ∀ buf, (query buf).intervalSec ≤ 31744
  responseInterval : ∀ buf, (query buf).responseInterval ≤ responseMax

theorem igmpParamsInRange : ParamsInRange igmpProto igmpQuery 31744 10 :=
  ⟨⟨by decide, by decide, by decide, by decide⟩, fun _ => Nat.and_le_right,
    fun _ => timecode8bitDecode_le _, fun _ => timecode8bitDecode_le _⟩

theorem mldParamsInRange : ParamsInRange mldProto mldQuery 8387584 1000 :=
  ⟨⟨by decide, by decide, by decide, by decide⟩, fun _ => Nat.and_le_right,
    fun _ => timecode8bitDecode_le _, fun _ => timecode16bitDecode_le _⟩

namespace Sys.ParamsWithin

variable {R L : Nat} {s s' : Sys}

theorem of_same (hs : s.ParamsWithin R L) (h : SameQuerier s s') : s'.ParamsWithin R L :=
  fun j => (h.params j).symm ▸ hs j

theorem of_but {i : Nat} (hs : s.ParamsWithin R L) (h : SameQuerierBut i s s')
    (hi : (s'.iface i).querierParams.Within R L) : s'.ParamsWithin R L := fun j => by
  by_cases hj : j = i
  · exact hj ▸ hi
  · exact (h.params j hj).symm ▸ hs j

end Sys.ParamsWithin

/-- Start-up leaves the parameters in range when the defaults are. -/
theorem paramsWithin_start {P : Proto} {R L : Nat} (hdef : P.defaultParams.Within R L) (s : Sys)
    (rands : Nat → Nat) : (start P s rands).ParamsWithin R L := fun j => by
  rcases Nat.lt_or_ge j s.interfaceList.length with hj | hj
  · rw [querierParams_start P s rands hj]
    exact hdef
  · rw [Sys.iface, List.getD_eq_default _ _ (by rw [length_start]; exact hj)]
    exact ⟨Nat.zero_le _, Nat.zero_le _, Nat.zero_le _, Nat.zero_le _⟩

section Invariant

variable {receive : Sys → Nat → Nat → List UInt8 → Nat → Sys}
  {runTimer : Sys → TimerKey → Nat → Sys} {P : Proto} {isQuery : List UInt8 → Bool}
  {query : List UInt8 → Query} {R L : Nat}

/-- **Each step keeps the parameters in range**: a query leaves the old ones, the defaults or
its own, and a querier timeout the old ones or the defaults. -/
theorem QuerierDispatch.paramsWithin_step (hD : QuerierDispatch receive runTimer P isQuery query)
    (hP : ParamsInRange P query R L) {s s' : Sys} (h : Step receive runTimer s s')
    (hs : s.ParamsWithin R L) : s'.ParamsWithin R L := by
  cases h with
  | receive i src buf now rand _ _ =>
      have hs₀ := hs.of_same (Sys.SameQuerier.withClock s now s.evm)
      have hr := hD.onReceive { s with clock := now } i src buf rand
      split_ifs at hr
      · rw [hr]
        obtain ⟨hB, hp⟩ := querierParams_handleQuery P { s with clock := now } i src (query buf)
        refine hs₀.of_but hB ?_
        rcases hp with hp | hp | hp <;> rw [hp]
        · exact hs₀ i
        · exact (hs₀ i).adopt hP.defaults.robustness hP.defaults.intervalSec
            hP.defaults.responseInterval
        · exact (hs₀ i).adopt (hP.qrv buf) (hP.intervalSec buf) (hP.responseInterval buf)
      · exact hs₀.of_same hr
  | expire t rest now rand _ _ _ =>
      have hs₀ := hs.of_same (Sys.SameQuerier.withClock s now { s.evm with timerList := rest })
      rcases hD.onTimer { s with clock := now, evm := { s.evm with timerList := rest } } t.key
        rand with h | ⟨j, -, h⟩
      · exact hs₀.of_same h
      · rw [h]
        obtain ⟨hB, hp⟩ := querierTimeout_querier P
          { s with clock := now, evm := { s.evm with timerList := rest } } j
        refine hs₀.of_but hB ?_
        rcases hp with hp | hp <;> rw [hp]
        · exact hs₀ j
        · exact hP.defaults

/-- The parameters stay in range in every state reachable from states where they are. -/
theorem QuerierDispatch.paramsWithin_reachable
    (hD : QuerierDispatch receive runTimer P isQuery query) (hP : ParamsInRange P query R L)
    {init : Sys → Prop} (hinit : ∀ s, init s → s.ParamsWithin R L) {s : Sys}
    (h : Reachable receive runTimer init s) : s.ParamsWithin R L := by
  induction h with
  | init h => exact hinit _ h
  | step _ hstep ih => exact hD.paramsWithin_step hP hstep ih

end Invariant

/-! ### The timer durations -/

/-- A duration computed in `unsigned int` arithmetic, `m`, is the exact value `x` of its formula,
and below `2 ^ 31`. -/
def ExactMillis (m x : Nat) : Prop := m = x ∧ x < 2 ^ 31

theorem exactMillis_u32 {x : Nat} (h : x < 2 ^ 31) : ExactMillis (u32 x) x :=
  ⟨Nat.mod_eq_of_lt (h.trans (by decide)), h⟩

/-- The bounds of the IGMP parameters of an interface, and every IGMP timer duration computed
from them exact. -/
structure IgmpTimerBounds (ifc : Interface) : Prop where
  robustness : ifc.querierRobustness ≤ 7
  intervalSec : ifc.querierIntervalSec ≤ 31744
  responseInterval : ifc.querierResponseInterval ≤ 31744
  /-- The other-querier-present timer of `handle_igmp_query`. -/
  querierTimeout : ExactMillis (igmpProto.querierTimeoutMillis ifc)
    ((ifc.querierRobustness * ifc.querierIntervalSec + ifc.querierResponseInterval / 20) * 1000)
  /-- The membership timer `handle_igmp_query` sets for a group-specific query. -/
  groupQuery : ExactMillis (igmpProto.groupQueryMillis ifc)
    (ifc.querierRobustness * ifc.querierResponseInterval * 100 + 10)
  /-- The membership timer of `igmp_join_common`, and the v1-host timer of
  `handle_igmp_v1_report`. -/
  join : ExactMillis (igmpProto.joinMillis ifc)
    ((ifc.querierRobustness * ifc.querierIntervalSec + ifc.querierResponseInterval / 10) * 1000)
  /-- The membership timer of `igmp_leave_common`. -/
  leave : ExactMillis (igmpProto.leaveMillis ifc)
    (ifc.querierRobustness * ifc.querierLastmbrInterval * 100 + 10)
  /-- The spacing of `send_group_specific_query`. -/
  lastmbr : ExactMillis (igmpProto.lastmbrMillis ifc) (ifc.querierLastmbrInterval * 100)
  /-- The query interval of `igmp_send_general_query`. -/
  generalQuery : ExactMillis (u32 (ifc.querierIntervalSec * 1000)) (ifc.querierIntervalSec * 1000)

/-- The bounds of the MLD parameters of an interface, and every MLD timer duration computed from
them exact. -/
structure MldTimerBounds (ifc : Interface) : Prop where
  robustness : ifc.querierRobustness ≤ 7
  intervalSec : ifc.querierIntervalSec ≤ 31744
  responseInterval : ifc.querierResponseInterval ≤ 8387584
  /-- The other-querier-present timer of `handle_mld_query`. -/
  querierTimeout : ExactMillis (mldProto.querierTimeoutMillis ifc)
    (ifc.querierRobustness * ifc.querierIntervalSec * 1000 + ifc.querierResponseInterval / 2)
  /-- The membership timer `handle_mld_query` sets for a group-specific query. -/
  groupQuery : ExactMillis (mldProto.groupQueryMillis ifc)
    (ifc.querierRobustness * ifc.querierResponseInterval + 10)
  /-- The membership timer of `mld_join_common`. -/
  join : ExactMillis (mldProto.joinMillis ifc)
    (ifc.querierRobustness * ifc.querierIntervalSec * 1000 + ifc.querierResponseInterval + 10)
  /-- The membership timer of `mld_leave_common`. -/
  leave : ExactMillis (mldProto.leaveMillis ifc)
    (ifc.querierRobustness * ifc.querierLastmbrInterval + 10)
  /-- The spacing of `send_group_specific_query`. -/
  lastmbr : ExactMillis (mldProto.lastmbrMillis ifc) ifc.querierLastmbrInterval
  /-- The query interval of `mld_send_general_query`. -/
  generalQuery : ExactMillis (u32 (ifc.querierIntervalSec * 1000)) (ifc.querierIntervalSec * 1000)

theorem igmpTimerBounds_of_within {ifc : Interface} (h : ifc.querierParams.Within 31744 10) :
    IgmpTimerBounds ifc := by
  have hr : ifc.querierRobustness ≤ 7 := h.robustness
  have hi : ifc.querierIntervalSec ≤ 31744 := h.intervalSec
  have hx : ifc.querierResponseInterval ≤ 31744 := h.responseInterval
  have hl : ifc.querierLastmbrInterval ≤ 10 := h.lastmbrInterval
  have hri := Nat.mul_le_mul hr hi
  have hrx := Nat.mul_le_mul hr hx
  have hrl := Nat.mul_le_mul hr hl
  exact ⟨hr, hi, hx, exactMillis_u32 (by omega), exactMillis_u32 (by omega),
    exactMillis_u32 (by omega), exactMillis_u32 (by omega), exactMillis_u32 (by omega),
    exactMillis_u32 (by omega)⟩

theorem mldTimerBounds_of_within {ifc : Interface} (h : ifc.querierParams.Within 8387584 1000) :
    MldTimerBounds ifc := by
  have hr : ifc.querierRobustness ≤ 7 := h.robustness
  have hi : ifc.querierIntervalSec ≤ 31744 := h.intervalSec
  have hx : ifc.querierResponseInterval ≤ 8387584 := h.responseInterval
  have hl : ifc.querierLastmbrInterval ≤ 1000 := h.lastmbrInterval
  have hri := Nat.mul_le_mul hr hi
  have hrx := Nat.mul_le_mul hr hx
  have hrl := Nat.mul_le_mul hr hl
  exact ⟨hr, hi, hx, exactMillis_u32 (by omega), exactMillis_u32 (by omega),
    exactMillis_u32 (by omega), exactMillis_u32 (by omega), ⟨rfl, by omega⟩,
    exactMillis_u32 (by omega)⟩

/-! ### IGMP and MLD -/

theorem querier_parameters_bounded (mode : QuerierModeType) (nonConfiguredGroups : Nat)
    (bl : List BridgeInstance) :
    (∀ s, IgmpReachable mode nonConfiguredGroups bl s → ∀ i, IgmpTimerBounds (s.iface i)) ∧
      (∀ s, MldReachable mode nonConfiguredGroups bl s → ∀ i, MldTimerBounds (s.iface i)) := by
  refine ⟨fun s hs i => igmpTimerBounds_of_within
      (igmpDispatch.paramsWithin_reachable igmpParamsInRange ?_ hs i),
    fun s hs i => mldTimerBounds_of_within
      (mldDispatch.paramsWithin_reachable mldParamsInRange ?_ hs i)⟩
  · rintro _ ⟨now, rands, rfl⟩
    exact paramsWithin_start igmpParamsInRange.defaults _ rands
  · rintro _ ⟨now, rands, rfl⟩
    exact paramsWithin_start mldParamsInRange.defaults _ rands

end McastBridge
