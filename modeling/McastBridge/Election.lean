import McastBridge.Querier
/-
**The querier election over a run.**

`handle_igmp_query` and `handle_mld_query` elect the querier of an interface from the queries it
receives.  A router that is the querier in mode defer yields to any query; otherwise the lower
address wins, the addresses compared by `memcmp` in network byte order, that is as numbers.
Over a run in which the interface's other-querier-present timer never fires, and in mode defer
the interface is never the querier, the elected querier therefore never goes up: at every point
it is the least of its value at the start and of the sources of the queries taken so far.

The run is a list of events of the subsystem's loop (`McastBridge.Event`), and the results hold
of any subsystem whose dispatchers act on the querier state as `McastBridge.QuerierDispatch`
says, IGMP and MLD among them.

Main definitions:

* `McastBridge.Event.querySource` — the source of a query an event delivers to an interface;
* `McastBridge.Event.fired` — the timer an expiry fires;
* `McastBridge.runPrefix` — the state after the first `k` events of a run;
* `McastBridge.QuietRun` — a run in which an interface's querier timer never fires and, in mode
  defer, the interface is never the querier.

Main results:

* `McastBridge.QuerierDispatch.querierAddr_apply` — what one event does to the querier;
* `McastBridge.QuerierDispatch.querierAddr_receive` — what a query does to it;
* `McastBridge.QuerierDispatch.querierAddr_runPrefix` — the querier along a quiet run;
* `McastBridge.querier_election` — both, for IGMP and for MLD.
-/

set_option relaxedAutoImplicit false
set_option autoImplicit false

namespace McastBridge

/-! ### Events and runs -/

/-- The source of the query the event delivers to interface `i`, of address `a`, if it is one
the query handler takes (`isQuery`) from another address. -/
def Event.querySource (isQuery : List UInt8 → Bool) (i a : Nat) : Event → Option Nat
  | .receive j src buf _ _ => if j = i ∧ src ≠ a ∧ isQuery buf = true then some src else none
  | .expire _ _ => none

/-- The timer the event fires in state `s`: the first pending one, for an expiry. -/
def Event.fired (s : Sys) : Event → Option TimerKey
  | .receive .. => none
  | .expire _ _ => s.evm.timerList.head?.map (·.key)

section Runs

variable (receive : Sys → Nat → Nat → List UInt8 → Nat → Sys)
  (runTimer : Sys → TimerKey → Nat → Sys)

/-- The state after the first `k` events of `es`, run from `s`. -/
def runPrefix (s : Sys) (es : List Event) (k : Nat) : Sys :=
  (runEvents receive runTimer s (es.take k)).1

@[simp] theorem runPrefix_zero (s : Sys) (es : List Event) : runPrefix receive runTimer s es 0 = s :=
  rfl

@[simp] theorem runPrefix_cons_succ (s : Sys) (e : Event) (es : List Event) (k : Nat) :
    runPrefix receive runTimer s (e :: es) (k + 1) =
      runPrefix receive runTimer (e.apply receive runTimer s) es k :=
  rfl

/-- A run of `es` from `s` in which no querier timer of interface `i` fires and, in mode defer,
the interface is never the querier. -/
structure QuietRun (s : Sys) (es : List Event) (i : Nat) : Prop where
  noTimeout : ∀ k (hk : k < es.length),
    es[k].fired (runPrefix receive runTimer s es k) ≠ some (.querierTimeout i)
  notQuerier : s.querierMode = .defer → ∀ k ≤ es.length,
    ((runPrefix receive runTimer s es k).iface i).querierAddr ≠
      ((runPrefix receive runTimer s es k).iface i).ifAddr

variable {receive runTimer}

/-- The rest of a quiet run is quiet. -/
theorem QuietRun.tail {s : Sys} {e : Event} {es : List Event} {i : Nat}
    (h : QuietRun receive runTimer s (e :: es) i)
    (hmode : (e.apply receive runTimer s).querierMode = s.querierMode) :
    QuietRun receive runTimer (e.apply receive runTimer s) es i :=
  ⟨fun k hk => h.noTimeout (k + 1) (Nat.succ_lt_succ hk),
    fun hd k hk => h.notQuerier (hmode ▸ hd) (k + 1) (Nat.succ_le_succ hk)⟩

end Runs

theorem foldl_min_le (a : Nat) : ∀ l : List Nat, l.foldl min a ≤ a
  | [] => le_rfl
  | b :: l => (foldl_min_le (min a b) l).trans (Nat.min_le_left a b)

/-! ### One event -/

section Dispatch

variable {receive : Sys → Nat → Nat → List UInt8 → Nat → Sys}
  {runTimer : Sys → TimerKey → Nat → Sys} {P : Proto} {isQuery : List UInt8 → Bool}
  {query : List UInt8 → Query}

/-- **One event.**  An event that does not fire interface `i`'s querier timer, in a state where
`i` is not the querier if the mode is defer, lowers the querier of `i` to the source of the query
it delivers to `i`, if any, and otherwise leaves it; some interface `j` has all the querier state
it had, but for its own. -/
theorem QuerierDispatch.querierAddr_apply (hD : QuerierDispatch receive runTimer P isQuery query)
    (s : Sys) (e : Event) {i : Nat} (hi : i < s.interfaceList.length)
    (ht : e.fired s ≠ some (.querierTimeout i))
    (hd : s.querierMode = .defer → (s.iface i).querierAddr ≠ (s.iface i).ifAddr) :
    (∃ j, Sys.SameQuerierBut j s (e.apply receive runTimer s)) ∧
      ((e.apply receive runTimer s).iface i).querierAddr =
        ((e.querySource isQuery i (s.iface i).ifAddr).map
          (min (s.iface i).querierAddr)).getD (s.iface i).querierAddr := by
  cases e with
  | receive j src buf now rand =>
      have h₀ := Sys.SameQuerier.withClock s now s.evm
      have hr := hD.onReceive { s with clock := now } j src buf rand
      simp only [Event.apply, Event.querySource]
      split_ifs at hr with hq
      · rw [hr]
        have hB := (querierParams_handleQuery P { s with clock := now } j src (query buf)).1
        refine ⟨⟨j, h₀.trans_but hB⟩, ?_⟩
        by_cases hji : j = i
        · subst hji
          rw [if_pos ⟨rfl, hq⟩, Option.map_some', Option.getD_some,
            querierAddr_handleQuery P { s with clock := now } _ hi hq.1]
          exact if_neg fun h => hd h.2 h.1
        · rw [if_neg fun h => hji h.1, Option.map_none', Option.getD_none,
            hB.querierAddr i (Ne.symm hji)]
          rfl
      · refine ⟨⟨i, (h₀.trans hr).but i⟩, ?_⟩
        rw [if_neg, Option.map_none', Option.getD_none, (h₀.trans hr).querierAddr i]
        rintro ⟨rfl, h⟩
        exact hq h
  | expire now rand =>
      simp only [Event.apply, expireFirst, Event.querySource, Option.map_none', Option.getD_none]
      split
      · exact ⟨⟨i, (Sys.SameQuerier.refl s).but i⟩, rfl⟩
      · rename_i t rest heq
        have h₀ := Sys.SameQuerier.withClock s now { s.evm with timerList := rest }
        rcases hD.onTimer { s with clock := now, evm := { s.evm with timerList := rest } } t.key
          rand with h | ⟨j, hk, h⟩
        · exact ⟨⟨i, (h₀.trans h).but i⟩, (h₀.trans h).querierAddr i⟩
        · have hji : j ≠ i := by
            rintro rfl
            exact ht (by simp [Event.fired, heq, hk])
          rw [h]
          have hB := (querierTimeout_querier P
            { s with clock := now, evm := { s.evm with timerList := rest } } j).1
          exact ⟨⟨j, h₀.trans_but hB⟩, hB.querierAddr i (Ne.symm hji)⟩

/-- A query the handler takes sets the querier as the election says. -/
theorem QuerierDispatch.querierAddr_receive (hD : QuerierDispatch receive runTimer P isQuery query)
    (s : Sys) {i src : Nat} (buf : List UInt8) (rand : Nat) (hi : i < s.interfaceList.length)
    (hsrc : src ≠ (s.iface i).ifAddr) (hq : isQuery buf = true) :
    ((receive s i src buf rand).iface i).querierAddr =
      if (s.iface i).querierAddr = (s.iface i).ifAddr ∧ s.querierMode = .defer then src
      else min (s.iface i).querierAddr src := by
  have h := hD.onReceive s i src buf rand
  rw [if_pos ⟨hsrc, hq⟩] at h
  rw [h, querierAddr_handleQuery P s _ hi hsrc]

/-! ### A run -/

/-- **The querier along a quiet run** is, after each prefix of the run, the least of its value
at the start and of the sources of the queries interface `i` took so far. -/
theorem QuerierDispatch.querierAddr_runPrefix
    (hD : QuerierDispatch receive runTimer P isQuery query) :
    ∀ (es : List Event) (s : Sys) {i : Nat}, i < s.interfaceList.length →
      QuietRun receive runTimer s es i → ∀ k ≤ es.length,
        ((runPrefix receive runTimer s es k).iface i).querierAddr =
          ((es.take k).filterMap (Event.querySource isQuery i (s.iface i).ifAddr)).foldl min
            (s.iface i).querierAddr
  | _, _, _, _, _, 0, _ => rfl
  | e :: es, s, i, hi, hq, k + 1, hk => by
      obtain ⟨⟨j, hB⟩, ha⟩ := hD.querierAddr_apply s e hi (hq.noTimeout 0 (Nat.succ_pos _))
        fun hd => hq.notQuerier hd 0 (Nat.zero_le _)
      rw [runPrefix_cons_succ, hD.querierAddr_runPrefix es _ (hB.length ▸ hi) (hq.tail hB.mode) k
        (Nat.le_of_succ_le_succ hk), hB.ifAddr i, ha, List.take_succ_cons]
      cases hs : e.querySource isQuery i (s.iface i).ifAddr with
      | none => rw [List.filterMap_cons_none hs]; rfl
      | some src => rw [List.filterMap_cons_some hs]; rfl

/-- Along a quiet run the querier of interface `i` never goes up. -/
theorem QuerierDispatch.querierAddr_runPrefix_succ_le
    (hD : QuerierDispatch receive runTimer P isQuery query) (es : List Event) (s : Sys) {i : Nat}
    (hi : i < s.interfaceList.length) (hq : QuietRun receive runTimer s es i) {k : Nat}
    (hk : k < es.length) :
    ((runPrefix receive runTimer s es (k + 1)).iface i).querierAddr ≤
      ((runPrefix receive runTimer s es k).iface i).querierAddr := by
  rw [hD.querierAddr_runPrefix es s hi hq _ hk, hD.querierAddr_runPrefix es s hi hq _ hk.le,
    List.take_succ, List.filterMap_append, List.foldl_append]
  exact foldl_min_le _ _

end Dispatch

/-! ### IGMP and MLD -/

theorem querier_election :
    (∀ (s : Sys) (i src : Nat) (buf : List UInt8) (rand : Nat), i < s.interfaceList.length →
      src ≠ (s.iface i).ifAddr → igmpIsQuery buf = true →
      ((igmpReceive s i src buf rand).iface i).querierAddr =
        if (s.iface i).querierAddr = (s.iface i).ifAddr ∧ s.querierMode = .defer then src
        else min (s.iface i).querierAddr src) ∧
    (∀ (s : Sys) (i src : Nat) (buf : List UInt8) (rand : Nat), i < s.interfaceList.length →
      src ≠ (s.iface i).ifAddr → mldIsQuery buf = true →
      ((mldReceive s i src buf rand).iface i).querierAddr =
        if (s.iface i).querierAddr = (s.iface i).ifAddr ∧ s.querierMode = .defer then src
        else min (s.iface i).querierAddr src) ∧
    (∀ (s : Sys) (es : List Event) (i : Nat), i < s.interfaceList.length →
      QuietRun igmpReceive igmpRunTimer s es i → ∀ k ≤ es.length,
        ((runPrefix igmpReceive igmpRunTimer s es k).iface i).querierAddr =
          ((es.take k).filterMap (Event.querySource igmpIsQuery i (s.iface i).ifAddr)).foldl min
            (s.iface i).querierAddr ∧
        (k < es.length →
          ((runPrefix igmpReceive igmpRunTimer s es (k + 1)).iface i).querierAddr ≤
            ((runPrefix igmpReceive igmpRunTimer s es k).iface i).querierAddr)) ∧
    (∀ (s : Sys) (es : List Event) (i : Nat), i < s.interfaceList.length →
      QuietRun mldReceive mldRunTimer s es i → ∀ k ≤ es.length,
        ((runPrefix mldReceive mldRunTimer s es k).iface i).querierAddr =
          ((es.take k).filterMap (Event.querySource mldIsQuery i (s.iface i).ifAddr)).foldl min
            (s.iface i).querierAddr ∧
        (k < es.length →
          ((runPrefix mldReceive mldRunTimer s es (k + 1)).iface i).querierAddr ≤
            ((runPrefix mldReceive mldRunTimer s es k).iface i).querierAddr)) :=
  ⟨fun s _ _ buf rand hi hsrc hq => igmpDispatch.querierAddr_receive s buf rand hi hsrc hq,
    fun s _ _ buf rand hi hsrc hq => mldDispatch.querierAddr_receive s buf rand hi hsrc hq,
    fun s es _ hi hq k hk => ⟨igmpDispatch.querierAddr_runPrefix es s hi hq k hk,
      igmpDispatch.querierAddr_runPrefix_succ_le es s hi hq⟩,
    fun s es _ hi hq k hk => ⟨mldDispatch.querierAddr_runPrefix es s hi hq k hk,
      mldDispatch.querierAddr_runPrefix_succ_le es s hi hq⟩⟩

end McastBridge
