import Mathlib.Data.List.Perm.Basic
import Mathlib.Data.List.Sort
/-
**The event manager: a preallocated, deadline-ordered list of one-shot timers.**

Each subsystem (IGMP, MLD, each bridge) runs its own event manager (`evm_*` in the event
manager source).  Its timers are kept in `timer_list`, sorted by deadline, with room for
`timer_list_allocated` of them fixed at creation; a timer is identified for deletion only by its
`(callback, closure)` pair.  Here that pair is a key of any type with decidable equality, and a
deadline is the `struct timespec` the source computes from `clock_gettime(CLOCK_MONOTONIC)`.

Main definitions:

* `McastBridge.evmAddTimer` — `evm_add_timer`: `none` when the table is full (the source logs
  "Number of timers exceeded" and drops the timer), otherwise the timer inserted after every
  timer with an equal or earlier deadline;
* `McastBridge.evmDelTimer` — `evm_del_timer`: the first timer with the given key removed;
* `McastBridge.timespecDeltaMillis` — the expiry test of `evm_loop`;
* `McastBridge.evmExpire` — one pass of the expiry loop of `evm_loop`;
* `McastBridge.evmRun` — the timers after any sequence of `evm_add_timer`, `evm_del_timer` and
  expiry passes, with the keys whose callbacks were invoked; `McastBridge.evmRunTagged` — the
  same run with each timer tagged by the `evm_add_timer` that set it, so that a statement can
  name a timer and not only its key;
* `McastBridge.EvmTimers` — the representation invariant of the timer list, with what each
  operation does to it: where `evm_add_timer` inserts, what `evm_del_timer` removes, and which
  timer an expiry pass fires, if any.

Main results:

* `McastBridge.keys_insertTimer`, `McastBridge.keys_delFirst` — as a multiset of keys, adding
  is consing and deleting is `List.erase`: what every invariant about pending timers uses;
* `McastBridge.insertTimer_eq`, `McastBridge.delFirst_eq`, `McastBridge.evmExpire_eq` — where
  a timer is inserted, which one is deleted, which one expires;
* `McastBridge.Timespec.deltaMillis_nonpos_iff` — the deadline test of `evm_loop` passes once
  the clock is less than a millisecond before the deadline;
* `McastBridge.evmRun_append_expire` — an expiry pass at the end of a run;
* `McastBridge.EvmTimers.evmRun` — **every run keeps the timer list sorted, with valid
  deadlines, within its room**;
* `McastBridge.evmRunTagged_untag`, `McastBridge.nodup_evmRunTagged` — the tagged run is the run,
  and no timer is invoked twice, or invoked and deleted.
-/

set_option relaxedAutoImplicit false
set_option autoImplicit false

namespace McastBridge

/-- `struct timespec`. -/
structure Timespec where
  tvSec : Nat
  tvNsec : Nat
  deriving DecidableEq, Repr, Inhabited

/-- The reading of `CLOCK_MONOTONIC` at `ns` nanoseconds. -/
def Timespec.ofNs (ns : Nat) : Timespec := ⟨ns / 1000000000, ns % 1000000000⟩

/-- `timespec_delta_millis(ts1, ts2)`: milliseconds from `ts1` to `ts2`.  For valid readings the
nanoseconds divided are never negative, where the truncating division of C and the division here
agree. -/
def timespecDeltaMillis (ts1 ts2 : Timespec) : Int :=
  let sec : Int := (ts2.tvSec : Int) - ts1.tvSec
  let nsec : Int := (ts2.tvNsec : Int) - ts1.tvNsec
  if nsec < 0 then (sec - 1) * 1000 + (nsec + 1000000000) / 1000000
  else sec * 1000 + nsec / 1000000

/-- `timer_event_t`: a deadline and the `(callback, closure)` pair, here `key`. -/
structure TimerEvent (κ : Type) where
  timespec : Timespec
  key : κ
  deriving DecidableEq, Repr

/-- The timer part of `_evm_t`. -/
structure Evm (κ : Type) where
  timerList : List (TimerEvent κ)
  timerListAllocated : Nat
  deriving DecidableEq, Repr

variable {κ : Type}

/-- `evm_create(…, max_timer_count)`. -/
def evmCreate (maxTimerCount : Nat) : Evm κ := ⟨[], maxTimerCount⟩

/-- The deadline `millis` after `now`, as `evm_add_timer` computes it. -/
def deadline (now : Timespec) (millis : Nat) : Timespec :=
  let sec := now.tvSec + millis / 1000
  let nsec := now.tvNsec + (millis % 1000) * 1000000
  if nsec ≥ 1000000000 then ⟨sec + 1, nsec - 1000000000⟩ else ⟨sec, nsec⟩

/-- The comparison of the insertion loop of `evm_add_timer`: `a` is strictly earlier. -/
def Timespec.lt (a b : Timespec) : Bool :=
  a.tvSec < b.tvSec || (a.tvSec == b.tvSec && a.tvNsec < b.tvNsec)

/-- Insert before the first timer with a strictly later deadline. -/
def insertTimer (t : TimerEvent κ) : List (TimerEvent κ) → List (TimerEvent κ)
  | [] => [t]
  | u :: us => if t.timespec.lt u.timespec then t :: u :: us else u :: insertTimer t us

/-- `evm_add_timer`; `none` is the branch that logs "Number of timers exceeded". -/
def evmAddTimer (evm : Evm κ) (now : Timespec) (millis : Nat) (key : κ) : Option (Evm κ) :=
  if evm.timerList.length ≥ evm.timerListAllocated then none
  else some { evm with timerList := insertTimer ⟨deadline now millis, key⟩ evm.timerList }

/-- The text `evm_add_timer` logs when the table is full. -/
def evmAddTimerExceeded (allocated : Nat) : String :=
  "evm_add_timer: Number of timers (" ++ toString allocated ++ ") exceeded\n"

/-- Remove the first timer with key `key`. -/
def delFirst [DecidableEq κ] (key : κ) : List (TimerEvent κ) → List (TimerEvent κ)
  | [] => []
  | u :: us => if u.key = key then us else u :: delFirst key us

/-- `evm_del_timer`. -/
def evmDelTimer [DecidableEq κ] (evm : Evm κ) (key : κ) : Evm κ :=
  { evm with timerList := delFirst key evm.timerList }

/-! ### Timers as a multiset of keys -/

/-- The keys of the pending timers. -/
def keys (l : List (TimerEvent κ)) : List κ := l.map (·.key)

@[simp] theorem keys_nil : keys ([] : List (TimerEvent κ)) = [] := rfl

@[simp] theorem keys_cons (t : TimerEvent κ) (l : List (TimerEvent κ)) :
    keys (t :: l) = t.key :: keys l := rfl

@[simp] theorem length_keys (l : List (TimerEvent κ)) : (keys l).length = l.length :=
  List.length_map _ _

theorem keys_insertTimer (t : TimerEvent κ) (l : List (TimerEvent κ)) :
    (keys (insertTimer t l)).Perm (t.key :: keys l) := by
  induction l with
  | nil => exact List.Perm.refl _
  | cons u us ih =>
      unfold insertTimer
      split
      · exact List.Perm.refl _
      · exact (ih.cons u.key).trans (List.Perm.swap _ _ _)

theorem keys_delFirst [DecidableEq κ] (k : κ) (l : List (TimerEvent κ)) :
    keys (delFirst k l) = (keys l).erase k := by
  induction l with
  | nil => rfl
  | cons u us ih =>
      unfold delFirst
      split
      · simp_all
      · simp_all [List.erase_cons, Ne.symm]

theorem evmAddTimer_eq_some (evm : Evm κ) (now : Timespec) (millis : Nat) (key : κ)
    (h : evm.timerList.length < evm.timerListAllocated) :
    evmAddTimer evm now millis key =
      some { evm with timerList := insertTimer ⟨deadline now millis, key⟩ evm.timerList } := by
  simp [evmAddTimer, Nat.not_le.2 h]

/-! ### The deadline order -/

/-- The deadline order: `a` is not later than `b`. -/
def Timespec.le (a b : Timespec) : Prop :=
  a.tvSec < b.tvSec ∨ (a.tvSec = b.tvSec ∧ a.tvNsec ≤ b.tvNsec)

instance (a b : Timespec) : Decidable (a.le b) := inferInstanceAs (Decidable (_ ∨ _))

namespace Timespec

variable {a b c : Timespec}

theorem lt_iff : a.lt b = true ↔ a.tvSec < b.tvSec ∨ (a.tvSec = b.tvSec ∧ a.tvNsec < b.tvNsec) := by
  simp [Timespec.lt]

theorem le_of_lt (h : a.lt b = true) : a.le b := by
  rw [lt_iff] at h; unfold Timespec.le; omega

theorem le_of_not_lt (h : a.lt b = false) : b.le a := by
  have h' : ¬(a.tvSec < b.tvSec ∨ (a.tvSec = b.tvSec ∧ a.tvNsec < b.tvNsec)) := by
    rw [← lt_iff, h]; exact Bool.false_ne_true
  unfold Timespec.le; omega

theorem lt_of_lt_of_le (h₁ : a.lt b = true) (h₂ : b.le c) : a.lt c = true := by
  rw [lt_iff] at *; unfold Timespec.le at h₂; omega

/-- A reading of the monotonic clock in nanoseconds. -/
def toNs (a : Timespec) : Nat := a.tvSec * 1000000000 + a.tvNsec

theorem toNs_le_of_le (ha : a.tvNsec < 1000000000) (h : a.le b) : a.toNs ≤ b.toNs := by
  unfold Timespec.le at h; unfold toNs; omega

/-- **The deadline test of `evm_loop`.**  `timespec_delta_millis(&now, &deadline) <= 0` holds
exactly when the deadline is less than a millisecond after `now`: the division truncates the
nanoseconds, so a timer is due up to a millisecond before its deadline. -/
theorem deltaMillis_nonpos_iff : timespecDeltaMillis a b ≤ 0 ↔ b.toNs < a.toNs + 1000000 := by
  dsimp only [timespecDeltaMillis, toNs]
  split_ifs <;> omega

end Timespec

/-- A deadline computed from a valid reading of the clock is a valid `timespec`. -/
theorem deadline_tvNsec_lt (now : Timespec) (millis : Nat) (h : now.tvNsec < 1000000000) :
    (deadline now millis).tvNsec < 1000000000 := by
  dsimp only [deadline]
  split <;> dsimp only <;> omega

/-! ### Inserting and deleting -/

/-- The order `timer_list` is kept in. -/
def TimerEvent.NotLater (a b : TimerEvent κ) : Prop := a.timespec.le b.timespec

theorem mem_insertTimer (t u : TimerEvent κ) (l : List (TimerEvent κ)) :
    u ∈ insertTimer t l ↔ u = t ∨ u ∈ l := by
  induction l with
  | nil => simp [insertTimer]
  | cons v vs ih =>
      unfold insertTimer
      split
      · exact List.mem_cons
      · rw [List.mem_cons, ih, List.mem_cons]; tauto

@[simp] theorem length_insertTimer (t : TimerEvent κ) (l : List (TimerEvent κ)) :
    (insertTimer t l).length = l.length + 1 := by
  induction l with
  | nil => rfl
  | cons v vs ih => unfold insertTimer; split <;> simp [ih]

/-- **Where `evm_add_timer` inserts**: in a sorted list, after every timer due no later and
before every later one, the others kept in order. -/
theorem insertTimer_eq (t : TimerEvent κ) :
    ∀ {l : List (TimerEvent κ)}, l.Sorted TimerEvent.NotLater →
      ∃ l₁ l₂, l = l₁ ++ l₂ ∧ insertTimer t l = l₁ ++ t :: l₂ ∧
        (∀ u ∈ l₁, u.timespec.le t.timespec) ∧ ∀ u ∈ l₂, t.timespec.lt u.timespec = true
  | [], _ => ⟨[], [], rfl, rfl, by simp, by simp⟩
  | u :: us, hs => by
      rw [List.sorted_cons] at hs
      unfold insertTimer
      split
      · rename_i hlt
        refine ⟨[], u :: us, rfl, rfl, by simp, fun v hv => ?_⟩
        rcases List.mem_cons.1 hv with rfl | hv
        · exact hlt
        · exact Timespec.lt_of_lt_of_le hlt (hs.1 v hv)
      · rename_i hlt
        obtain ⟨l₁, l₂, rfl, he, h₁, h₂⟩ := insertTimer_eq t hs.2
        refine ⟨u :: l₁, l₂, rfl, by rw [he]; rfl, fun v hv => ?_, h₂⟩
        rcases List.mem_cons.1 hv with rfl | hv
        · exact Timespec.le_of_not_lt (Bool.eq_false_iff.2 hlt)
        · exact h₁ v hv

theorem sorted_insertTimer (t : TimerEvent κ) {l : List (TimerEvent κ)}
    (hs : l.Sorted TimerEvent.NotLater) : (insertTimer t l).Sorted TimerEvent.NotLater := by
  obtain ⟨l₁, l₂, rfl, he, h₁, h₂⟩ := insertTimer_eq t hs
  rw [he]
  rw [List.Sorted, List.pairwise_append] at hs ⊢
  refine ⟨hs.1, List.sorted_cons.2 ⟨fun u hu => Timespec.le_of_lt (h₂ u hu), hs.2.1⟩,
    fun a ha b hb => ?_⟩
  rcases List.mem_cons.1 hb with rfl | hb
  · exact h₁ a ha
  · exact hs.2.2 a ha b hb

theorem delFirst_of_not_mem [DecidableEq κ] (k : κ) :
    ∀ {l : List (TimerEvent κ)}, k ∉ keys l → delFirst k l = l
  | [], _ => rfl
  | u :: us, h => by
      rw [keys_cons, List.mem_cons, not_or] at h
      rw [delFirst, if_neg (Ne.symm h.1), delFirst_of_not_mem k h.2]

/-- **Which timer `evm_del_timer` deletes**: none when no timer has the key; otherwise the first
with the key, the others kept in order. -/
theorem delFirst_eq [DecidableEq κ] (k : κ) :
    ∀ l : List (TimerEvent κ), (k ∉ keys l ∧ delFirst k l = l) ∨
      ∃ l₁ u l₂, l = l₁ ++ u :: l₂ ∧ k ∉ keys l₁ ∧ u.key = k ∧ delFirst k l = l₁ ++ l₂
  | [] => .inl ⟨List.not_mem_nil _, rfl⟩
  | u :: us => by
      by_cases hu : u.key = k
      · exact .inr ⟨[], u, us, rfl, List.not_mem_nil _, hu, by rw [delFirst, if_pos hu]; rfl⟩
      · have hk : ∀ {l}, k ∉ keys l → k ∉ keys (u :: l) := fun hk => by
          rw [keys_cons, List.mem_cons, not_or]; exact ⟨Ne.symm hu, hk⟩
        rcases delFirst_eq k us with ⟨hn, he⟩ | ⟨l₁, v, l₂, rfl, hn, hv, he⟩
        · exact .inl ⟨hk hn, by rw [delFirst, if_neg hu, he]⟩
        · exact .inr ⟨u :: l₁, v, l₂, rfl, hk hn, hv, by rw [delFirst, if_neg hu, he]; rfl⟩

theorem delFirst_sublist [DecidableEq κ] (k : κ) (l : List (TimerEvent κ)) :
    List.Sublist (delFirst k l) l := by
  rcases delFirst_eq k l with ⟨-, he⟩ | ⟨l₁, u, l₂, rfl, -, -, he⟩
  · rw [he]
  · rw [he]; exact (List.Sublist.refl l₁).append (List.sublist_cons_self u l₂)

/-- Deleting a key held once leaves no timer with it. -/
theorem not_mem_keys_delFirst [DecidableEq κ] (k : κ) {l : List (TimerEvent κ)}
    (h : (keys l).Nodup) : k ∉ keys (delFirst k l) := by
  rw [keys_delFirst]; exact h.not_mem_erase

/-! ### Expiry and runs -/

/-- One pass of the expiry loop of `evm_loop` at clock reading `now`: when the first timer is
due, it is removed, and its key returned for its callback to be invoked. -/
def evmExpire (evm : Evm κ) (now : Timespec) : Option (κ × Evm κ) :=
  match evm.timerList with
  | [] => none
  | t :: rest =>
      if timespecDeltaMillis now t.timespec ≤ 0 then some (t.key, { evm with timerList := rest })
      else none

/-- **Which timer expires**: the first one, when the deadline test passes for it, removed with
the others left in order. -/
theorem evmExpire_eq {evm evm' : Evm κ} {now : Timespec} {k : κ}
    (h : evmExpire evm now = some (k, evm')) :
    ∃ t, evm.timerList = t :: evm'.timerList ∧ t.key = k ∧
      timespecDeltaMillis now t.timespec ≤ 0 ∧
      evm'.timerListAllocated = evm.timerListAllocated := by
  unfold evmExpire at h
  split at h
  · cases h
  · rename_i t rest he
    split at h
    · rename_i hd; cases h; exact ⟨t, he, rfl, hd, rfl⟩
    · cases h

/-- **When nothing expires**: no timer is pending, or the deadline test fails for the first. -/
theorem evmExpire_eq_none {evm : Evm κ} {now : Timespec} :
    evmExpire evm now = none ↔
      ∀ t ∈ evm.timerList.head?, 0 < timespecDeltaMillis now t.timespec := by
  unfold evmExpire
  cases evm.timerList with
  | nil => simp
  | cons t rest =>
      by_cases h : timespecDeltaMillis now t.timespec ≤ 0
      · simp [h, not_lt.mpr h]
      · simp [h, not_le.mp h]

/-- An operation on the timers of an event manager: `evm_add_timer` at clock reading `now`,
`evm_del_timer`, or one pass of the expiry loop at clock reading `now`. -/
inductive EvmOp (κ : Type)
  | add (now : Timespec) (millis : Nat) (key : κ)
  | del (key : κ)
  | expire (now : Timespec)
  deriving Repr

/-- The clock reading an `evm_add_timer` starts from is a valid `timespec`. -/
def EvmOp.clockValid : EvmOp κ → Bool
  | .add now _ _ => decide (now.tvNsec < 1000000000)
  | _ => true

/-- The timers after a sequence of operations (an `evm_add_timer` on a full list is dropped),
and the keys whose callbacks the expiry loop invoked, in order. -/
def evmRun [DecidableEq κ] : Evm κ → List (EvmOp κ) → Evm κ × List κ
  | evm, [] => (evm, [])
  | evm, .add now millis key :: ops => evmRun ((evmAddTimer evm now millis key).getD evm) ops
  | evm, .del key :: ops => evmRun (evmDelTimer evm key) ops
  | evm, .expire now :: ops =>
      match evmExpire evm now with
      | none => evmRun evm ops
      | some (k, evm') => ((evmRun evm' ops).1, k :: (evmRun evm' ops).2)

/-- **A run in two parts**: the second part runs from the timers the first left, and its
callbacks are invoked after the first part's. -/
theorem evmRun_append [DecidableEq κ] :
    ∀ (evm : Evm κ) (ops ops' : List (EvmOp κ)), evmRun evm (ops ++ ops') =
      ((evmRun (evmRun evm ops).1 ops').1, (evmRun evm ops).2 ++ (evmRun (evmRun evm ops).1 ops').2)
  | evm, [], ops' => by simp [evmRun]
  | _, .add _ _ _ :: ops, ops' => evmRun_append _ ops ops'
  | _, .del _ :: ops, ops' => evmRun_append _ ops ops'
  | evm, .expire now :: ops, ops' => by
      simp only [List.cons_append, evmRun]
      rcases evmExpire evm now with _ | ⟨k, evm'⟩
      · exact evmRun_append evm ops ops'
      · simp only [List.append_eq, evmRun_append evm' ops ops', List.cons_append]

/-- **An expiry pass at the end of a run** fires what `evmExpire` fires on the timers the run
left: when one expires, it is removed and its callback is invoked after all the run's others. -/
theorem evmRun_append_expire [DecidableEq κ] (evm : Evm κ) (ops : List (EvmOp κ))
    (now : Timespec) :
    evmRun evm (ops ++ [.expire now]) =
      match evmExpire (evmRun evm ops).1 now with
      | none => evmRun evm ops
      | some (k, evm') => (evm', (evmRun evm ops).2 ++ [k]) := by
  rw [evmRun_append]
  simp only [evmRun]
  rcases evmExpire (evmRun evm ops).1 now with _ | ⟨k, evm'⟩ <;> simp

/-! ### The representation invariant -/

/-- What the timer list of an event manager created with room for `C` timers satisfies, and what
each operation does to it: sorted by deadline, with valid deadlines and at most `C` timers; below
capacity, a timer is set after the timers due no later and before the later ones; a deletion
removes the first timer with the key; at clock reading `now`, an expiry pass removes and
fires the first timer, due no later than the others and less than a millisecond after `now`, and
fires nothing exactly when every pending timer is a millisecond or more after `now`. -/
structure EvmTimers [DecidableEq κ] (C : Nat) (evm : Evm κ) : Prop where
  allocated : evm.timerListAllocated = C
  sorted : evm.timerList.Sorted TimerEvent.NotLater
  nsec : ∀ t ∈ evm.timerList, t.timespec.tvNsec < 1000000000
  count : evm.timerList.length ≤ C
  add : ∀ now millis key, evm.timerList.length < C →
    ∃ l₁ l₂, evm.timerList = l₁ ++ l₂ ∧
      (evmAddTimer evm now millis key).map (·.timerList) =
        some (l₁ ++ ⟨deadline now millis, key⟩ :: l₂) ∧
      (∀ u ∈ l₁, u.timespec.le (deadline now millis)) ∧
      ∀ u ∈ l₂, (deadline now millis).lt u.timespec = true
  del : ∀ key, (key ∉ keys evm.timerList ∧ (evmDelTimer evm key).timerList = evm.timerList) ∨
    ∃ l₁ u l₂, evm.timerList = l₁ ++ u :: l₂ ∧ key ∉ keys l₁ ∧ u.key = key ∧
      (evmDelTimer evm key).timerList = l₁ ++ l₂
  expire : ∀ now k evm', evmExpire evm now = some (k, evm') →
    ∃ t, evm.timerList = t :: evm'.timerList ∧ t.key = k ∧
      t.timespec.toNs < now.toNs + 1000000 ∧ ∀ u ∈ evm'.timerList, t.timespec.le u.timespec
  idle : ∀ now,
    evmExpire evm now = none ↔ ∀ t ∈ evm.timerList, now.toNs + 1000000 ≤ t.timespec.toNs

namespace EvmTimers

variable [DecidableEq κ] {C : Nat}

/-- The invariant follows from its first four fields, which are what each operation keeps. -/
theorem of_valid {evm : Evm κ} (ha : evm.timerListAllocated = C)
    (hs : evm.timerList.Sorted TimerEvent.NotLater)
    (hn : ∀ t ∈ evm.timerList, t.timespec.tvNsec < 1000000000)
    (hc : evm.timerList.length ≤ C) : EvmTimers C evm where
  allocated := ha
  sorted := hs
  nsec := hn
  count := hc
  add now millis key hlt := by
    obtain ⟨l₁, l₂, he, hi, h₁, h₂⟩ := insertTimer_eq ⟨deadline now millis, key⟩ hs
    exact ⟨l₁, l₂, he, by rw [evmAddTimer_eq_some _ _ _ _ (ha ▸ hlt), Option.map_some', hi], h₁,
      h₂⟩
  del key := delFirst_eq key evm.timerList
  expire now k evm' h := by
    obtain ⟨t, he, hk, hd, -⟩ := evmExpire_eq h
    rw [he, List.sorted_cons] at hs
    exact ⟨t, he, hk, Timespec.deltaMillis_nonpos_iff.1 hd, hs.1⟩
  idle now := by
    rw [evmExpire_eq_none]
    cases hl : evm.timerList with
    | nil => simp
    | cons t rest =>
        have ht := hn t (by rw [hl]; exact List.mem_cons_self _ _)
        rw [hl, List.sorted_cons] at hs
        simp only [List.head?_cons, Option.mem_def, Option.some.injEq, forall_eq', List.mem_cons,
          forall_eq_or_imp]
        rw [← not_le, Timespec.deltaMillis_nonpos_iff, not_lt]
        exact ⟨fun h => ⟨h, fun u hu => h.trans (Timespec.toNs_le_of_le ht (hs.1 u hu))⟩,
          And.left⟩

theorem evmCreate (C : Nat) : EvmTimers C (evmCreate C : Evm κ) :=
  of_valid rfl List.sorted_nil (fun _ h => absurd h (List.not_mem_nil _)) (Nat.zero_le C)

theorem addTimer {evm : Evm κ} (h : EvmTimers C evm) (now : Timespec) (millis : Nat) (key : κ)
    (hnow : now.tvNsec < 1000000000) :
    EvmTimers C ((evmAddTimer evm now millis key).getD evm) := by
  unfold evmAddTimer
  split
  · exact h
  · rename_i hlt
    refine of_valid h.allocated (sorted_insertTimer _ h.sorted) (fun t ht => ?_) ?_
    · rcases (mem_insertTimer _ _ _).1 ht with rfl | ht
      · exact deadline_tvNsec_lt now millis hnow
      · exact h.nsec t ht
    · show (insertTimer _ evm.timerList).length ≤ C
      rw [length_insertTimer, ← h.allocated]; omega

theorem delTimer {evm : Evm κ} (h : EvmTimers C evm) (key : κ) :
    EvmTimers C (evmDelTimer evm key) :=
  of_valid h.allocated (h.sorted.sublist (delFirst_sublist key _))
    (fun t ht => h.nsec t ((delFirst_sublist key _).subset ht))
    ((delFirst_sublist key _).length_le.trans h.count)

theorem evmExpire {evm evm' : Evm κ} (h : EvmTimers C evm) {now : Timespec} {k : κ}
    (he : evmExpire evm now = some (k, evm')) : EvmTimers C evm' := by
  obtain ⟨t, hl, -, -, ha⟩ := evmExpire_eq he
  have hs := h.sorted
  have hc := h.count
  rw [hl] at hs hc
  exact of_valid (ha.trans h.allocated) (List.sorted_cons.1 hs).2
    (fun u hu => h.nsec u (hl ▸ List.mem_cons_of_mem t hu)) (Nat.le_of_succ_le hc)

/-- **Every run keeps the invariant**, when its `evm_add_timer`s read a valid clock. -/
theorem evmRun {evm : Evm κ} (h : EvmTimers C evm) :
    ∀ ops : List (EvmOp κ), (∀ op ∈ ops, op.clockValid = true) →
      EvmTimers C (McastBridge.evmRun evm ops).1
  | [], _ => h
  | .add now millis key :: ops, hv => by
      have hnow : now.tvNsec < 1000000000 := by
        simpa [EvmOp.clockValid] using hv _ (List.mem_cons_self _ _)
      exact (h.addTimer now millis key hnow).evmRun ops
        fun op hop => hv op (List.mem_cons_of_mem _ hop)
  | .del key :: ops, hv =>
      (h.delTimer key).evmRun ops fun op hop => hv op (List.mem_cons_of_mem _ hop)
  | .expire now :: ops, hv => by
      have hv' := fun op hop => hv op (List.mem_cons_of_mem _ hop)
      simp only [McastBridge.evmRun]
      split
      · exact h.evmRun ops hv'
      · rename_i k evm' he
        exact (h.evmExpire he).evmRun ops hv'

end EvmTimers

/-! ### Timers by the call that set them

The source tells timers apart only by their `(callback, closure)` pair, so two timers with one key
are told apart only by their place in the list.  To say "this timer was invoked" the run below
tags each timer with the position of the `evm_add_timer` that set it, and `evm_del_timer`
removes the first timer with the key, whatever its tag; forgetting the tags gives `evmRun`
back. -/

/-- A timer with its tag forgotten. -/
def TimerEvent.untag (t : TimerEvent (κ × Nat)) : TimerEvent κ := ⟨t.timespec, t.key.1⟩

/-- The timers with their tags forgotten. -/
def Evm.untag (evm : Evm (κ × Nat)) : Evm κ :=
  ⟨evm.timerList.map TimerEvent.untag, evm.timerListAllocated⟩

/-- `evmRun` on tagged timers, the operation at position `n` tagging the timer it sets with `n`:
the final timers, the timers invoked and the timers deleted. -/
def evmRunTagged [DecidableEq κ] :
    Nat → Evm (κ × Nat) → List (EvmOp κ) → Evm (κ × Nat) × List (κ × Nat) × List (κ × Nat)
  | _, evm, [] => (evm, [], [])
  | n, evm, .add now millis key :: ops =>
      evmRunTagged (n + 1) ((evmAddTimer evm now millis (key, n)).getD evm) ops
  | n, evm, .del key :: ops =>
      match evm.timerList.find? (fun u => decide (u.key.1 = key)) with
      | none => evmRunTagged (n + 1) evm ops
      | some u =>
          ((evmRunTagged (n + 1) (evmDelTimer evm u.key) ops).1,
            (evmRunTagged (n + 1) (evmDelTimer evm u.key) ops).2.1,
            u.key :: (evmRunTagged (n + 1) (evmDelTimer evm u.key) ops).2.2)
  | n, evm, .expire now :: ops =>
      match evmExpire evm now with
      | none => evmRunTagged (n + 1) evm ops
      | some (k, evm') =>
          ((evmRunTagged (n + 1) evm' ops).1, k :: (evmRunTagged (n + 1) evm' ops).2.1,
            (evmRunTagged (n + 1) evm' ops).2.2)

/-- Inserting does not look at keys. -/
theorem map_untag_insertTimer (t : TimerEvent (κ × Nat)) (l : List (TimerEvent (κ × Nat))) :
    (insertTimer t l).map TimerEvent.untag = insertTimer t.untag (l.map TimerEvent.untag) := by
  induction l with
  | nil => rfl
  | cons u us ih =>
      by_cases h : t.timespec.lt u.timespec <;> simp [insertTimer, h, ih, TimerEvent.untag]

/-- Deleting the first timer with key `k` is deleting that timer by its tag. -/
theorem map_untag_delFirst [DecidableEq κ] (k : κ) {u : TimerEvent (κ × Nat)} :
    ∀ {l : List (TimerEvent (κ × Nat))}, l.find? (fun v => decide (v.key.1 = k)) = some u →
      (delFirst u.key l).map TimerEvent.untag = delFirst k (l.map TimerEvent.untag)
  | [], h => by cases h
  | v :: vs, h => by
      rw [List.find?_cons] at h
      by_cases hv : v.key.1 = k
      · rw [decide_eq_true hv] at h
        cases h
        simp [delFirst, TimerEvent.untag, hv]
      · rw [decide_eq_false hv] at h
        have hu : u.key.1 = k := by simpa using List.find?_some h
        have hne : v.key ≠ u.key := fun e => hv (e ▸ hu)
        rw [delFirst, if_neg hne, List.map_cons, List.map_cons, delFirst,
          if_neg (show (TimerEvent.untag v).key ≠ k from hv), map_untag_delFirst k h]

theorem untag_evmAddTimer (evm : Evm (κ × Nat)) (now : Timespec) (millis : Nat) (k : κ)
    (n : Nat) : ((evmAddTimer evm now millis (k, n)).getD evm).untag =
      (evmAddTimer evm.untag now millis k).getD evm.untag := by
  unfold evmAddTimer
  simp only [Evm.untag, List.length_map]
  split
  · rfl
  · simp only [Option.getD_some, map_untag_insertTimer]; rfl

theorem evmExpire_untag (evm : Evm (κ × Nat)) (now : Timespec) :
    evmExpire evm.untag now = (evmExpire evm now).map fun r => (r.1.1, r.2.untag) := by
  unfold evmExpire Evm.untag
  cases evm.timerList with
  | nil => rfl
  | cons t rest =>
      by_cases h : timespecDeltaMillis now t.timespec ≤ 0 <;> simp [h, TimerEvent.untag]

/-- **The tagged run is the run**: forgetting the tags gives the timers and the invoked keys of
`evmRun`. -/
theorem evmRunTagged_untag [DecidableEq κ] :
    ∀ (n : Nat) (evm : Evm (κ × Nat)) (ops : List (EvmOp κ)),
      (evmRunTagged n evm ops).1.untag = (evmRun evm.untag ops).1 ∧
        (evmRunTagged n evm ops).2.1.map Prod.fst = (evmRun evm.untag ops).2
  | _, _, [] => ⟨rfl, rfl⟩
  | n, evm, .add now millis key :: ops => by
      simp only [evmRunTagged, evmRun, ← untag_evmAddTimer evm now millis key n]
      exact evmRunTagged_untag _ _ ops
  | n, evm, .del key :: ops => by
      simp only [evmRunTagged, evmRun]
      split
      · rename_i hf
        have hk : key ∉ keys (evm.untag.timerList) := by
          simp only [Evm.untag, keys, List.map_map, List.mem_map, not_exists, not_and]
          exact fun u hu => by simpa using List.find?_eq_none.1 hf u hu
        rw [show evmDelTimer evm.untag key = evm.untag from
          congrArg (fun l => (⟨l, _⟩ : Evm κ)) (delFirst_of_not_mem key hk)]
        exact evmRunTagged_untag _ _ ops
      · rename_i u hf
        rw [show evmDelTimer evm.untag key = (evmDelTimer evm u.key).untag from
          congrArg (fun l => (⟨l, _⟩ : Evm κ)) (map_untag_delFirst key hf).symm]
        exact evmRunTagged_untag _ _ ops
  | n, evm, .expire now :: ops => by
      simp only [evmRunTagged, evmRun, evmExpire_untag]
      split
      · rename_i he
        rw [he]; exact evmRunTagged_untag _ _ ops
      · rename_i k evm' he
        rw [he, Option.map_some']
        obtain ⟨h₁, h₂⟩ := evmRunTagged_untag (n + 1) evm' ops
        exact ⟨h₁, by rw [List.map_cons, h₂]⟩

/-- The pending timers carry distinct tags, all below `n`. -/
def TagsBelow (n : Nat) (evm : Evm (κ × Nat)) : Prop :=
  (keys evm.timerList).Nodup ∧ ∀ x ∈ keys evm.timerList, x.2 < n

/-- A timer the rest of a run touches after one step, pending after that step or set later, was
pending before the step or set from it on. -/
theorem mem_or_le_of_step {A B : List (κ × Nat)} {n : Nat} {x : κ × Nat}
    (hAB : ∀ y ∈ A, y ∈ B ∨ n ≤ y.2) (h : x ∈ A ∨ n + 1 ≤ x.2) : x ∈ B ∨ n ≤ x.2 :=
  h.elim (hAB x) fun h => .inr (Nat.le_of_succ_le h)

/-- A timer that a step removed, tagged below `n`, is not touched by the rest of the run. -/
theorem not_mem_of_removed {L A : List (κ × Nat)} {n : Nat} {k : κ × Nat}
    (h : ∀ x ∈ L, x ∈ A ∨ n + 1 ≤ x.2) (hk : k ∉ A) (hlt : k.2 < n) : k ∉ L :=
  fun hm => (h k hm).elim hk fun h' => absurd hlt (by omega)

/-- **No timer is invoked twice, or invoked and deleted**: over a run from timers tagged below
`n`, the invoked and the deleted timers are distinct, each pending at the start or set during
the run. -/
theorem nodup_evmRunTagged [DecidableEq κ] :
    ∀ (n : Nat) (evm : Evm (κ × Nat)) (ops : List (EvmOp κ)), TagsBelow n evm →
      ((evmRunTagged n evm ops).2.1 ++ (evmRunTagged n evm ops).2.2).Nodup ∧
        ∀ x ∈ (evmRunTagged n evm ops).2.1 ++ (evmRunTagged n evm ops).2.2,
          x ∈ keys evm.timerList ∨ n ≤ x.2
  | _, _, [], _ => ⟨List.nodup_nil, fun _ h => absurd h (List.not_mem_nil _)⟩
  | n, evm, .add now millis key :: ops, ⟨hnd, hlt⟩ => by
      simp only [evmRunTagged]
      have hnew : (key, n) ∉ keys evm.timerList := fun h => Nat.lt_irrefl n (hlt _ h)
      have hkeys : ∀ x ∈ keys ((evmAddTimer evm now millis (key, n)).getD evm).timerList,
          x ∈ keys evm.timerList ∨ x = (key, n) := fun x hx => by
        unfold evmAddTimer at hx
        split at hx
        · exact .inl hx
        · rcases List.mem_cons.1 ((keys_insertTimer _ _).subset hx) with rfl | hx
          · exact .inr rfl
          · exact .inl hx
      have hnd' : (keys ((evmAddTimer evm now millis (key, n)).getD evm).timerList).Nodup := by
        unfold evmAddTimer
        split
        · exact hnd
        · exact (keys_insertTimer _ _).nodup_iff.2 (List.nodup_cons.2 ⟨hnew, hnd⟩)
      obtain ⟨h₁, h₂⟩ := nodup_evmRunTagged (n + 1) _ ops ⟨hnd', fun x hx => by
        rcases hkeys x hx with hx | rfl
        · exact Nat.lt_succ_of_lt (hlt x hx)
        · exact Nat.lt_succ_self n⟩
      exact ⟨h₁, fun x hx => mem_or_le_of_step (fun y hy => (hkeys y hy).imp_right fun h => by
        rw [h]) (h₂ x hx)⟩
  | n, evm, .del key :: ops, ⟨hnd, hlt⟩ => by
      simp only [evmRunTagged]
      split
      · obtain ⟨h₁, h₂⟩ := nodup_evmRunTagged (n + 1) evm ops
          ⟨hnd, fun x hx => Nat.lt_succ_of_lt (hlt x hx)⟩
        exact ⟨h₁, fun x hx => (h₂ x hx).imp_right Nat.le_of_succ_le⟩
      · rename_i u hf
        have hu : u.key ∈ keys evm.timerList := List.mem_map_of_mem _ (List.mem_of_find?_eq_some hf)
        have hsub : List.Sublist (keys (evmDelTimer evm u.key).timerList) (keys evm.timerList) :=
          (delFirst_sublist _ _).map _
        obtain ⟨h₁, h₂⟩ := nodup_evmRunTagged (n + 1) (evmDelTimer evm u.key) ops
          ⟨hnd.sublist hsub, fun x hx => Nat.lt_succ_of_lt (hlt x (hsub.subset hx))⟩
        have hnot := not_mem_of_removed h₂ (not_mem_keys_delFirst u.key hnd) (hlt _ hu)
        refine ⟨List.nodup_middle.2 (List.nodup_cons.2 ⟨hnot, h₁⟩), fun x hx => ?_⟩
        rcases List.mem_cons.1 (List.perm_middle.subset hx) with rfl | hx
        · exact .inl hu
        · exact mem_or_le_of_step (fun y hy => .inl (hsub.subset hy)) (h₂ x hx)
  | n, evm, .expire now :: ops, ⟨hnd, hlt⟩ => by
      simp only [evmRunTagged]
      split
      · obtain ⟨h₁, h₂⟩ := nodup_evmRunTagged (n + 1) evm ops
          ⟨hnd, fun x hx => Nat.lt_succ_of_lt (hlt x hx)⟩
        exact ⟨h₁, fun x hx => (h₂ x hx).imp_right Nat.le_of_succ_le⟩
      · rename_i k evm' he
        obtain ⟨t, hl, hk, -⟩ := evmExpire_eq he
        rw [hl, keys_cons, hk] at hnd hlt
        obtain ⟨hkn, hnd'⟩ := List.nodup_cons.1 hnd
        obtain ⟨h₁, h₂⟩ := nodup_evmRunTagged (n + 1) evm' ops
          ⟨hnd', fun x hx => Nat.lt_succ_of_lt (hlt x (List.mem_cons_of_mem _ hx))⟩
        have hnot := not_mem_of_removed h₂ hkn (hlt _ (List.mem_cons_self _ _))
        refine ⟨List.nodup_cons.2 ⟨hnot, h₁⟩, fun x hx => ?_⟩
        rw [hl, keys_cons, hk]
        rcases List.mem_cons.1 hx with rfl | hx
        · exact .inl (List.mem_cons_self _ _)
        · exact mem_or_le_of_step (fun y hy => .inl (List.mem_cons_of_mem _ hy)) (h₂ x hx)

/-! ### Runs from creation -/

/-- **The timers of an event manager over any run.**  From `evm_create` with room for `C`
timers, after any sequence of `evm_add_timer`s (from valid clock readings), `evm_del_timer`s
and expiry passes, the timer list satisfies `McastBridge.EvmTimers`; an expiry pass that follows
removes the first timer and invokes its callback, after all the run's others, exactly when the
deadline test passes (less than a millisecond before its deadline), and invokes nothing
otherwise; and, each timer named by the call that set it, the run invoked the timers it invoked
in the order of the keys it reports, none of them twice and none that was deleted. -/
theorem evm_timers [DecidableEq κ] (C : Nat) (ops : List (EvmOp κ))
    (hclock : ∀ op ∈ ops, op.clockValid = true) :
    EvmTimers C (evmRun (evmCreate C) ops).1 ∧
      (∀ now, evmRun (evmCreate C) (ops ++ [.expire now]) =
        match evmExpire (evmRun (evmCreate C) ops).1 now with
        | none => evmRun (evmCreate C) ops
        | some (k, evm') => (evm', (evmRun (evmCreate C) ops).2 ++ [k])) ∧
      (evmRunTagged 0 (evmCreate C) ops).1.untag = (evmRun (evmCreate C) ops).1 ∧
      (evmRunTagged 0 (evmCreate C) ops).2.1.map Prod.fst = (evmRun (evmCreate C) ops).2 ∧
      (evmRunTagged 0 (evmCreate C) ops).2.1.Nodup ∧
      (evmRunTagged 0 (evmCreate C) ops).2.1.Disjoint (evmRunTagged 0 (evmCreate C) ops).2.2 := by
  obtain ⟨hu₁, hu₂⟩ := evmRunTagged_untag 0 (evmCreate C) ops
  obtain ⟨hnd, -⟩ := nodup_evmRunTagged 0 (evmCreate C) ops
    ⟨List.nodup_nil, fun _ h => absurd h (List.not_mem_nil _)⟩
  obtain ⟨hi, -, hd⟩ := List.nodup_append.1 hnd
  exact ⟨(EvmTimers.evmCreate C).evmRun ops hclock, evmRun_append_expire _ ops, hu₁, hu₂, hi, hd⟩

/-- A run with room for two timers: key `0` set for 100 ms and for 50 ms, key `1` dropped on the
full list, the first timer of key `0` (the 50 ms one) deleted, and the other expiring at 1 s. -/
def twoKeysRun : List (EvmOp Nat) :=
  [.add ⟨0, 0⟩ 100 0, .add ⟨0, 0⟩ 50 0, .add ⟨0, 0⟩ 10 1, .del 0, .expire ⟨1, 0⟩]

theorem evm_timers_two_keys :
    (∀ op ∈ twoKeysRun, op.clockValid = true) ∧
    EvmTimers 2 (evmRun (evmCreate 2) twoKeysRun).1 ∧
    (∀ now, evmRun (evmCreate 2) (twoKeysRun ++ [.expire now]) =
      match evmExpire (evmRun (evmCreate 2) twoKeysRun).1 now with
      | none => evmRun (evmCreate 2) twoKeysRun
      | some (k, evm') => (evm', (evmRun (evmCreate 2) twoKeysRun).2 ++ [k])) ∧
    (evmRunTagged 0 (evmCreate 2) twoKeysRun).1.untag = (evmRun (evmCreate 2) twoKeysRun).1 ∧
    (evmRunTagged 0 (evmCreate 2) twoKeysRun).2.1.map Prod.fst =
      (evmRun (evmCreate 2) twoKeysRun).2 ∧
    (evmRunTagged 0 (evmCreate 2) twoKeysRun).2.1.Nodup ∧
    (evmRunTagged 0 (evmCreate 2) twoKeysRun).2.1.Disjoint
      (evmRunTagged 0 (evmCreate 2) twoKeysRun).2.2 :=
  ⟨by decide, evm_timers 2 twoKeysRun (by decide)⟩

example : (evmRunTagged 0 (evmCreate 2) twoKeysRun).2 = ([(0, 0)], [(0, 1)]) := by decide

end McastBridge
