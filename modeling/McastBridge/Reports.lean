import McastBridge.Igmp
/-
**The group records of a v3 (v2) report.**

`handle_igmp_v3_report` and `handle_mld_v2_report` walk the group records of a report in order.
A record that does not fit in what is left of the message ends the report.  A record that fits
is consumed, and its group is looked up (`*_interface_find_group`) before its type is read: a
record whose group the interface cannot hold, a link-scope group or one for which the table has
no slot, is skipped whatever its type.  For the other records the type decides.  MODE_IS_EXCLUDE,
CHANGE_TO_EXCLUDE and ALLOW_NEW_SOURCES join, and so do MODE_IS_INCLUDE and CHANGE_TO_INCLUDE
with sources; those two without sources leave, and so does BLOCK_OLD_SOURCES without sources.
A BLOCK_OLD_SOURCES record with sources, and a record of an unknown type, end the report, the
slot the lookup may have taken kept.

Main definitions:

* `McastBridge.recordLen` — the length of the record at the head of the message (`record_len`).

Main results:

* `McastBridge.groupRecords_overrun`, `McastBridge.groupRecords_skip`,
  `McastBridge.groupRecords_join`, `McastBridge.groupRecords_leave`,
  `McastBridge.groupRecords_stop` — the loop's step, one lemma per case;
* `McastBridge.igmp_v3_report_records` — two IGMPv3 reports on which the loop does not do what
  a reading of the records by type alone, in order, would.
-/

set_option relaxedAutoImplicit false
set_option autoImplicit false

namespace McastBridge

/-- `record_len`: the header of the record at the head of `buf`, its sources and its auxiliary
data. -/
def recordLen (P : Proto) (buf : List UInt8) : Nat :=
  P.recordHeaderLen + rd16 buf 2 * P.addrLen + rd8 buf 1 * 4

section Step

variable (P : Proto) (leave : Sys → Nat → Nat → Sys) (s : Sys) (i n : Nat) (buf : List UInt8)

/-- A record that does not fit ends the report. -/
theorem groupRecords_overrun (h : buf.length < P.recordHeaderLen ∨ buf.length < recordLen P buf) :
    groupRecords P leave s i (n + 1) buf = s := by
  rw [groupRecords]
  by_cases hh : buf.length < P.recordHeaderLen
  · rw [if_pos hh]
  · rw [if_neg hh]
    exact if_pos (h.resolve_left hh)

variable {P leave s i n buf} (hh : P.recordHeaderLen ≤ buf.length)
  (hr : recordLen P buf ≤ buf.length)
include hh hr

/-- A record whose group the interface cannot hold is skipped, whatever its type. -/
theorem groupRecords_skip
    (hf : interfaceFindGroup P.isLinkScope (s.iface i) (rdAddr buf 4 P.addrLen) = none) :
    groupRecords P leave s i (n + 1) buf =
      groupRecords P leave s i n (buf.drop (recordLen P buf)) := by
  rw [groupRecords]
  rw [if_neg (Nat.not_lt.2 hh)]
  exact (if_neg (Nat.not_lt.2 hr)).trans (by rw [hf]; rfl)

variable {ifc : Interface} {g : Nat}
  (hf : interfaceFindGroup P.isLinkScope (s.iface i) (rdAddr buf 4 P.addrLen) = some (ifc, g))
include hf

/-- The group-record loop at a record whose group the interface holds, by the record's type. -/
theorem groupRecords_found :
    groupRecords P leave s i (n + 1) buf =
      match rd8 buf 0 with
      | 1 | 3 => groupRecords P leave (if rd16 buf 2 ≠ 0 then joinCommon P (s.setIface i ifc) i g
          else leave (s.setIface i ifc) i g) i n (buf.drop (recordLen P buf))
      | 2 | 4 | 5 => groupRecords P leave (joinCommon P (s.setIface i ifc) i g) i n
          (buf.drop (recordLen P buf))
      | 6 => if rd16 buf 2 ≠ 0 then s.setIface i ifc
          else groupRecords P leave (leave (s.setIface i ifc) i g) i n (buf.drop (recordLen P buf))
      | _ => s.setIface i ifc := by
  rw [groupRecords]
  rw [if_neg (Nat.not_lt.2 hh)]
  exact (if_neg (Nat.not_lt.2 hr)).trans (by rw [hf]; rfl)

/-- MODE_IS_EXCLUDE, CHANGE_TO_EXCLUDE, ALLOW_NEW_SOURCES, and MODE_IS_INCLUDE or
CHANGE_TO_INCLUDE with sources, join. -/
theorem groupRecords_join
    (ht : rd8 buf 0 = 2 ∨ rd8 buf 0 = 4 ∨ rd8 buf 0 = 5 ∨
      ((rd8 buf 0 = 1 ∨ rd8 buf 0 = 3) ∧ rd16 buf 2 ≠ 0)) :
    groupRecords P leave s i (n + 1) buf =
      groupRecords P leave (joinCommon P (s.setIface i ifc) i g) i n
        (buf.drop (recordLen P buf)) := by
  rw [groupRecords_found hh hr hf]
  rcases ht with h | h | h | ⟨h | h, hs⟩ <;> rw [h] <;> simp [hs]

/-- MODE_IS_INCLUDE, CHANGE_TO_INCLUDE and BLOCK_OLD_SOURCES without sources leave. -/
theorem groupRecords_leave (ht : rd8 buf 0 = 1 ∨ rd8 buf 0 = 3 ∨ rd8 buf 0 = 6)
    (hs : rd16 buf 2 = 0) :
    groupRecords P leave s i (n + 1) buf =
      groupRecords P leave (leave (s.setIface i ifc) i g) i n (buf.drop (recordLen P buf)) := by
  rw [groupRecords_found hh hr hf]
  rcases ht with h | h | h <;> rw [h] <;> simp [hs]

/-- BLOCK_OLD_SOURCES with sources, and a record of an unknown type, end the report; the slot
the lookup took stays. -/
theorem groupRecords_stop
    (ht : (rd8 buf 0 = 6 ∧ rd16 buf 2 ≠ 0) ∨ rd8 buf 0 = 0 ∨ 6 < rd8 buf 0) :
    groupRecords P leave s i (n + 1) buf = s.setIface i ifc := by
  rw [groupRecords_found hh hr hf]
  rcases ht with ⟨h, hs⟩ | h | h
  · rw [h]; simp [hs]
  · rw [h]
  · split <;> first | omega | rfl

end Step

/-! ### Two reports -/

/-- An IGMPv3 report of two records: one of the unknown type 9 for the link-scope group
224.0.0.22, then MODE_IS_EXCLUDE for 239.0.75.0. -/
def igmpReportUnknownFirst : List UInt8 :=
  [0x22, 0, 0, 0, 0, 0, 0, 2,
   9, 0, 0, 0, 224, 0, 0, 22,
   2, 0, 0, 0, 0xef, 0, 0x4b, 0]

/-- An IGMPv3 report of two records: BLOCK_OLD_SOURCES for 239.0.75.0 with the source
10.0.0.5, then MODE_IS_EXCLUDE for 239.0.75.0. -/
def igmpReportBlockFirst : List UInt8 :=
  [0x22, 0, 0, 0, 0, 0, 0, 2,
   6, 0, 0, 1, 0xef, 0, 0x4b, 0, 10, 0, 0, 5,
   2, 0, 0, 0, 0xef, 0, 0x4b, 0]

theorem igmp_v3_report_records :
    ((igmpReceive (igmpStart .never 100 igmpRunBridges 0 fun _ => 5) 0 0x0a000005
      igmpReportUnknownFirst 0).group 0 0).active = true ∧
    ((igmpReceive (igmpStart .never 100 igmpRunBridges 0 fun _ => 5) 0 0x0a000005
      igmpReportBlockFirst 0).group 0 0).active = false := by
  decide

end McastBridge
