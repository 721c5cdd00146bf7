import McastBridge.Igmp
import McastBridge.Mld
/-
**The bytes `igmp_receive` and `mld_receive` read of a captured frame.**

`McastBridge.igmpReceive` and `McastBridge.mldReceive` start at a message that passed the frame
checks.  This module adds the level below them: the frame as `pcap_next` captured it, the checks of
`igmp_receive` (Ethernet type, IPv4 header length and checksum, total length, protocol, Router
Alert option, IGMP checksum) and of `mld_receive` (Ethernet type, next header, payload length,
Hop-by-Hop header with its Router Alert option, ICMPv6 checksum over the pseudo-header), and the
fields the handlers read.  Each function returns, beside its result, the offsets of the frame it
read, in the order the code reads them; the state after a frame is the one the message-level model
gives for the message that passed.

The reads of a handler depend on the state: a query is not read further when the interface stays
the querier, and the group-record loop stops at a record whose type ends the report.
`McastBridge.groupRecordsAt` therefore walks the records in the frame with the state, and computes
the same state as `McastBridge.groupRecords` on the message (`McastBridge.groupRecordsAt_fst`).

Lengths are `unsigned int`s: `packet_len` after `packet_len -= ip_header_len` is taken modulo
`2 ^ 32`; `inet_csum` and `inet6_csum` take their length as an `int`, so that a length of `2 ^ 31`
or more adds no byte to the sum.  The handlers' later uses of `ip_src` read the bytes of the IP
header that the comparison with the interface's address reads first, and the log lines of
`debug_level` 3 are not modelled.  Every function here is structurally recursive, the record loop on
the number of records the report announces, so each receive path ends.

Main definitions:

* `McastBridge.inetCsum`, `McastBridge.inet6Csum` — `inet_csum`, `inet6_csum` on bytes of the frame;
* `McastBridge.igmpFrame`, `McastBridge.mldFrame` — the frame checks, and the message that passed;
* `McastBridge.groupRecordsAt` — the group-record loop over the frame;
* `McastBridge.igmpReceiveFrame`, `McastBridge.mldReceiveFrame` — `igmp_receive` and
  `mld_receive` on a captured frame.

Main results:

* `McastBridge.igmpFrame_accept`, `McastBridge.mldFrame_accept` — the checks pass every well-formed
  frame;
* `McastBridge.groupRecordsAt_fst` — the loop over the frame computes the loop over the message;
* `McastBridge.receive_reads_in_frame` — **both receive paths read only bytes of the captured
  frame**, for every frame and every state, and a frame whose IPv4 total length is below its
  header length is dropped.
-/

set_option relaxedAutoImplicit false
set_option autoImplicit false

namespace McastBridge

/-! ### Slices and fields of the frame -/

/-- The `len` bytes at offset `off`: a header or a message as the code sees it, through a pointer
into the frame and a length. -/
def slice (frame : List UInt8) (off len : Nat) : List UInt8 := (frame.drop off).take len

/-- The offsets of the `n`-byte field at `off`. -/
def field (off n : Nat) : List Nat := List.range' off n

@[simp] theorem mem_field {o off n : Nat} : o ∈ field off n ↔ off ≤ o ∧ o < off + n :=
  List.mem_range'_1

theorem rd8_lt (buf : List UInt8) (off : Nat) : rd8 buf off < 256 := UInt8.toNat_lt_size _

theorem rd16_lt (buf : List UInt8) (off : Nat) : rd16 buf off < 65536 := by
  have := rd8_lt buf off; have := rd8_lt buf (off + 1); unfold rd16; omega

theorem length_slice {frame : List UInt8} {off len : Nat} (h : off + len ≤ frame.length) :
    (slice frame off len).length = len := by
  simp only [slice, List.length_take, List.length_drop]; omega

theorem rd8_slice {frame : List UInt8} {off len k : Nat} (hk : k < len) :
    rd8 (slice frame off len) k = rd8 frame (off + k) := by
  simp only [rd8, slice, List.getD_eq_getElem?_getD, List.getElem?_take_of_lt hk,
    List.getElem?_drop]

theorem rd16_slice {frame : List UInt8} {off len k : Nat} (hk : k + 1 < len) :
    rd16 (slice frame off len) k = rd16 frame (off + k) := by
  simp only [rd16, rd8_slice hk, rd8_slice (Nat.lt_of_succ_lt hk), Nat.add_assoc]

theorem slice_drop (frame : List UInt8) (off len r : Nat) :
    (slice frame off len).drop r = slice frame (off + r) (len - r) := by
  simp only [slice, List.drop_take, List.drop_drop]

theorem slice_slice {frame : List UInt8} {off len k n : Nat} (h : k + n ≤ len) :
    slice (slice frame off len) k n = slice frame (off + k) n := by
  rw [slice, slice_drop, slice, List.take_take, Nat.min_eq_left (by omega)]; rfl

theorem rdAddr_slice {frame : List UInt8} {off len k n : Nat} (h : k + n ≤ len) :
    rdAddr (slice frame off len) k n = rdAddr frame (off + k) n := by
  rw [rdAddr, rdAddr, slice_drop, slice, List.take_take, Nat.min_eq_left (by omega)]

/-! ### `inet_csum` and `inet6_csum` -/

/-- The sum `inet_csum` forms of the `len` bytes at `off`: 16-bit words as the little-endian host
loads them, and a last odd byte on its own. -/
def csumSum (frame : List UInt8) (off : Nat) : Nat → Nat
  | 0 => 0
  | 1 => rd8 frame off
  | n + 2 => rd8 frame off + 256 * rd8 frame (off + 1) + csumSum frame (off + 2) n

/-- The words of the `len` bytes at `off`, where `len` is an `int`: none when it is negative. -/
def csumBody (frame : List UInt8) (off len : Nat) : Nat :=
  if 2 ^ 31 ≤ len then 0 else csumSum frame off len

/-- The end of both checksums: the carries of the 32-bit sum folded in twice, and the ones'
complement as a `uint16_t`. -/
def csumFold (sum : Nat) : Nat :=
  let sum := sum / 2 ^ 16 + sum % 2 ^ 16
  let sum := sum + sum / 2 ^ 16
  0xffff - sum % 2 ^ 16

/-- `inet_csum(addr, len)` on the `len` bytes at `off`. -/
def inetCsum (frame : List UInt8) (off len : Nat) : Nat := csumFold (u32 (csumBody frame off len))

/-- `inet6_csum(addr, len, src, dst, next_header)`: the addresses at `srcOff` and `dstOff`, the
words of the pseudo-header (`htonl(len)`, three zero bytes and `next_header`), then the `len`
bytes at `off`. -/
def inet6Csum (frame : List UInt8) (off len srcOff dstOff nextHeader : Nat) : Nat :=
  let pseudo := len / 2 ^ 24 % 256 + 256 * (len / 2 ^ 16 % 256) +
    (len / 2 ^ 8 % 256 + 256 * (len % 256)) + 256 * nextHeader
  csumFold (u32 (csumSum frame srcOff 16 + csumSum frame dstOff 16 + pseudo +
    csumBody frame off len))

/-- The bytes a checksum reads of the `len` bytes at `off`. -/
def csumReads (off len : Nat) : List Nat := if 2 ^ 31 ≤ len then [] else field off len

@[simp] theorem mem_csumReads {o off len : Nat} :
    o ∈ csumReads off len ↔ len < 2 ^ 31 ∧ off ≤ o ∧ o < off + len := by
  unfold csumReads; split <;> simp [*] <;> omega

theorem csumBody_of_le {frame : List UInt8} {off len : Nat} (h : 2 ^ 31 ≤ len) :
    csumBody frame off len = 0 := if_pos h

/-- A length that is negative as an `int` gives the checksum `0xffff`, which no check accepts. -/
theorem inetCsum_of_le {frame : List UInt8} {off len : Nat} (h : 2 ^ 31 ≤ len) :
    inetCsum frame off len = 0xffff := by
  rw [inetCsum, csumBody_of_le h]; rfl

theorem lt_of_inetCsum_eq_zero {frame : List UInt8} {off len : Nat}
    (h : inetCsum frame off len = 0) : len < 2 ^ 31 :=
  Nat.lt_of_not_le fun hl => absurd (h ▸ inetCsum_of_le hl) (by decide)

/-! ### The frame checks -/

/-- A message that passed the frame checks: the IP source address, and the offset of the message
in the frame and its length (`packet_len`). -/
structure Passed where
  src : Nat
  off : Nat
  len : Nat
  deriving DecidableEq, Repr

/-- `igmp_receive` up to its type dispatch, on a frame captured on an interface whose address is
`ifAddr`: the message that passed, or `none` where the code returns, and the offsets it read.  The
IPv4 header starts at offset 14.  The minimum IGMP length, `sizeof(mcb_igmp_header_t)` in the
source, a type `protocols.h` does not define, is the 8 bytes of its `mcb_igmp_t`. -/
def igmpFrame (ifAddr : Nat) (frame : List UInt8) : Option Passed × List Nat :=
  if frame.length < 14 + 20 then (none, []) else
  let r₁ := field 12 2
  if rd16 frame 12 ≠ 0x0800 then (none, r₁) else
  let r₂ := r₁ ++ field 26 4
  if rdAddr frame 26 4 = ifAddr then (none, r₂) else
  let ihl := rd8 frame 14 % 16 * 4
  let r₃ := r₂ ++ [14]
  if frame.length - 14 < ihl then (none, r₃) else
  let r₄ := r₃ ++ csumReads 14 ihl
  if inetCsum frame 14 ihl ≠ 0 then (none, r₄) else
  let r₅ := r₄ ++ field 16 2
  if frame.length - 14 < rd16 frame 16 then (none, r₅) else
  let r₆ := r₅ ++ [23]
  if rd8 frame 23 ≠ 2 then (none, r₆) else
  if ihl < 20 + 4 then (none, r₆) else
  let r₇ := r₆ ++ [34]
  if rd8 frame 34 ≠ 0x94 then (none, r₇) else
  let r₈ := r₇ ++ [35]
  if rd8 frame 35 ≠ 4 then (none, r₈) else
  let len := u32 (rd16 frame 16 + 2 ^ 32 - ihl)
  if len < 8 then (none, r₈) else
  let r₉ := r₈ ++ csumReads (14 + ihl) len
  if inetCsum frame (14 + ihl) len ≠ 0 then (none, r₉) else
  (some ⟨rdAddr frame 26 4, 14 + ihl, len⟩, r₉ ++ [14 + ihl])

/-- `mld_receive` up to its type dispatch, on a frame captured on an interface whose link-local
address is `ifAddr`: the message that passed, or `none` where the code returns, and the offsets it
read.  The IPv6 header starts at offset 14, the Hop-by-Hop header at 54, the MLD message at 62. -/
def mldFrame (ifAddr : Nat) (frame : List UInt8) : Option Passed × List Nat :=
  if frame.length < 14 + 40 then (none, []) else
  let r₁ := field 12 2
  if rd16 frame 12 ≠ 0x86dd then (none, r₁) else
  let r₂ := r₁ ++ field 22 16
  if rdAddr frame 22 16 = ifAddr then (none, r₂) else
  let r₃ := r₂ ++ [20]
  if rd8 frame 20 ≠ 0 then (none, r₃) else
  let r₄ := r₃ ++ field 18 2
  if frame.length - 54 < rd16 frame 18 then (none, r₄) else
  if rd16 frame 18 < 8 then (none, r₄) else
  let r₅ := r₄ ++ [55]
  if rd8 frame 55 ≠ 0 then (none, r₅) else
  let r₆ := r₅ ++ if rd8 frame 56 = 5 then [56] else [56, 58]
  if rd8 frame 56 ≠ 5 ∧ rd8 frame 58 ≠ 5 then (none, r₆) else
  let r₇ := r₆ ++ [54]
  if rd8 frame 54 ≠ 0x3a then (none, r₇) else
  let len := rd16 frame 18 - 8
  if len < 24 then (none, r₇) else
  let r₈ := r₇ ++ field 22 16 ++ field 38 16 ++ csumReads 62 len
  if inet6Csum frame 62 len 22 38 0x3a ≠ 0 then (none, r₈) else
  (some ⟨rdAddr frame 22 16, 62, len⟩, r₈ ++ [62])

/-- The one step every proof about the checks takes: a read list or result chosen by an `if`. -/
theorem mem_snd_ite {α : Type} {c : Prop} [Decidable c] {a b : α × List Nat} {o : Nat} :
    o ∈ (if c then a else b).2 ↔ c ∧ o ∈ a.2 ∨ ¬c ∧ o ∈ b.2 := by
  by_cases h : c <;> simp [h]

theorem fst_ite_eq_some {α : Type} {c : Prop} [Decidable c] {a b : Option α × List Nat} {p : α} :
    (if c then a else b).1 = some p ↔ c ∧ a.1 = some p ∨ ¬c ∧ b.1 = some p := by
  by_cases h : c <;> simp [h]

theorem inetCsum_ne_or_lt (frame : List UInt8) (off len : Nat) :
    inetCsum frame off len ≠ 0 ∨ len < 2 ^ 31 :=
  (em _).imp_right fun h => lt_of_inetCsum_eq_zero (not_not.mp h)

theorem igmpFrame_reads (ifAddr : Nat) (frame : List UInt8) :
    ∀ o ∈ (igmpFrame ifAddr frame).2, o < frame.length := by
  intro o ho
  have h16 := rd16_lt frame 16
  have hc := inetCsum_ne_or_lt frame (14 + rd8 frame 14 % 16 * 4)
    (u32 (rd16 frame 16 + 2 ^ 32 - rd8 frame 14 % 16 * 4))
  simp only [igmpFrame, mem_snd_ite, List.mem_append, mem_field, mem_csumReads, List.mem_cons,
    List.mem_singleton, List.not_mem_nil, u32, or_false, and_false, false_or] at ho hc
  omega

/-- A message `igmp_receive` dispatches lies inside the frame: it is the IP payload, which the
total length bounds, and it holds at least an IGMP header. -/
theorem igmpFrame_passed {ifAddr : Nat} {frame : List UInt8} {src off len : Nat}
    (h : (igmpFrame ifAddr frame).1 = some ⟨src, off, len⟩) :
    off = 14 + rd8 frame 14 % 16 * 4 ∧ off + len = 14 + rd16 frame 16 ∧ 8 ≤ len ∧
      14 + rd16 frame 16 ≤ frame.length := by
  have h16 := rd16_lt frame 16
  have hc := inetCsum_ne_or_lt frame (14 + rd8 frame 14 % 16 * 4)
    (u32 (rd16 frame 16 + 2 ^ 32 - rd8 frame 14 % 16 * 4))
  simp only [igmpFrame, fst_ite_eq_some, reduceCtorEq, Option.some.injEq, Passed.mk.injEq, u32,
    and_false, false_or, or_false] at h hc
  omega

/-- The converse: `igmp_receive` dispatches every frame that carries IPv4 and IGMP, has a header of
at least 24 bytes with a Router Alert option first, a total length the frame holds, a message of
at least 8 bytes, and both checksums right. -/
theorem igmpFrame_accept {ifAddr : Nat} {frame : List UInt8} {ihl len : Nat}
    (htype : rd16 frame 12 = 0x0800) (hihl : rd8 frame 14 % 16 * 4 = ihl) (h24 : 20 + 4 ≤ ihl)
    (hcsum : inetCsum frame 14 ihl = 0) (htotal : rd16 frame 16 = ihl + len)
    (hlen : 14 + ihl + len ≤ frame.length) (hproto : rd8 frame 23 = 2) (hra : rd8 frame 34 = 0x94)
    (hral : rd8 frame 35 = 4) (h8 : 8 ≤ len) (hmsg : inetCsum frame (14 + ihl) len = 0) :
    (igmpFrame ifAddr frame).1 =
      if rdAddr frame 26 4 = ifAddr then none else some ⟨rdAddr frame 26 4, 14 + ihl, len⟩ := by
  have hu : u32 (rd16 frame 16 + 2 ^ 32 - ihl) = len := by
    have := rd16_lt frame 16; unfold u32; omega
  have h₁ : ¬frame.length < 14 + 20 := by omega
  have h₂ : ¬frame.length - 14 < ihl := by omega
  have h₃ : ¬frame.length - 14 < rd16 frame 16 := by omega
  have h₄ : ¬ihl < 20 + 4 := by omega
  have h₅ : ¬len < 8 := by omega
  simp only [igmpFrame, h₁, htype, hihl, h₂, hcsum, h₃, hproto, h₄, hra, hral, hu, h₅, hmsg,
    ne_eq, not_true_eq_false, ↓reduceIte]
  split <;> rfl

theorem mldFrame_reads (ifAddr : Nat) (frame : List UInt8) :
    ∀ o ∈ (mldFrame ifAddr frame).2, o < frame.length := by
  intro o ho
  simp only [mldFrame, mem_snd_ite, List.mem_append, mem_field, mem_csumReads, List.mem_cons,
    List.mem_singleton, List.not_mem_nil, or_false, and_false, false_or] at ho
  split at ho <;> simp only [List.mem_append, List.mem_cons, List.mem_singleton,
    List.not_mem_nil, or_false] at ho <;> omega

/-- A message `mld_receive` dispatches lies inside the frame and holds at least an MLD header. -/
theorem mldFrame_passed {ifAddr : Nat} {frame : List UInt8} {src off len : Nat}
    (h : (mldFrame ifAddr frame).1 = some ⟨src, off, len⟩) :
    off = 62 ∧ off + len = 54 + rd16 frame 18 ∧ 24 ≤ len ∧ 54 + rd16 frame 18 ≤ frame.length := by
  simp only [mldFrame, fst_ite_eq_some, reduceCtorEq, Option.some.injEq, Passed.mk.injEq,
    and_false, false_or, or_false] at h
  omega

/-- The converse: `mld_receive` dispatches every frame that carries IPv6 with a Hop-by-Hop header
of length 0 holding a Router Alert option and followed by ICMPv6, a payload length the frame holds,
a message of at least 24 bytes, and the checksum right. -/
theorem mldFrame_accept {ifAddr : Nat} {frame : List UInt8} {len : Nat}
    (htype : rd16 frame 12 = 0x86dd) (hnext : rd8 frame 20 = 0) (hpay : rd16 frame 18 = 8 + len)
    (hlen : 62 + len ≤ frame.length) (hhbh : rd8 frame 55 = 0)
    (hra : rd8 frame 56 = 5 ∨ rd8 frame 58 = 5) (hicmp : rd8 frame 54 = 0x3a) (h24 : 24 ≤ len)
    (hcsum : inet6Csum frame 62 len 22 38 0x3a = 0) :
    (mldFrame ifAddr frame).1 =
      if rdAddr frame 22 16 = ifAddr then none else some ⟨rdAddr frame 22 16, 62, len⟩ := by
  have h₁ : ¬frame.length < 14 + 40 := by omega
  have h₂ : ¬frame.length - 54 < rd16 frame 18 := by omega
  have h₃ : ¬rd16 frame 18 < 8 := by omega
  have h₄ : ¬(rd8 frame 56 ≠ 5 ∧ rd8 frame 58 ≠ 5) := by omega
  have h₅ : rd16 frame 18 - 8 = len := by omega
  have h₆ : ¬len < 24 := by omega
  simp only [mldFrame, h₁, htype, hnext, h₂, h₃, hhbh, h₄, hicmp, h₅, h₆, hcsum,
    ne_eq, not_true_eq_false, ↓reduceIte]
  split <;> rfl

/-! ### The handlers' reads -/

/-- The body of the group-record loop for the record at `off`, after its length checks: the group
is looked up, and a record of a known type joins or leaves it.  The state after it, whether the
loop goes on, and the fields of the record read beyond its length fields and group address. -/
def groupRecordStep (P : Proto) (leave : Sys → Nat → Nat → Sys) (frame : List UInt8) (s : Sys)
    (i off : Nat) : Sys × Bool × List Nat :=
  let numSrcs := rd16 frame (off + 2)
  match interfaceFindGroup P.isLinkScope (s.iface i) (rdAddr frame (off + 4) P.addrLen) with
  | none => (s, true, [])
  | some (ifc, g) =>
      let s := s.setIface i ifc
      match rd8 frame off with
      | 1 | 3 =>
          (if numSrcs ≠ 0 then joinCommon P s i g else leave s i g, true, off :: field (off + 2) 2)
      | 2 | 4 | 5 => (joinCommon P s i g, true, [off])
      | 6 => (if numSrcs ≠ 0 then s else leave s i g, numSrcs = 0, off :: field (off + 2) 2)
      | _ => (s, false, [off])

/-- The group-record loop of `handle_igmp_v3_report` / `handle_mld_v2_report` over the frame: the
`n` records announced, from offset `off` with `len` bytes of the message left; the state after
them, and the offsets read. -/
def groupRecordsAt (P : Proto) (leave : Sys → Nat → Nat → Sys) (frame : List UInt8) (s : Sys)
    (i : Nat) : Nat → Nat → Nat → Sys × List Nat
  | 0, _, _ => (s, [])
  | n + 1, off, len =>
      if len < P.recordHeaderLen then (s, [])
      else
        let recordLen := P.recordHeaderLen + rd16 frame (off + 2) * P.addrLen +
          rd8 frame (off + 1) * 4
        let hdr := field (off + 2) 2 ++ [off + 1]
        if len < recordLen then (s, hdr)
        else
          let r := groupRecordStep P leave frame s i off
          let hdr := hdr ++ field (off + 4) P.addrLen ++ r.2.2
          if r.2.1 then
            let next := groupRecordsAt P leave frame r.1 i n (off + recordLen) (len - recordLen)
            (next.1, hdr ++ next.2)
          else (r.1, hdr)

/-- The fields `handle_igmp_query` / `handle_mld_query` read of a query `q` from `src`: nothing
when the interface stays the querier; then the parameters and the S flag of a v3 (MLDv2) query;
then, unless the S flag ends it, the group address, tested against the unspecified address and,
when it is not, looked up. -/
def queryReads (P : Proto) (s : Sys) (i src : Nat) (q : Query) (params flags group : List Nat) :
    List Nat :=
  match electQuerier P s i src q with
  | none => []
  | some _ =>
      let r := if q.isV3 then params ++ flags else []
      if q.isV3 && q.sFlag then r else r ++ group ++ if q.group = 0 then [] else group

/-- What the handler `igmp_receive` dispatches the message `p` to reads of it. -/
def igmpDispatchReads (s : Sys) (i : Nat) (frame : List UInt8) (p : Passed) : List Nat :=
  if p.len < 8 then []
  else
    match rd8 frame p.off with
    | 0x11 => queryReads igmpProto s i p.src (igmpQuery (slice frame p.off p.len))
        [p.off + 8, p.off + 9, p.off + 1] [p.off + 8] (field (p.off + 4) 4)
    | 0x12 | 0x16 | 0x17 => field (p.off + 4) 4
    | 0x22 => field (p.off + 6) 2 ++ (groupRecordsAt igmpProto igmpLeaveCommon frame s i
        (rd16 frame (p.off + 6)) (p.off + 8) (p.len - 8)).2
    | _ => []

/-- What the handler `mld_receive` dispatches the message `p` to reads of it. -/
def mldDispatchReads (s : Sys) (i : Nat) (frame : List UInt8) (p : Passed) : List Nat :=
  match rd8 frame p.off with
  | 0x82 => queryReads mldProto s i p.src (mldQuery (slice frame p.off p.len))
      ([p.off + 24, p.off + 25] ++ field (p.off + 4) 2) [p.off + 24] (field (p.off + 8) 16)
  | 0x81 | 0x83 => field (p.off + 8) 16
  | 0x8f => field (p.off + 6) 2 ++ (groupRecordsAt mldProto mldLeaveCommon frame s i
      (rd16 frame (p.off + 6)) (p.off + 8) (p.len - 8)).2
  | _ => []

/-- `igmp_receive` on the frame `frame` captured on interface `i`: the state after it, and the
offsets of the frame read. -/
def igmpReceiveFrame (s : Sys) (i : Nat) (frame : List UInt8) (rand : Nat) : Sys × List Nat :=
  match igmpFrame (s.iface i).ifAddr frame with
  | (none, r) => (s, r)
  | (some p, r) =>
      (igmpReceive s i p.src (slice frame p.off p.len) rand, r ++ igmpDispatchReads s i frame p)

/-- `mld_receive` on the frame `frame` captured on interface `i`: the state after it, and the
offsets of the frame read. -/
def mldReceiveFrame (s : Sys) (i : Nat) (frame : List UInt8) (rand : Nat) : Sys × List Nat :=
  match mldFrame (s.iface i).ifAddr frame with
  | (none, r) => (s, r)
  | (some p, r) =>
      (mldReceive s i p.src (slice frame p.off p.len) rand, r ++ mldDispatchReads s i frame p)

theorem field_subset {a n b m : Nat} (h₁ : b ≤ a) (h₂ : a + n ≤ b + m) : field a n ⊆ field b m :=
  fun o ho => by simp only [mem_field] at ho ⊢; omega

theorem subset_field {l : List Nat} {b m : Nat} (h : ∀ o ∈ l, b ≤ o ∧ o < b + m) :
    l ⊆ field b m :=
  fun o ho => mem_field.2 (h o ho)

/-! ### The group-record loop -/

section Records

variable (P : Proto) (leave : Sys → Nat → Nat → Sys) (frame : List UInt8) (i : Nat)

theorem groupRecordStep_reads (s : Sys) (off : Nat) :
    (groupRecordStep P leave frame s i off).2.2 ⊆ field off 4 := by
  have h : off :: field (off + 2) 2 ⊆ field off 4 :=
    subset_field fun o ho => by simp only [List.mem_cons, mem_field] at ho; omega
  unfold groupRecordStep
  split
  · exact List.nil_subset _
  · split
    all_goals first | exact h | simp

theorem groupRecordsAt_reads (hP : 4 + P.addrLen ≤ P.recordHeaderLen) (n : Nat) :
    ∀ s off len, (groupRecordsAt P leave frame s i n off len).2 ⊆ field off len := by
  induction n with
  | zero => intro s off len; exact List.nil_subset _
  | succ n ih =>
      intro s off len
      simp only [groupRecordsAt]
      split_ifs with h₁ h₂ h₃
      · exact List.nil_subset _
      · exact subset_field fun o ho => by
          simp only [List.mem_append, mem_field, List.mem_singleton] at ho; omega
      all_goals
        have hhdr : field (off + 2) 2 ++ [off + 1] ++ field (off + 4) P.addrLen ++
            (groupRecordStep P leave frame s i off).2.2 ⊆ field off len :=
          List.append_subset.2 ⟨subset_field fun o ho => by
            simp only [List.mem_append, mem_field, List.mem_singleton] at ho; omega,
            (groupRecordStep_reads P leave frame i s off).trans (field_subset (by omega) (by omega))⟩
      · exact List.append_subset.2 ⟨hhdr, (ih _ _ _).trans (field_subset (by omega) (by omega))⟩
      · exact hhdr
/-- The loop over the frame computes the loop of the message-level model over the message. -/
theorem groupRecordsAt_fst (hP : 4 + P.addrLen ≤ P.recordHeaderLen) (n : Nat) :
    ∀ s off len, off + len ≤ frame.length →
      (groupRecordsAt P leave frame s i n off len).1 =
        groupRecords P leave s i n (slice frame off len) := by
  induction n with
  | zero => intro s off len _; rfl
  | succ n ih =>
      intro s off len h
      simp only [groupRecordsAt, groupRecords, length_slice h]
      by_cases h₁ : len < P.recordHeaderLen
      · simp only [h₁, if_true]
      rw [if_neg h₁, if_neg h₁, rd16_slice (show 2 + 1 < len by omega),
        rd8_slice (show 1 < len by omega), rdAddr_slice (show 4 + P.addrLen ≤ len by omega),
        rd8_slice (show 0 < len by omega), Nat.add_zero]
      by_cases h₂ : len < P.recordHeaderLen + rd16 frame (off + 2) * P.addrLen + rd8 frame (off + 1) * 4
      · simp only [h₂, if_true]
      rw [if_neg h₂, if_neg h₂, slice_drop]
      have ih' := fun s' => ih s' (off + (P.recordHeaderLen + rd16 frame (off + 2) * P.addrLen + rd8 frame (off + 1) * 4)) (len - (P.recordHeaderLen + rd16 frame (off + 2) * P.addrLen + rd8 frame (off + 1) * 4)) (by omega)
      unfold groupRecordStep
      rcases interfaceFindGroup P.isLinkScope (s.iface i) (rdAddr frame (off + 4) P.addrLen) with _ | ⟨ifc, g⟩
      · exact ih' s
      · simp only [Nat.add_zero]
        generalize rd8 frame off = t
        rcases t with _ | _ | _ | _ | _ | _ | _ | t
        all_goals simp only [ih', if_true, Bool.false_eq_true, if_false]
        by_cases hz : rd16 frame (off + 2) = 0 <;> simp [hz, ih']
end Records

/-! ### What the receive paths read -/

theorem mem_queryReads {P : Proto} {s : Sys} {i src : Nat} {q : Query}
    {params flags group : List Nat} {o : Nat} (h : o ∈ queryReads P s i src q params flags group) :
    o ∈ group ∨ q.isV3 = true ∧ o ∈ params ++ flags := by
  unfold queryReads at h
  split at h
  · cases h
  · by_cases hv : q.isV3 <;> by_cases hs : q.sFlag <;> by_cases hg : q.group = 0 <;>
      simp_all [List.mem_append] <;> tauto

theorem igmpDispatchReads_subset {s : Sys} {i : Nat} {frame : List UInt8} {p : Passed}
    (hp : p.off + p.len ≤ frame.length) : igmpDispatchReads s i frame p ⊆ field p.off p.len := by
  unfold igmpDispatchReads
  split_ifs with h8
  · exact List.nil_subset _
  split
  · intro o ho
    rcases mem_queryReads ho with ho | ⟨hv, ho⟩
    · simp only [mem_field] at ho ⊢; omega
    · simp only [igmpQuery, decide_eq_true_eq, length_slice hp] at hv
      simp only [List.mem_append, List.mem_cons, List.mem_singleton, List.not_mem_nil,
        or_false, mem_field] at ho ⊢
      omega
  all_goals first
    | exact List.nil_subset _
    | exact field_subset (by omega) (by omega)
    | exact List.append_subset.2 ⟨field_subset (by omega) (by omega),
        (groupRecordsAt_reads igmpProto igmpLeaveCommon frame i (by decide) _ _ _ _).trans
          (field_subset (by omega) (by omega))⟩

theorem mldDispatchReads_subset {s : Sys} {i : Nat} {frame : List UInt8} {p : Passed}
    (hp : p.off + p.len ≤ frame.length) (h24 : 24 ≤ p.len) :
    mldDispatchReads s i frame p ⊆ field p.off p.len := by
  unfold mldDispatchReads
  split
  · intro o ho
    rcases mem_queryReads ho with ho | ⟨hv, ho⟩
    · simp only [mem_field] at ho ⊢; omega
    · simp only [mldQuery, decide_eq_true_eq, length_slice hp] at hv
      simp only [List.mem_append, List.mem_cons, List.mem_singleton, List.not_mem_nil,
        or_false, mem_field] at ho ⊢
      omega
  all_goals first
    | exact List.nil_subset _
    | exact field_subset (by omega) (by omega)
    | exact List.append_subset.2 ⟨field_subset (by omega) (by omega),
        (groupRecordsAt_reads mldProto mldLeaveCommon frame i (by decide) _ _ _ _).trans
          (field_subset (by omega) (by omega))⟩

theorem igmpReceiveFrame_reads (s : Sys) (i : Nat) (frame : List UInt8) (rand : Nat) :
    ∀ o ∈ (igmpReceiveFrame s i frame rand).2, o < frame.length := by
  have hr := igmpFrame_reads (s.iface i).ifAddr frame
  unfold igmpReceiveFrame
  split
  · rename_i r heq
    rw [heq] at hr
    exact hr
  · rename_i p r heq
    obtain ⟨src, off, len⟩ := p
    have hp := igmpFrame_passed (congrArg Prod.fst heq)
    rw [heq] at hr
    intro o ho
    rcases List.mem_append.1 ho with ho | ho
    · exact hr o ho
    · have := mem_field.1 (igmpDispatchReads_subset (by simp only; omega) ho)
      simp only at this; omega

theorem mldReceiveFrame_reads (s : Sys) (i : Nat) (frame : List UInt8) (rand : Nat) :
    ∀ o ∈ (mldReceiveFrame s i frame rand).2, o < frame.length := by
  have hr := mldFrame_reads (s.iface i).ifAddr frame
  unfold mldReceiveFrame
  split
  · rename_i r heq
    rw [heq] at hr
    exact hr
  · rename_i p r heq
    obtain ⟨src, off, len⟩ := p
    have hp := mldFrame_passed (congrArg Prod.fst heq)
    rw [heq] at hr
    intro o ho
    rcases List.mem_append.1 ho with ho | ho
    · exact hr o ho
    · have := mem_field.1 (mldDispatchReads_subset (by simp only; omega) (by simp only; omega) ho)
      simp only at this; omega

/-- A frame whose IPv4 total length is below its header length gets no further than the checks:
`packet_len` wraps to `2 ^ 32 - 60` or more, an `int` below zero for `inet_csum`, whose result
`0xffff` fails the IGMP checksum. -/
theorem igmpReceiveFrame_of_total_lt {s : Sys} {i : Nat} {frame : List UInt8} {rand : Nat}
    (h : rd16 frame 16 < rd8 frame 14 % 16 * 4) : (igmpReceiveFrame s i frame rand).1 = s := by
  unfold igmpReceiveFrame
  split
  · rfl
  · rename_i p r heq
    obtain ⟨src, off, len⟩ := p
    have := igmpFrame_passed (congrArg Prod.fst heq)
    omega

theorem receive_reads_in_frame (s : Sys) (i : Nat) (frame : List UInt8) (rand : Nat) :
    (∀ o ∈ (igmpReceiveFrame s i frame rand).2, o < frame.length) ∧
      (∀ o ∈ (mldReceiveFrame s i frame rand).2, o < frame.length) ∧
      (rd16 frame 16 < rd8 frame 14 % 16 * 4 → (igmpReceiveFrame s i frame rand).1 = s) :=
  ⟨igmpReceiveFrame_reads s i frame rand, mldReceiveFrame_reads s i frame rand,
    igmpReceiveFrame_of_total_lt⟩

end McastBridge
