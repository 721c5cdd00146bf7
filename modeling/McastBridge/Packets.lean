import McastBridge.Frames
/-
**The frames the IGMP code builds, and what `igmp_receive` makes of them.**

`igmp_build_mrd_advertisement_packet` and `igmp_build_query_packets` fill a zeroed buffer through
pointers to packed structures (`mcb_ethernet_t`, `mcb_ip4_t`, `mcb_ip4_ra_opt_t`, then the
message) and copy it to the interface; `send_group_specific_query` patches the interface's one
`specific_query_packet` in place before each injection, so every query it sends starts from the
bytes the one before left.  The structures are records here, a store through a pointer is a
record update, and the `bytes` of a record is its packed image on the little-endian host: fields
set with `htons` in network byte order, checksums as the host stores a `uint16_t`, bit-fields low
bits first.  `inet_csum` is given a pointer and a length, and sums the image of the headers it
points at.

Every checksum a builder stores verifies, because it is computed with its field zero
(`McastBridge.inetCsum_store`); a send overwrites every field an earlier send patched
(`McastBridge.igmpSendGroupSpecificQueryPacket_twice`), so the bytes of a group-specific query do
not depend on the queries sent before it.

Main definitions:

* `McastBridge.beBytes`, `McastBridge.le16`, `McastBridge.htons`, `McastBridge.setBytes` — byte
  images and stores;
* `McastBridge.wordSum` — the sum `inet_csum` forms of a run of bytes;
* `McastBridge.Ethernet`, `McastBridge.Ip4`, `McastBridge.Ip4RaOpt`, `McastBridge.IgmpV3Query`,
  `McastBridge.MrdAdvertisement`, `McastBridge.Ip4Frame` — the packed structures and their images;
* `McastBridge.igmpBuildMrdAdvertisementPacket`, `McastBridge.igmpBuildQueryPackets`,
  `McastBridge.igmpSendGroupSpecificQueryPacket` — the builders and the patch;
* `McastBridge.igmpInjectedBytes` — the bytes of an injected frame, given the frames before it.

Main results:

* `McastBridge.inetCsum_store` — a checksum computed with its field zero verifies once stored;
* `McastBridge.igmpSendGroupSpecificQueryPacket_twice` — the last send decides the packet;
* `McastBridge.igmpQuery_bytes` — `handle_igmp_query` reads back the fields of a query's image;
* `McastBridge.igmp_injected_frames_received` — every frame the IGMP code injects passes the checks
  of `igmp_receive` on another interface and reaches its type dispatch with the fields it was
  built from.
-/

set_option relaxedAutoImplicit false
set_option autoImplicit false

namespace McastBridge

/-! ### Byte images and stores -/

/-- The `n` bytes of `x` in network byte order: an address held as a number. -/
def beBytes (x : Nat) : Nat → List UInt8
  | 0 => []
  | n + 1 => (x / 256 ^ n).toUInt8 :: beBytes x n

@[simp] theorem length_beBytes (x n : Nat) : (beBytes x n).length = n := by
  induction n <;> simp [beBytes, *]

/-- The image of a `uint16_t` on the little-endian host. -/
def le16 (x : Nat) : List UInt8 := [x.toUInt8, (x / 256).toUInt8]

/-- `htons`: the value whose little-endian image is `x` in network byte order. -/
def htons (x : Nat) : Nat := x % 256 * 256 + x / 256 % 256

/-- Stores of `bs` to the bytes from `off` on: a `memcpy`, or stores to consecutive elements. -/
def setBytes (buf : List UInt8) (off : Nat) : List UInt8 → List UInt8
  | [] => buf
  | b :: bs => setBytes (buf.set off b) (off + 1) bs

@[simp] theorem toNat_toUInt8 (n : Nat) : n.toUInt8.toNat = n % 256 := rfl

theorem foldl_beBytes (x : Nat) : ∀ n acc,
    (beBytes x n).foldl (fun a b => a * 256 + b.toNat) acc = acc * 256 ^ n + x % 256 ^ n
  | 0, acc => by simp [beBytes, Nat.mod_one]
  | n + 1, acc => by
    rw [beBytes, List.foldl_cons, foldl_beBytes x n, Nat.mod_pow_succ, toNat_toUInt8, Nat.pow_succ]
    generalize 256 ^ n = P
    rw [Nat.add_mul, Nat.mul_assoc, Nat.mul_comm 256 P, Nat.mul_comm (x / P % 256) P]
    omega

/-- An address read where its bytes were stored reads back modulo its width. -/
theorem rdAddr_of_slice {frame : List UInt8} {off n x : Nat} (h : slice frame off n = beBytes x n) :
    rdAddr frame off n = x % 256 ^ n := by
  rw [rdAddr, show (frame.drop off).take n = beBytes x n from h, foldl_beBytes, Nat.zero_mul,
    Nat.zero_add]

theorem setBytes_set_comm (y : UInt8) : ∀ (d : List UInt8) (i off : Nat) (xs : List UInt8),
    i < off → (setBytes d off xs).set i y = setBytes (d.set i y) off xs
  | _, _, _, [], _ => rfl
  | d, i, off, x :: xs, h => by
    rw [setBytes, setBytes, setBytes_set_comm y _ i (off + 1) xs (by omega),
      List.set_comm x y d (by omega)]

/-- Stores to the same bytes: the later ones are what remains. -/
theorem setBytes_setBytes : ∀ (d : List UInt8) (off : Nat) (xs ys : List UInt8),
    xs.length = ys.length → setBytes (setBytes d off xs) off ys = setBytes d off ys
  | _, _, [], [], _ => rfl
  | d, off, x :: xs, y :: ys, h => by
    rw [setBytes, setBytes, setBytes, setBytes_set_comm y _ off (off + 1) xs (by omega),
      List.set_set, setBytes_setBytes _ _ xs ys (by simpa using h)]

/-! ### The checksum a builder stores -/

/-- The sum `inet_csum` forms of a run of bytes: little-endian words, and a last odd byte. -/
def wordSum : List UInt8 → Nat
  | [] => 0
  | [b] => b.toNat
  | b₀ :: b₁ :: bs => b₀.toNat + 256 * b₁.toNat + wordSum bs

theorem wordSum_append (A B : List UInt8) (hA : A.length % 2 = 0) :
    wordSum (A ++ B) = wordSum A + wordSum B := by
  induction A using wordSum.induct with
  | case1 => simp [wordSum]
  | case2 b => simp at hA
  | case3 b₀ b₁ bs ih =>
    simp only [List.length_cons] at hA
    show wordSum (b₀ :: b₁ :: (bs ++ B)) = _
    simp only [wordSum, ih (by omega)]; omega

theorem wordSum_le (l : List UInt8) : wordSum l ≤ 2 ^ 15 * l.length := by
  induction l using wordSum.induct with
  | case1 => simp [wordSum]
  | case2 b =>
    have : b.toNat < 256 := b.toNat_lt_size
    simp only [wordSum, List.length_singleton]; omega
  | case3 b₀ b₁ bs ih =>
    have : b₀.toNat < 256 := b₀.toNat_lt_size
    have : b₁.toNat < 256 := b₁.toNat_lt_size
    simp only [wordSum, List.length_cons]; omega

theorem wordSum_le16_append {c : Nat} (hc : c < 2 ^ 16) (B : List UInt8) :
    wordSum (le16 c ++ B) = c + wordSum B := by
  rw [wordSum_append (le16 c) B (by simp [le16])]
  simp only [le16, wordSum, toNat_toUInt8]; omega

/-- `csumSum` over bytes of the frame is the word sum of the slice. -/
theorem csumSum_eq_wordSum (frame : List UInt8) :
    ∀ off n, off + n ≤ frame.length → csumSum frame off n = wordSum (slice frame off n) := by
  intro off n
  induction off, n using csumSum.induct frame with
  | case1 off => intro; simp [csumSum, slice, wordSum]
  | case2 off =>
    intro h
    rw [slice, List.drop_eq_getElem_cons (by omega)]
    simp [csumSum, wordSum, rd8, List.getElem?_eq_getElem (show off < frame.length by omega)]
  | case3 off n ih =>
    intro h
    rw [slice, List.drop_eq_getElem_cons (by omega), List.drop_eq_getElem_cons (by omega)]
    simp only [csumSum, List.take_succ_cons, wordSum, rd8, ih (by omega), slice,
      List.getD_eq_getElem?_getD, List.getElem?_eq_getElem (show off < frame.length by omega),
      List.getElem?_eq_getElem (show off + 1 < frame.length by omega), Option.getD_some]

/-- `csumFold` of a 32-bit sum is `0xffff` minus a value congruent to the sum modulo `0xffff`,
zero only for a zero sum. -/
theorem csumFold_spec (x : Nat) (hx : x < 2 ^ 32) : ∃ r, csumFold x = 0xffff - r ∧ r ≤ 0xffff ∧
    r % 0xffff = x % 0xffff ∧ (0 < x ↔ 0 < r) := by
  refine ⟨_, rfl, ?_⟩
  simp only [Nat.reducePow] at hx ⊢
  generalize hy : x / 65536 + x % 65536 = y
  have hxy : x % 65535 = y % 65535 ∧ y ≤ 131070 ∧ (0 < x ↔ 0 < y) := by omega
  rcases Nat.lt_or_ge y 65536 with h | h
  · rw [Nat.div_eq_of_lt h, Nat.add_zero, Nat.mod_eq_of_lt h]; omega
  · have h1 : y / 65536 = 1 := by omega
    rw [h1]; omega

theorem csumFold_lt (x : Nat) : csumFold x < 2 ^ 16 :=
  Nat.lt_of_le_of_lt (Nat.sub_le _ _) (by decide)

/-- Adding a sum's checksum to it gives a sum whose checksum is zero, when neither sum wraps. -/
theorem csumFold_add_self (S : Nat) (h : S + 2 ^ 16 ≤ 2 ^ 32) :
    csumFold (u32 (S + csumFold (u32 S))) = 0 := by
  have hS : u32 S = S := Nat.mod_eq_of_lt (by omega)
  obtain ⟨r₁, h₁, hr₁, hm₁, hp₁⟩ := csumFold_spec S (by omega)
  rw [hS, h₁]
  have hT : u32 (S + (0xffff - r₁)) = S + (0xffff - r₁) := Nat.mod_eq_of_lt (by omega)
  obtain ⟨r₂, h₂, hr₂, hm₂, hp₂⟩ := csumFold_spec (S + (0xffff - r₁)) (by omega)
  rw [hT, h₂]
  omega

/-- The stored checksum verifies, with `X` the words summed beside the bytes (the IPv6
pseudo-header). -/
theorem csumFold_store (X : Nat) (A B : List UInt8) (hA : A.length % 2 = 0)
    (hX : X + wordSum A + wordSum B + 2 ^ 16 ≤ 2 ^ 32) :
    csumFold (u32 (X + wordSum (A ++ le16 (csumFold (u32 (X + wordSum (A ++ le16 0 ++ B)))) ++
      B))) = 0 := by
  have hz : X + wordSum (A ++ le16 0 ++ B) = X + wordSum A + wordSum B := by
    rw [List.append_assoc, wordSum_append _ _ hA, wordSum_le16_append (by decide)]; omega
  rw [hz, List.append_assoc, wordSum_append _ _ hA, wordSum_le16_append (csumFold_lt _), ← Nat.add_assoc,
    ← Nat.add_assoc, Nat.add_right_comm _ _ (wordSum B)]
  exact csumFold_add_self _ hX

theorem inetCsum_eq_wordSum {l : List UInt8} {n : Nat} (hl : l.length = n) (hn : n < 2 ^ 31) :
    inetCsum l 0 n = csumFold (u32 (wordSum l)) := by
  rw [inetCsum, csumBody, if_neg (by omega), csumSum_eq_wordSum l 0 n (by omega), slice,
    List.drop_zero, List.take_of_length_le (by omega)]

/-- `inet_csum` over the bytes at `off` is `inet_csum` over the slice a pointer there gives. -/
theorem inetCsum_slice {frame : List UInt8} {off len : Nat} (h : off + len ≤ frame.length) :
    inetCsum frame off len = inetCsum (slice frame off len) 0 len := by
  by_cases hl : 2 ^ 31 ≤ len
  · rw [inetCsum_of_le hl, inetCsum_of_le hl]
  · rw [inetCsum_eq_wordSum (length_slice h) (by omega), inetCsum, csumBody, if_neg hl,
      csumSum_eq_wordSum _ _ _ h]

/-- **A checksum computed with its field zero verifies once stored**, for a field at an even
offset of a run of fewer than `2 ^ 16` bytes. -/
theorem inetCsum_store (pre post : List UInt8) (n : Nat) (hpre : pre.length % 2 = 0)
    (hn : pre.length + 2 + post.length = n) (hb : n < 2 ^ 16) :
    inetCsum (pre ++ le16 (inetCsum (pre ++ le16 0 ++ post) 0 n) ++ post) 0 n = 0 := by
  have hl : ∀ c, (pre ++ le16 c ++ post).length = n := fun c => by simp [le16]; omega
  have := wordSum_le pre
  have := wordSum_le post
  rw [inetCsum_eq_wordSum (hl 0) (by omega), inetCsum_eq_wordSum (hl _) (by omega)]
  simpa only [Nat.zero_add] using csumFold_store 0 pre post hpre (by omega)

theorem slice_append_mid (A B C : List UInt8) : slice (A ++ B ++ C) A.length B.length = B := by
  rw [slice, List.append_assoc, List.drop_left, List.take_left]

theorem csumSum_congr {F G : List UInt8} {off off' n : Nat} (hF : off + n ≤ F.length)
    (hG : off' + n ≤ G.length) (h : slice F off n = slice G off' n) :
    csumSum F off n = csumSum G off' n := by
  rw [csumSum_eq_wordSum _ _ _ hF, csumSum_eq_wordSum _ _ _ hG, h]

/-- `inet6_csum` of a message followed by the source and the destination address it is given
pointers to. -/
theorem inet6Csum_eq_wordSum (M src dst : List UInt8) (nh : Nat) (hs : src.length = 16)
    (hd : dst.length = 16) (hM : M.length < 2 ^ 31) :
    inet6Csum (M ++ src ++ dst) 0 M.length M.length (M.length + 16) nh =
      csumFold (u32 (wordSum src + wordSum dst + (M.length / 2 ^ 24 % 256 +
        256 * (M.length / 2 ^ 16 % 256) + (M.length / 2 ^ 8 % 256 + 256 * (M.length % 256)) +
        256 * nh) + wordSum M)) := by
  have hl : (M ++ src ++ dst).length = M.length + 16 + 16 := by simp [hs, hd]
  have h₁ : slice (M ++ src ++ dst) M.length 16 = src := by
    rw [← hs]; exact slice_append_mid M src dst
  have h₂ : slice (M ++ src ++ dst) (M.length + 16) 16 = dst := by
    have := slice_append_mid (M ++ src) dst []
    rwa [List.append_nil, List.length_append, hs, hd] at this
  have h₃ : slice (M ++ src ++ dst) 0 M.length = M := by
    rw [List.append_assoc, slice, List.drop_zero, List.take_left]
  rw [inet6Csum, csumBody, if_neg (by omega), csumSum_eq_wordSum _ _ _ (by omega),
    csumSum_eq_wordSum _ _ _ (by omega), csumSum_eq_wordSum _ _ _ (by omega), h₁, h₂, h₃]

/-- The same for `inet6_csum`: the checksum of a message computed with its field zero verifies
once stored, over the pseudo-header of the addresses it is given. -/
theorem inet6Csum_store (pre post src dst : List UInt8) (n nh : Nat) (hpre : pre.length % 2 = 0)
    (hn : pre.length + 2 + post.length = n) (hb : n < 2 ^ 16) (hs : src.length = 16)
    (hd : dst.length = 16) (hnh : nh < 256) :
    inet6Csum (pre ++ le16 (inet6Csum (pre ++ le16 0 ++ post ++ src ++ dst) 0 n n (n + 16) nh) ++
      post ++ src ++ dst) 0 n n (n + 16) nh = 0 := by
  have hl : ∀ c, (pre ++ le16 c ++ post).length = n := fun c => by simp [le16]; omega
  have key : ∀ c, inet6Csum (pre ++ le16 c ++ post ++ src ++ dst) 0 n n (n + 16) nh =
      csumFold (u32 (wordSum src + wordSum dst + (n / 2 ^ 24 % 256 + 256 * (n / 2 ^ 16 % 256) +
        (n / 2 ^ 8 % 256 + 256 * (n % 256)) + 256 * nh) + wordSum (pre ++ le16 c ++ post))) :=
    fun c => by
      have := inet6Csum_eq_wordSum (pre ++ le16 c ++ post) src dst nh hs hd (by rw [hl]; omega)
      rwa [hl] at this
  have := wordSum_le pre
  have := wordSum_le post
  have := wordSum_le src
  have := wordSum_le dst
  rw [key, key]
  exact csumFold_store _ pre post hpre (by rw [hs, hd] at *; omega)

/-! ### The packed structures -/

/-- `mcb_ethernet_t`. -/
structure Ethernet where
  dst : List UInt8
  src : List UInt8
  type : Nat

/-- The image of `mcb_ethernet_t`. -/
def Ethernet.bytes (e : Ethernet) : List UInt8 := e.dst ++ e.src ++ le16 e.type

/-- `mcb_ip4_t`: `header_len` and `version` are the low and the high half of its first byte. -/
structure Ip4 where
  headerLen : Nat
  version : Nat
  tos : Nat
  totalLen : Nat
  id : Nat
  offset : Nat
  ttl : Nat
  protocol : Nat
  csum : Nat
  src : List UInt8
  dst : List UInt8

/-- The image of `mcb_ip4_t`. -/
def Ip4.bytes (ip : Ip4) : List UInt8 :=
  [(ip.headerLen % 16 + ip.version % 16 * 16).toUInt8, ip.tos.toUInt8] ++ le16 ip.totalLen ++
    le16 ip.id ++ le16 ip.offset ++ [ip.ttl.toUInt8, ip.protocol.toUInt8] ++ le16 ip.csum ++
    ip.src ++ ip.dst

/-- `mcb_ip4_ra_opt_t`. -/
structure Ip4RaOpt where
  type : Nat
  length : Nat
  value : Nat

/-- The image of `mcb_ip4_ra_opt_t`. -/
def Ip4RaOpt.bytes (ra : Ip4RaOpt) : List UInt8 :=
  [ra.type.toUInt8, ra.length.toUInt8] ++ le16 ra.value

/-- `mcb_igmp_v3_query_t` without sources: `qrv`, `s_flag` and `reserved_flags` share byte 8, low
bits first. -/
structure IgmpV3Query where
  type : Nat
  code : Nat
  csum : Nat
  group : List UInt8
  qrv : Nat
  sFlag : Nat
  reservedFlags : Nat
  qqic : Nat
  numSrcs : Nat

/-- The image of `mcb_igmp_v3_query_t`. -/
def IgmpV3Query.bytes (q : IgmpV3Query) : List UInt8 :=
  [q.type.toUInt8, q.code.toUInt8] ++ le16 q.csum ++ q.group ++
    [(q.qrv % 8 + q.sFlag % 2 * 8 + q.reservedFlags % 16 * 16).toUInt8, q.qqic.toUInt8] ++
    le16 q.numSrcs

/-- `mcb_mrd_advertisement_t`, common to IGMP and MLD. -/
structure MrdAdvertisement where
  type : Nat
  interval : Nat
  csum : Nat
  qqi : Nat
  qrv : Nat

/-- The image of `mcb_mrd_advertisement_t`. -/
def MrdAdvertisement.bytes (m : MrdAdvertisement) : List UInt8 :=
  [m.type.toUInt8, m.interval.toUInt8] ++ le16 m.csum ++ le16 m.qqi ++ le16 m.qrv

/-- A buffer of the IGMP code: the headers `ethernet`, `ip` and `ip_ra` point at, and the message
after them. -/
structure Ip4Frame (Msg : Type) where
  ethernet : Ethernet
  ip : Ip4
  ipRa : Ip4RaOpt
  msg : Msg

/-- The bytes `pcap_inject` sends, `image` giving the message's. -/
def Ip4Frame.bytes {Msg : Type} (image : Msg → List UInt8) (f : Ip4Frame Msg) : List UInt8 :=
  f.ethernet.bytes ++ f.ip.bytes ++ f.ipRa.bytes ++ image f.msg

/-- The message of a frame whose headers take 38 bytes starts at offset 38. -/
theorem Ip4Frame.slice_msg {Msg : Type} (image : Msg → List UInt8) (f : Ip4Frame Msg) (n : Nat)
    (h : (f.ethernet.bytes ++ f.ip.bytes ++ f.ipRa.bytes).length = 38) :
    slice (f.bytes image) 38 n = (image f.msg).take n := by
  rw [slice, Ip4Frame.bytes, List.drop_left' h]

/-- An IPv4 header checksum computed with the field zero verifies over the header and the Router
Alert option. -/
theorem Ip4.csum_store (ip : Ip4) (ra : Ip4RaOpt) (hs : ip.src.length = 4)
    (hd : ip.dst.length = 4) :
    inetCsum ({ ip with csum := inetCsum ({ ip with csum := 0 }.bytes ++ ra.bytes) 0 (20 + 4) }.bytes ++
      ra.bytes) 0 (20 + 4) = 0 := by
  have := inetCsum_store ([(ip.headerLen % 16 + ip.version % 16 * 16).toUInt8, ip.tos.toUInt8] ++
    le16 ip.totalLen ++ le16 ip.id ++ le16 ip.offset ++ [ip.ttl.toUInt8, ip.protocol.toUInt8])
    (ip.src ++ ip.dst ++ ra.bytes) (20 + 4) (by simp [le16]) (by simp [le16, hs, hd, Ip4RaOpt.bytes])
    (by decide)
  simpa only [Ip4.bytes, List.append_assoc] using this

theorem IgmpV3Query.csum_store (q : IgmpV3Query) (hg : q.group.length = 4) :
    inetCsum { q with csum := inetCsum { q with csum := 0 }.bytes 0 12 }.bytes 0 12 = 0 := by
  have := inetCsum_store [q.type.toUInt8, q.code.toUInt8] (q.group ++
    [(q.qrv % 8 + q.sFlag % 2 * 8 + q.reservedFlags % 16 * 16).toUInt8, q.qqic.toUInt8] ++
    le16 q.numSrcs) 12 (by simp) (by simp [le16, hg]) (by decide)
  simpa only [IgmpV3Query.bytes, List.append_assoc] using this

theorem MrdAdvertisement.csum_store (m : MrdAdvertisement) :
    inetCsum { m with csum := inetCsum { m with csum := 0 }.bytes 0 8 }.bytes 0 8 = 0 := by
  have := inetCsum_store [m.type.toUInt8, m.interval.toUInt8] (le16 m.qqi ++ le16 m.qrv) 8 (by simp)
    (by simp [le16]) (by decide)
  simpa only [MrdAdvertisement.bytes, List.append_assoc] using this

theorem land_seven (x : Nat) : x &&& 7 = x % 8 := Nat.and_pow_two_sub_one_eq_mod x 3

/-- `handle_igmp_query` reads back the fields of a query's image. -/
theorem igmpQuery_bytes (q : IgmpV3Query) {g : Nat} (hg : q.group = beBytes g 4) :
    igmpQuery q.bytes = ⟨true, g % 2 ^ 32, q.sFlag % 2 = 1, q.qrv % 8,
      timecode8bitDecode (q.qqic % 256), timecode8bitDecode (q.code % 256)⟩ := by
  obtain ⟨type, code, csum, group, qrv, sFlag, res, qqic, numSrcs⟩ := q
  subst hg
  have ha : rdAddr (IgmpV3Query.bytes ⟨type, code, csum, beBytes g 4, qrv, sFlag, res, qqic,
      numSrcs⟩) 4 4 = g % 2 ^ 32 := rdAddr_of_slice rfl
  have h8 : rd8 (IgmpV3Query.bytes ⟨type, code, csum, beBytes g 4, qrv, sFlag, res, qqic,
      numSrcs⟩) 8 = qrv % 8 + sFlag % 2 * 8 + res % 16 * 16 := by
    show (qrv % 8 + sFlag % 2 * 8 + res % 16 * 16) % 256 = _
    omega
  simp only [igmpQuery, ha, h8, Query.mk.injEq, Nat.shiftRight_eq_div_pow, Nat.and_one_is_mod,
    land_seven]
  exact ⟨rfl, trivial, by simp; omega, by omega, rfl, rfl⟩

/-! ### The builders -/

/-- `allhosts_addr`, set by `initialize_igmp` before any packet is built. -/
def allhostsAddr : Nat := 0xe0000001

/-- `allsnoopers_addr`, set by `initialize_igmp` before any packet is built. -/
def allsnoopersAddr : Nat := 0xe000006a

/-- `ethernet->dst[3]` to `dst[5]` for an IPv4 group: the low 23 bits of the address. -/
def ip4MacTail (addr : Nat) : List UInt8 :=
  let m := beBytes addr 4
  [m.getD 1 0 &&& 0x7f, m.getD 2 0, m.getD 3 0]

theorem foldl_ip4MacTail (d acc : Nat) :
    (ip4MacTail d).foldl (fun a b => a * 256 + b.toNat) acc = acc * 2 ^ 24 + d % 2 ^ 32 % 2 ^ 23 := by
  have h7 : ∀ x : Nat, x &&& 0x7f = x % 128 := fun x => Nat.and_pow_two_sub_one_eq_mod x 7
  simp only [ip4MacTail, beBytes, List.getD_cons_succ, List.getD_cons_zero, List.foldl_cons,
    List.foldl_nil, UInt8.and_toNat, toNat_toUInt8]
  rw [show UInt8.toNat 127 = 0x7f from rfl, h7]
  omega

/-- The zeroed buffer `memset` leaves, `zero` being the zeroed message. -/
def Ip4Frame.zero {Msg : Type} (zero : Msg) : Ip4Frame Msg :=
  ⟨⟨List.replicate 6 0, List.replicate 6 0, 0⟩,
    ⟨0, 0, 0, 0, 0, 0, 0, 0, 0, List.replicate 4 0, List.replicate 4 0⟩, ⟨0, 0, 0⟩, zero⟩

/-- The stores both IGMP builders make to the headers of their zeroed buffer, for a datagram of
`totalLen` bytes from `a`: Ethernet type, the first half of the destination, the source MAC
address, the IP header but its destination and checksum, and the Router Alert option. -/
def igmpBuildHeaders {Msg : Type} (zero : Msg) (mac a totalLen : Nat) : Ip4Frame Msg :=
  let f := Ip4Frame.zero zero
  let f := { f with ethernet.type := htons 0x0800 }
  let f := { f with ethernet.dst := setBytes f.ethernet.dst 0 [0x01, 0x00, 0x5e] }
  let f := { f with ethernet.src := beBytes mac 6 }
  let f := { f with ip.version := 4, ip.headerLen := (20 + 4) / 4, ip.totalLen := htons totalLen }
  let f := { f with ip.offset := htons 0x4000, ip.tos := 0xc0, ip.ttl := 1, ip.protocol := 2 }
  let f := { f with ip.src := beBytes a 4 }
  { f with ipRa.type := 0x94, ipRa.length := 4, ipRa.value := 0 }

/-- `igmp_build_mrd_advertisement_packet` for an interface with MAC address `mac` and address
`a`. -/
def igmpBuildMrdAdvertisementPacket (mac a : Nat) : Ip4Frame MrdAdvertisement :=
  let f := igmpBuildHeaders (⟨0, 0, 0, 0, 0⟩ : MrdAdvertisement) mac a (20 + 4 + 8)
  let f := { f with ethernet.dst := setBytes f.ethernet.dst 3 (ip4MacTail allsnoopersAddr) }
  let f := { f with ip.dst := beBytes allsnoopersAddr 4 }
  let f := { f with msg.type := 0x30, msg.interval := 20, msg.qqi := htons 125, msg.qrv := htons 2 }
  let f := { f with ip.csum := inetCsum (f.ip.bytes ++ f.ipRa.bytes) 0 (20 + 4) }
  { f with msg.csum := inetCsum f.msg.bytes 0 8 }

/-- `igmp_build_query_packets`: the `specific_query_packet` and the `general_query_packet` of an
interface with MAC address `mac` and address `a`.  The first is copied before the destination,
the checksums and the group are set. -/
def igmpBuildQueryPackets (mac a : Nat) : Ip4Frame IgmpV3Query × Ip4Frame IgmpV3Query :=
  let f := igmpBuildHeaders (⟨0, 0, 0, List.replicate 4 0, 0, 0, 0, 0, 0⟩ : IgmpV3Query) mac a (20 + 4 + 12)
  let f := { f with msg.type := 0x11, msg.qrv := 2, msg.qqic := 125 }
  let f := { f with msg.code := 10 }
  let specific := f
  let f := { f with ethernet.dst := setBytes f.ethernet.dst 3 (ip4MacTail allhostsAddr) }
  let f := { f with ip.dst := beBytes allhostsAddr 4 }
  let f := { f with ip.csum := inetCsum (f.ip.bytes ++ f.ipRa.bytes) 0 (20 + 4) }
  let f := { f with msg.code := 100 }
  (specific, { f with msg.csum := inetCsum f.msg.bytes 0 12 })

/-- The stores of `send_group_specific_query` to `specific_query_packet`, for the group `mcast`,
`sFlag` being whether `group_queries_remaining` differs from `querier_robustness`. -/
def igmpSendGroupSpecificQueryPacket (f : Ip4Frame IgmpV3Query) (mcast : Nat) (sFlag : Bool) :
    Ip4Frame IgmpV3Query :=
  let f := { f with ethernet.dst := setBytes f.ethernet.dst 3 (ip4MacTail mcast) }
  let f := { f with ip.dst := beBytes mcast 4, msg.group := beBytes mcast 4 }
  let f := { f with msg.sFlag := if sFlag then 1 else 0 }
  let f := { f with ip.csum := 0 }
  let f := { f with ip.csum := inetCsum (f.ip.bytes ++ f.ipRa.bytes) 0 (20 + 4) }
  let f := { f with msg.csum := 0 }
  { f with msg.csum := inetCsum f.msg.bytes 0 12 }

/-- A send overwrites every field an earlier send patched. -/
theorem igmpSendGroupSpecificQueryPacket_twice (f : Ip4Frame IgmpV3Query) (m₁ m : Nat)
    (s₁ s : Bool) :
    igmpSendGroupSpecificQueryPacket (igmpSendGroupSpecificQueryPacket f m₁ s₁) m s =
      igmpSendGroupSpecificQueryPacket f m s := by
  simp only [igmpSendGroupSpecificQueryPacket]
  rw [setBytes_setBytes _ 3 (ip4MacTail m₁) (ip4MacTail m) rfl]

/-- What an injected frame does to `specific_query_packet` of interface `i`. -/
def igmpSpecificQueryStep (i : Nat) (f : Ip4Frame IgmpV3Query) : Injected → Ip4Frame IgmpV3Query
  | .groupSpecificQuery j g sFlag => if j = i then igmpSendGroupSpecificQueryPacket f g sFlag else f
  | _ => f

/-- `specific_query_packet` of interface `i` after the frames of `log`. -/
def igmpSpecificQueryPacket (mac a i : Nat) (log : List Injected) : Ip4Frame IgmpV3Query :=
  log.foldl (igmpSpecificQueryStep i) (igmpBuildQueryPackets mac a).1

/-- The bytes `pcap_inject` sends for `p` on an interface with MAC address `mac` and address `a`,
after the frames of `log`. -/
def igmpInjectedBytes (mac a : Nat) (log : List Injected) : Injected → List UInt8
  | .mrdAdvertisement _ => (igmpBuildMrdAdvertisementPacket mac a).bytes MrdAdvertisement.bytes
  | .generalQuery _ => (igmpBuildQueryPackets mac a).2.bytes IgmpV3Query.bytes
  | .groupSpecificQuery i g sFlag =>
    (igmpSendGroupSpecificQueryPacket (igmpSpecificQueryPacket mac a i log) g sFlag).bytes
      IgmpV3Query.bytes

/-- The packet a send patches behaves as `T` does, after any frames, if it did before. -/
theorem send_foldl_igmpSpecificQueryStep (i : Nat) (T : Ip4Frame IgmpV3Query) :
    ∀ (log : List Injected) (f : Ip4Frame IgmpV3Query),
      (∀ g sFlag, igmpSendGroupSpecificQueryPacket f g sFlag =
        igmpSendGroupSpecificQueryPacket T g sFlag) →
      ∀ g sFlag, igmpSendGroupSpecificQueryPacket (log.foldl (igmpSpecificQueryStep i) f) g sFlag =
        igmpSendGroupSpecificQueryPacket T g sFlag
  | [], _, hf => hf
  | p :: log, f, hf => by
    refine send_foldl_igmpSpecificQueryStep i T log _ fun g sFlag => ?_
    rcases p with _ | _ | ⟨j, g', s'⟩
    · exact hf g sFlag
    · exact hf g sFlag
    · by_cases hj : j = i
      · simp only [igmpSpecificQueryStep, hj, if_true, igmpSendGroupSpecificQueryPacket_twice, hf]
      · simp only [igmpSpecificQueryStep, hj, if_false, hf]

/-- Whatever was sent before, a group-specific query is the template patched once. -/
theorem send_igmpSpecificQueryPacket (mac a i g : Nat) (sFlag : Bool) (log : List Injected) :
    igmpSendGroupSpecificQueryPacket (igmpSpecificQueryPacket mac a i log) g sFlag =
      igmpSendGroupSpecificQueryPacket (igmpBuildQueryPackets mac a).1 g sFlag :=
  send_foldl_igmpSpecificQueryStep i _ log _ (fun _ _ => rfl) g sFlag

/-! ### What `igmp_receive` makes of the frames -/

/-- `ntohs` undoes `htons`: a 16-bit field stored with `htons` reads back. -/
theorem rd16_of_slice {frame : List UInt8} {off t : Nat} (h : slice frame off 2 = le16 (htons t))
    (ht : t < 2 ^ 16) : rd16 frame off = t := by
  rw [rd16, ← Nat.add_zero off, ← rd8_slice (Nat.zero_lt_two), Nat.add_zero,
    ← rd8_slice (Nat.one_lt_two), h]
  show htons t % 256 * 256 + htons t / 256 % 256 = t
  have h₁ : htons t % 256 = t / 256 := by unfold htons; omega
  have h₂ : htons t / 256 = t % 256 := by unfold htons; omega
  rw [h₁, h₂, Nat.mod_mod]; omega

/-- The IP header every IGMP frame carries, for a datagram of `totalLen` bytes from `a` to `d`. -/
def igmpIp (a totalLen d csum : Nat) : Ip4 :=
  ⟨(20 + 4) / 4, 4, 0xc0, htons totalLen, 0, htons 0x4000, 1, 2, csum, beBytes a 4, beBytes d 4⟩

/-- The Router Alert option every IGMP frame carries. -/
def igmpRa : Ip4RaOpt := ⟨0x94, 4, 0⟩

/-- The form every frame the IGMP code injects has: the headers for a datagram of `totalLen` bytes
from `a` to `d`, the IP checksum stored, and the message `m`. -/
def igmpFinished {Msg : Type} (mac a totalLen d : Nat) (m : Msg) : Ip4Frame Msg :=
  ⟨⟨setBytes (setBytes (List.replicate 6 0) 0 [0x01, 0x00, 0x5e]) 3 (ip4MacTail d), beBytes mac 6,
      htons 0x0800⟩,
    igmpIp a totalLen d (inetCsum ((igmpIp a totalLen d 0).bytes ++ igmpRa.bytes) 0 (20 + 4)),
    igmpRa, m⟩

/-- A finished frame passes every check of `igmp_receive` on an interface whose address is not
the sender's, and its message is dispatched; its Ethernet destination is `01:00:5e` and the low
23 bits of its IP destination. -/
theorem igmpFinished_received {Msg : Type} (image : Msg → List UInt8) (mac a d ifAddr len : Nat)
    (m : Msg) (hlen : (image m).length = len) (h8 : 8 ≤ len) (hb : len < 2 ^ 16 - 24)
    (hmsg : inetCsum (image m) 0 len = 0) :
    let F := (igmpFinished mac a (20 + 4 + len) d m).bytes image
    (igmpFrame ifAddr F).1 = (if a % 2 ^ 32 = ifAddr then none else some ⟨a % 2 ^ 32, 38, len⟩) ∧
      slice F 38 len = image m ∧ rdAddr F 30 4 = d % 2 ^ 32 ∧
      rdAddr F 0 6 = 0x01005e000000 + rdAddr F 30 4 % 2 ^ 23 := by
  intro F
  have hF : F.length = 38 + len := by
    simp [F, Ip4Frame.bytes, Ethernet.bytes, Ip4.bytes, Ip4RaOpt.bytes, le16, igmpFinished, igmpIp,
      setBytes, hlen]
    omega
  have hm : slice F 38 len = image m := by
    rw [Ip4Frame.slice_msg image (igmpFinished mac a (20 + 4 + len) d m) len rfl]
    exact List.take_of_length_le (Nat.le_of_eq hlen)
  -- the IP header and its option are read through their own 24 bytes, not through the frame
  have hH : slice F 14 24 =
      (igmpFinished mac a (20 + 4 + len) d m).ip.bytes ++ igmpRa.bytes := rfl
  have hip : inetCsum F 14 (20 + 4) = 0 := by
    rw [inetCsum_slice (by omega), hH]
    exact Ip4.csum_store (igmpIp a (20 + 4 + len) d 0) igmpRa rfl rfl
  have hip8 : ∀ k, k < 24 → rd8 F (14 + k) =
      rd8 ((igmpFinished mac a (20 + 4 + len) d m).ip.bytes ++ igmpRa.bytes) k :=
    fun k hk => by rw [← hH, rd8_slice hk]
  have hd : rdAddr F 30 4 = d % 2 ^ 32 := by
    rw [show 30 = 14 + 16 from rfl, ← rdAddr_slice (by decide : 16 + 4 ≤ 24), hH]
    exact rdAddr_of_slice rfl
  have ha : rdAddr F 26 4 = a % 2 ^ 32 := by
    rw [show 26 = 14 + 12 from rfl, ← rdAddr_slice (by decide : 12 + 4 ≤ 24), hH]
    exact rdAddr_of_slice rfl
  have he : rdAddr F 0 6 = 0x01005e000000 + d % 2 ^ 32 % 2 ^ 23 := by
    rw [rdAddr, show (F.drop 0).take 6 = [0x01, 0x00, 0x5e] ++ ip4MacTail d from rfl,
      List.foldl_append, foldl_ip4MacTail]
    rfl
  refine ⟨?_, hm, hd, by rw [hd]; exact he⟩
  rw [igmpFrame_accept (rd16_of_slice (show slice F 12 2 = le16 (htons 0x0800) from rfl)
      (by decide))
    (show rd8 F 14 % 16 * 4 = 20 + 4 by rw [show rd8 F 14 = 0x46 from hip8 0 (by decide)])
    (Nat.le_refl _) hip
    (by rw [show 16 = 14 + 2 from rfl, ← rd16_slice (by decide : 2 + 1 < 24), hH]
        exact rd16_of_slice rfl (by omega))
    (by omega) ((hip8 9 (by decide)).trans rfl) ((hip8 20 (by decide)).trans rfl)
    ((hip8 21 (by decide)).trans rfl) h8
    (by rw [inetCsum_slice (by omega), hm]; exact hmsg), ha]

/-- The advertisement `igmp_build_mrd_advertisement_packet` finishes, its checksum stored. -/
def igmpMrdAdvertisementMsg : MrdAdvertisement :=
  let m : MrdAdvertisement := ⟨0x30, 20, 0, htons 125, htons 2⟩
  { m with csum := inetCsum m.bytes 0 8 }

/-- A query the IGMP code finishes, for `code`, `group` and the S flag, its checksum stored. -/
def igmpQueryMsg (code group : Nat) (sFlag : Bool) : IgmpV3Query :=
  let q : IgmpV3Query := ⟨0x11, code, 0, beBytes group 4, 2, if sFlag then 1 else 0, 0, 125, 0⟩
  { q with csum := inetCsum q.bytes 0 12 }

theorem igmpBuildMrdAdvertisementPacket_eq (mac a : Nat) :
    igmpBuildMrdAdvertisementPacket mac a =
      igmpFinished mac a (20 + 4 + 8) allsnoopersAddr igmpMrdAdvertisementMsg := rfl

theorem igmpBuildQueryPackets_snd (mac a : Nat) :
    (igmpBuildQueryPackets mac a).2 =
      igmpFinished mac a (20 + 4 + 12) allhostsAddr (igmpQueryMsg 100 0 false) := rfl

theorem igmpSendGroupSpecificQueryPacket_eq (mac a g : Nat) (sFlag : Bool) :
    igmpSendGroupSpecificQueryPacket (igmpBuildQueryPackets mac a).1 g sFlag =
      igmpFinished mac a (20 + 4 + 12) g (igmpQueryMsg 10 g sFlag) := rfl

theorem igmpQuery_igmpQueryMsg (code group : Nat) (sFlag : Bool) :
    igmpQuery (igmpQueryMsg code group sFlag).bytes =
      ⟨true, group % 2 ^ 32, sFlag, 2, 125, timecode8bitDecode (code % 256)⟩ := by
  rw [igmpQueryMsg, igmpQuery_bytes _ rfl]
  cases sFlag <;> rfl

theorem inetCsum_igmpQueryMsg (code group : Nat) (sFlag : Bool) :
    inetCsum (igmpQueryMsg code group sFlag).bytes 0 12 = 0 :=
  IgmpV3Query.csum_store _ (length_beBytes group 4)

/-- The frame `send_group_specific_query` records: the slot's address, and an S flag clear exactly
when `group_queries_remaining` is `querier_robustness`. -/
theorem sendGroupSpecificQuery_injected (P : Proto) (s : Sys) (i g : Nat) :
    ∃ sFlag, (sendGroupSpecificQuery P s i g).injected =
      s.injected ++ [.groupSpecificQuery i (s.group i g).mcastAddr sFlag] ∧
      (sFlag = false ↔ (s.group i g).groupQueriesRemaining = (s.iface i).querierRobustness) := by
  refine ⟨(s.group i g).groupQueriesRemaining != (s.iface i).querierRobustness, ?_, by simp⟩
  simp only [sendGroupSpecificQuery]
  split
  · rw [Sys.injected_addTimer]; rfl
  · rfl

/-- **Every frame the IGMP code injects reaches the type dispatch of `igmp_receive`** on an
interface whose address is not the sender's, whatever was sent before it: the advertisement as
type `0x30`, the general query as a v3 query for group `0` with code `100`, a group-specific
query as a v3 query for its group with code `10`, QRV 2, QQIC 125 and its S flag, which
`send_group_specific_query` clears exactly when `group_queries_remaining` is
`querier_robustness`.  Each frame's Ethernet destination is `01:00:5e` followed by the low 23 bits
of its IP destination. -/
theorem igmp_injected_frames_received (mac a ifAddr : Nat) :
    (∀ (log : List Injected) (p : Injected),
      let F := igmpInjectedBytes mac a log p
      rdAddr F 0 6 = 0x01005e000000 + rdAddr F 30 4 % 2 ^ 23 ∧
      match p with
      | .mrdAdvertisement _ =>
        (igmpFrame ifAddr F).1 = (if a % 2 ^ 32 = ifAddr then none else some ⟨a % 2 ^ 32, 38, 8⟩) ∧
          rd8 (slice F 38 8) 0 = 0x30
      | .generalQuery _ =>
        (igmpFrame ifAddr F).1 = (if a % 2 ^ 32 = ifAddr then none else some ⟨a % 2 ^ 32, 38, 12⟩) ∧
          rd8 (slice F 38 12) 0 = 0x11 ∧ igmpQuery (slice F 38 12) = ⟨true, 0, false, 2, 125, 100⟩
      | .groupSpecificQuery _ g sFlag =>
        (igmpFrame ifAddr F).1 = (if a % 2 ^ 32 = ifAddr then none else some ⟨a % 2 ^ 32, 38, 12⟩) ∧
          rd8 (slice F 38 12) 0 = 0x11 ∧
          igmpQuery (slice F 38 12) = ⟨true, g % 2 ^ 32, sFlag, 2, 125, 10⟩) ∧
    ∀ (s : Sys) (i g : Nat), ∃ sFlag, (sendGroupSpecificQuery igmpProto s i g).injected =
      s.injected ++ [.groupSpecificQuery i (s.group i g).mcastAddr sFlag] ∧
      (sFlag = false ↔ (s.group i g).groupQueriesRemaining = (s.iface i).querierRobustness) := by
  refine ⟨fun log p => ?_, sendGroupSpecificQuery_injected igmpProto⟩
  · rcases p with i | i | ⟨i, g, sFlag⟩
    · obtain ⟨h₁, h₂, -, h₄⟩ := igmpFinished_received MrdAdvertisement.bytes mac a allsnoopersAddr
        ifAddr 8 igmpMrdAdvertisementMsg rfl (by decide) (by decide)
        (MrdAdvertisement.csum_store _)
      dsimp only [igmpInjectedBytes]
      rw [igmpBuildMrdAdvertisementPacket_eq, h₂]
      exact ⟨h₄, h₁, rfl⟩
    · obtain ⟨h₁, h₂, -, h₄⟩ := igmpFinished_received IgmpV3Query.bytes mac a allhostsAddr ifAddr
        12 (igmpQueryMsg 100 0 false) (by simp [IgmpV3Query.bytes, igmpQueryMsg, le16])
        (by decide) (by decide) (inetCsum_igmpQueryMsg _ _ _)
      dsimp only [igmpInjectedBytes]
      rw [igmpBuildQueryPackets_snd, h₂, igmpQuery_igmpQueryMsg]
      exact ⟨h₄, h₁, rfl, rfl⟩
    · obtain ⟨h₁, h₂, -, h₄⟩ := igmpFinished_received IgmpV3Query.bytes mac a g ifAddr 12
        (igmpQueryMsg 10 g sFlag) (by simp [IgmpV3Query.bytes, igmpQueryMsg, le16])
        (by decide) (by decide) (inetCsum_igmpQueryMsg _ _ _)
      dsimp only [igmpInjectedBytes]
      rw [send_igmpSpecificQueryPacket, igmpSendGroupSpecificQueryPacket_eq, h₂,
        igmpQuery_igmpQueryMsg]
      exact ⟨h₄, h₁, rfl, rfl⟩

end McastBridge
