import McastBridge.Packets
/-
**The frames the MLD code builds, and what `mld_receive` makes of them.**

`mld_build_mrd_advertisement_packet` and `mld_build_query_packets` fill a zeroed buffer through
pointers to `mcb_ethernet_t`, `mcb_ip6_t`, `mcb_ip6_hbh_t` (with the Router Alert and PadN options
at `options[0]` and `options[4]`) and the message, and `send_group_specific_query` patches the
interface's one `specific_query_packet` before each injection, as on the IGMP side
(`McastBridge.Packets`).  The ICMPv6 checksum covers the pseudo-header of RFC 2460, so a patched
destination changes the sum: `inet6_csum` is given pointers to the message and to the source and
destination addresses of the buffer, and a send recomputes the checksum after it rewrote the
destination.

Main definitions:

* `McastBridge.Ip6`, `McastBridge.Ip6Hbh`, `McastBridge.MldV2Query`, `McastBridge.Ip6Frame` — the
  packed structures and their images;
* `McastBridge.mldBuildMrdAdvertisementPacket`, `McastBridge.mldBuildQueryPackets`,
  `McastBridge.mldSendGroupSpecificQueryPacket` — the builders and the patch;
* `McastBridge.mldInjectedBytes` — the bytes of an injected frame, given the frames before it.

Main results:

* `McastBridge.mldSendGroupSpecificQueryPacket_twice` — the last send decides the packet;
* `McastBridge.mldQuery_bytes` — `handle_mld_query` reads back the fields of a query's image;
* `McastBridge.mld_injected_frames_received` — every query the MLD code injects passes the checks
  of `mld_receive` on another interface and reaches `handle_mld_query` as a 28-byte v2 query with
  the fields it was built from, and the advertisement's checksum verifies.
-/

set_option relaxedAutoImplicit false
set_option autoImplicit false

namespace McastBridge

/-! ### The packed structures -/

/-- The image of a `uint32_t` on the little-endian host. -/
def le32 (x : Nat) : List UInt8 :=
  [x.toUInt8, (x / 2 ^ 8).toUInt8, (x / 2 ^ 16).toUInt8, (x / 2 ^ 24).toUInt8]

/-- `htonl`: the value whose little-endian image is `x` in network byte order. -/
def htonl (x : Nat) : Nat :=
  x % 256 * 2 ^ 24 + x / 2 ^ 8 % 256 * 2 ^ 16 + x / 2 ^ 16 % 256 * 2 ^ 8 + x / 2 ^ 24 % 256

/-- `mcb_ip6_t`. -/
structure Ip6 where
  vTcFlow : Nat
  payloadLen : Nat
  nextHeader : Nat
  hopLimit : Nat
  src : List UInt8
  dst : List UInt8

/-- The image of `mcb_ip6_t`. -/
def Ip6.bytes (ip : Ip6) : List UInt8 :=
  le32 ip.vTcFlow ++ le16 ip.payloadLen ++ [ip.nextHeader.toUInt8, ip.hopLimit.toUInt8] ++ ip.src ++
    ip.dst

/-- `mcb_ip6_hbh_t`: the options are six bytes, a Router Alert `mcb_ip6_ra_t` at `options[0]` and
a PadN `mcb_ip6_padn_t` at `options[4]`. -/
structure Ip6Hbh where
  nextHeader : Nat
  headerLen : Nat
  options : List UInt8

/-- The image of `mcb_ip6_hbh_t`. -/
def Ip6Hbh.bytes (h : Ip6Hbh) : List UInt8 := [h.nextHeader.toUInt8, h.headerLen.toUInt8] ++ h.options

/-- `mcb_mld_v2_query_t` without sources: `qrv`, `s_flag` and `reserved_flags` share byte 24, low
bits first. -/
structure MldV2Query where
  type : Nat
  code : Nat
  csum : Nat
  response : Nat
  reserved : Nat
  group : List UInt8
  qrv : Nat
  sFlag : Nat
  reservedFlags : Nat
  qqic : Nat
  numSrcs : Nat

/-- The image of `mcb_mld_v2_query_t`. -/
def MldV2Query.bytes (q : MldV2Query) : List UInt8 :=
  [q.type.toUInt8, q.code.toUInt8] ++ le16 q.csum ++ le16 q.response ++ le16 q.reserved ++
    q.group ++
    [(q.qrv % 8 + q.sFlag % 2 * 8 + q.reservedFlags % 16 * 16).toUInt8, q.qqic.toUInt8] ++
    le16 q.numSrcs

/-- A buffer of the MLD code: the headers `ethernet`, `ip` and `ip_hbh` point at, and the message
after them. -/
structure Ip6Frame (Msg : Type) where
  ethernet : Ethernet
  ip : Ip6
  ipHbh : Ip6Hbh
  msg : Msg

/-- The bytes `pcap_inject` sends, `image` giving the message's. -/
def Ip6Frame.bytes {Msg : Type} (image : Msg → List UInt8) (f : Ip6Frame Msg) : List UInt8 :=
  f.ethernet.bytes ++ f.ip.bytes ++ f.ipHbh.bytes ++ image f.msg

/-- The message of a frame whose headers take 62 bytes starts at offset 62. -/
theorem Ip6Frame.slice_msg {Msg : Type} (image : Msg → List UInt8) (f : Ip6Frame Msg) (n : Nat)
    (h : (f.ethernet.bytes ++ f.ip.bytes ++ f.ipHbh.bytes).length = 62) :
    slice (f.bytes image) 62 n = (image f.msg).take n := by
  rw [slice, Ip6Frame.bytes, List.drop_left' h]

/-- `handle_mld_query` reads back the fields of a query's image. -/
theorem mldQuery_bytes (q : MldV2Query) {g r : Nat} (hg : q.group = beBytes g 16)
    (hr : q.response = htons r) (hr' : r < 2 ^ 16) :
    mldQuery q.bytes = ⟨true, g % 2 ^ 128, q.sFlag % 2 = 1, q.qrv % 8,
      timecode8bitDecode (q.qqic % 256), timecode16bitDecode r⟩ := by
  obtain ⟨type, code, csum, response, reserved, group, qrv, sFlag, res, qqic, numSrcs⟩ := q
  subst hg hr
  have ha : rdAddr (MldV2Query.bytes ⟨type, code, csum, htons r, reserved, beBytes g 16, qrv, sFlag,
      res, qqic, numSrcs⟩) 8 16 = g % 2 ^ 128 := rdAddr_of_slice rfl
  have h4 : rd16 (MldV2Query.bytes ⟨type, code, csum, htons r, reserved, beBytes g 16, qrv, sFlag,
      res, qqic, numSrcs⟩) 4 = r := rd16_of_slice rfl hr'
  have h24 : rd8 (MldV2Query.bytes ⟨type, code, csum, htons r, reserved, beBytes g 16, qrv, sFlag,
      res, qqic, numSrcs⟩) 24 = qrv % 8 + sFlag % 2 * 8 + res % 16 * 16 := by
    show (qrv % 8 + sFlag % 2 * 8 + res % 16 * 16) % 256 = _
    omega
  simp only [mldQuery, ha, h4, h24, Query.mk.injEq, Nat.shiftRight_eq_div_pow, Nat.and_one_is_mod,
    land_seven]
  exact ⟨rfl, trivial, by simp; omega, by omega, rfl, trivial⟩

/-! ### The builders -/

/-- `allnodes_addr`: `ff02::1`. -/
def allnodesAddr6 : Nat := 0xff020000000000000000000000000001

/-- `allsnoopers_addr` of the MLD code: `ff02::6a`. -/
def allsnoopersAddr6 : Nat := 0xff02000000000000000000000000006a

/-- The zeroed buffer `memset` leaves, `zero` being the zeroed message. -/
def Ip6Frame.zero {Msg : Type} (zero : Msg) : Ip6Frame Msg :=
  ⟨⟨List.replicate 6 0, List.replicate 6 0, 0⟩,
    ⟨0, 0, 0, 0, List.replicate 16 0, List.replicate 16 0⟩, ⟨0, 0, List.replicate 6 0⟩, zero⟩

/-- The stores both MLD builders make to the headers of their zeroed buffer, for a payload of
`payloadLen` bytes from `a`: Ethernet type, the first two bytes of the destination, the source MAC
address, the IPv6 header but its destination, and the Hop-by-Hop header with its options. -/
def mldBuildHeaders {Msg : Type} (zero : Msg) (mac a payloadLen : Nat) : Ip6Frame Msg :=
  let f := Ip6Frame.zero zero
  let f := { f with ethernet.type := htons 0x86dd }
  let f := { f with ethernet.dst := setBytes f.ethernet.dst 0 [0x33, 0x33] }
  let f := { f with ethernet.src := beBytes mac 6 }
  let f := { f with ip.vTcFlow := htonl 0x60000000, ip.payloadLen := htons payloadLen }
  let f := { f with ip.nextHeader := 0, ip.hopLimit := 1, ip.src := beBytes a 16 }
  let f := { f with ipHbh.nextHeader := 0x3a }
  let f := { f with ipHbh.options := setBytes f.ipHbh.options 0 [0x05, 2] }
  { f with ipHbh.options := setBytes f.ipHbh.options 4 [0x01] }

/-- `mld_build_mrd_advertisement_packet` for an interface with MAC address `mac` and link-local
address `a`. -/
def mldBuildMrdAdvertisementPacket (mac a : Nat) : Ip6Frame MrdAdvertisement :=
  let f := mldBuildHeaders (⟨0, 0, 0, 0, 0⟩ : MrdAdvertisement) mac a (8 + 8)
  let f := { f with
    ethernet.dst := setBytes f.ethernet.dst 2 ((beBytes allsnoopersAddr6 16).drop 12) }
  let f := { f with ip.dst := beBytes allsnoopersAddr6 16 }
  let f := { f with msg.type := 0x97, msg.interval := 20, msg.qqi := htons 125, msg.qrv := htons 2 }
  { f with msg.csum := inet6Csum (f.msg.bytes ++ f.ip.src ++ f.ip.dst) 0 8 8 (8 + 16) 0x3a }

/-- `mld_build_query_packets`: the `specific_query_packet` and the `general_query_packet` of an
interface with MAC address `mac` and link-local address `a`.  The first is copied before the
destination, the checksum and the group are set. -/
def mldBuildQueryPackets (mac a : Nat) : Ip6Frame MldV2Query × Ip6Frame MldV2Query :=
  let f := mldBuildHeaders (⟨0, 0, 0, 0, 0, List.replicate 16 0, 0, 0, 0, 0, 0⟩ : MldV2Query) mac a
    (8 + 28)
  let f := { f with msg.type := 0x82, msg.qrv := 2, msg.qqic := 125 }
  let f := { f with msg.response := htons 1000 }
  let specific := f
  let f := { f with ethernet.dst := setBytes f.ethernet.dst 2 ((beBytes allnodesAddr6 16).drop 12) }
  let f := { f with ip.dst := beBytes allnodesAddr6 16 }
  let f := { f with msg.response := htons 10000 }
  (specific,
    { f with msg.csum := inet6Csum (f.msg.bytes ++ f.ip.src ++ f.ip.dst) 0 28 28 (28 + 16) 0x3a })

/-- The stores of `send_group_specific_query` to `specific_query_packet`, for the group `mcast`,
`sFlag` being whether `group_queries_remaining` differs from `querier_robustness`. -/
def mldSendGroupSpecificQueryPacket (f : Ip6Frame MldV2Query) (mcast : Nat) (sFlag : Bool) :
    Ip6Frame MldV2Query :=
  let f := { f with ethernet.dst := setBytes f.ethernet.dst 2 ((beBytes mcast 16).drop 12) }
  let f := { f with ip.dst := beBytes mcast 16, msg.group := beBytes mcast 16 }
  let f := { f with msg.sFlag := if sFlag then 1 else 0 }
  let f := { f with msg.csum := 0 }
  { f with msg.csum := inet6Csum (f.msg.bytes ++ f.ip.src ++ f.ip.dst) 0 28 28 (28 + 16) 0x3a }

/-- A send overwrites every field an earlier send patched. -/
theorem mldSendGroupSpecificQueryPacket_twice (f : Ip6Frame MldV2Query) (m₁ m : Nat)
    (s₁ s : Bool) :
    mldSendGroupSpecificQueryPacket (mldSendGroupSpecificQueryPacket f m₁ s₁) m s =
      mldSendGroupSpecificQueryPacket f m s := by
  simp only [mldSendGroupSpecificQueryPacket]
  rw [setBytes_setBytes _ 2 ((beBytes m₁ 16).drop 12) ((beBytes m 16).drop 12) (by simp)]

/-- What an injected frame does to `specific_query_packet` of interface `i`. -/
def mldSpecificQueryStep (i : Nat) (f : Ip6Frame MldV2Query) : Injected → Ip6Frame MldV2Query
  | .groupSpecificQuery j g sFlag => if j = i then mldSendGroupSpecificQueryPacket f g sFlag else f
  | _ => f

/-- `specific_query_packet` of interface `i` after the frames of `log`. -/
def mldSpecificQueryPacket (mac a i : Nat) (log : List Injected) : Ip6Frame MldV2Query :=
  log.foldl (mldSpecificQueryStep i) (mldBuildQueryPackets mac a).1

/-- The bytes `pcap_inject` sends for `p` on an interface with MAC address `mac` and link-local
address `a`, after the frames of `log`. -/
def mldInjectedBytes (mac a : Nat) (log : List Injected) : Injected → List UInt8
  | .mrdAdvertisement _ => (mldBuildMrdAdvertisementPacket mac a).bytes MrdAdvertisement.bytes
  | .generalQuery _ => (mldBuildQueryPackets mac a).2.bytes MldV2Query.bytes
  | .groupSpecificQuery i g sFlag =>
    (mldSendGroupSpecificQueryPacket (mldSpecificQueryPacket mac a i log) g sFlag).bytes
      MldV2Query.bytes

/-- The packet a send patches behaves as `T` does, after any frames, if it did before. -/
theorem send_foldl_mldSpecificQueryStep (i : Nat) (T : Ip6Frame MldV2Query) :
    ∀ (log : List Injected) (f : Ip6Frame MldV2Query),
      (∀ g sFlag, mldSendGroupSpecificQueryPacket f g sFlag =
        mldSendGroupSpecificQueryPacket T g sFlag) →
      ∀ g sFlag, mldSendGroupSpecificQueryPacket (log.foldl (mldSpecificQueryStep i) f) g sFlag =
        mldSendGroupSpecificQueryPacket T g sFlag
  | [], _, hf => hf
  | p :: log, f, hf => by
    refine send_foldl_mldSpecificQueryStep i T log _ fun g sFlag => ?_
    rcases p with _ | _ | ⟨j, g', s'⟩
    · exact hf g sFlag
    · exact hf g sFlag
    · by_cases hj : j = i
      · simp only [mldSpecificQueryStep, hj, if_true, mldSendGroupSpecificQueryPacket_twice, hf]
      · simp only [mldSpecificQueryStep, hj, if_false, hf]

/-- Whatever was sent before, a group-specific query is the template patched once. -/
theorem send_mldSpecificQueryPacket (mac a i g : Nat) (sFlag : Bool) (log : List Injected) :
    mldSendGroupSpecificQueryPacket (mldSpecificQueryPacket mac a i log) g sFlag =
      mldSendGroupSpecificQueryPacket (mldBuildQueryPackets mac a).1 g sFlag :=
  send_foldl_mldSpecificQueryStep i _ log _ (fun _ _ => rfl) g sFlag

/-! ### What `mld_receive` makes of the frames -/

theorem inet6Csum_congr {F G : List UInt8} {off off' len s s' d d' nh : Nat}
    (hF : off + len ≤ F.length) (hG : off' + len ≤ G.length) (hsF : s + 16 ≤ F.length)
    (hsG : s' + 16 ≤ G.length) (hdF : d + 16 ≤ F.length) (hdG : d' + 16 ≤ G.length)
    (h₁ : slice F s 16 = slice G s' 16) (h₂ : slice F d 16 = slice G d' 16)
    (h₃ : slice F off len = slice G off' len) :
    inet6Csum F off len s d nh = inet6Csum G off' len s' d' nh := by
  unfold inet6Csum csumBody
  rw [csumSum_congr hsF hsG h₁, csumSum_congr hdF hdG h₂, csumSum_congr hF hG h₃]

/-- The IPv6 header every MLD frame carries, for a payload of `payloadLen` bytes from `a` to
`d`. -/
def mldIp (a payloadLen d : Nat) : Ip6 :=
  ⟨htonl 0x60000000, htons payloadLen, 0, 1, beBytes a 16, beBytes d 16⟩

/-- The Hop-by-Hop header every MLD frame carries: Router Alert, then PadN. -/
def mldHbh : Ip6Hbh := ⟨0x3a, 0, setBytes (setBytes (List.replicate 6 0) 0 [0x05, 2]) 4 [0x01]⟩

/-- The form every frame the MLD code injects has: the headers for a payload of `payloadLen`
bytes from `a` to `d`, and the message `m`. -/
def mldFinished {Msg : Type} (mac a payloadLen d : Nat) (m : Msg) : Ip6Frame Msg :=
  ⟨⟨setBytes (setBytes (List.replicate 6 0) 0 [0x33, 0x33]) 2 ((beBytes d 16).drop 12),
      beBytes mac 6, htons 0x86dd⟩, mldIp a payloadLen d, mldHbh, m⟩

/-- The ICMPv6 checksum `mld_receive` computes over a finished frame is the one over the message
and the addresses the builder gave `inet6_csum`; a finished frame with a message of at least 24
bytes passes every check on an interface whose address is not the sender's, and its Ethernet
destination is `33:33` followed by the low 32 bits of its IPv6 destination. -/
theorem mldFinished_received {Msg : Type} (image : Msg → List UInt8) (mac a d ifAddr len : Nat)
    (m : Msg) (hlen : (image m).length = len) (hb : len < 2 ^ 15) :
    let F := (mldFinished mac a (8 + len) d m).bytes image
    inet6Csum F 62 len 22 38 0x3a =
        inet6Csum (image m ++ beBytes a 16 ++ beBytes d 16) 0 len len (len + 16) 0x3a ∧
      (24 ≤ len → inet6Csum F 62 len 22 38 0x3a = 0 → (mldFrame ifAddr F).1 =
        (if a % 2 ^ 128 = ifAddr then none else some ⟨a % 2 ^ 128, 62, len⟩)) ∧
      slice F 62 len = image m ∧ rdAddr F 38 16 = d % 2 ^ 128 ∧
      rdAddr F 0 6 = 0x333300000000 + rdAddr F 38 16 % 2 ^ 32 := by
  intro F
  have hF : F.length = 62 + len := by
    simp [F, Ip6Frame.bytes, Ethernet.bytes, Ip6.bytes, Ip6Hbh.bytes, le16, le32, mldFinished,
      mldIp, mldHbh, setBytes, hlen]
    omega
  have hm : slice F 62 len = image m := by
    rw [Ip6Frame.slice_msg image (mldFinished mac a (8 + len) d m) len rfl]
    exact List.take_of_length_le (Nat.le_of_eq hlen)
  -- the IPv6 and Hop-by-Hop headers are read through their own 48 bytes, not through the frame
  have hH : slice F 14 48 = (mldIp a (8 + len) d).bytes ++ mldHbh.bytes := rfl
  have hip8 : ∀ k, k < 48 → rd8 F (14 + k) = rd8 ((mldIp a (8 + len) d).bytes ++ mldHbh.bytes) k :=
    fun k hk => by rw [← hH, rd8_slice hk]
  have hsrc : slice F 22 16 = beBytes a 16 := by
    rw [show 22 = 14 + 8 from rfl, ← slice_slice (by decide : 8 + 16 ≤ 48), hH]; rfl
  have hdst : slice F 38 16 = beBytes d 16 := by
    rw [show 38 = 14 + 24 from rfl, ← slice_slice (by decide : 24 + 16 ≤ 48), hH]; rfl
  have hG : (image m ++ beBytes a 16 ++ beBytes d 16).length = len + 16 + 16 := by simp [hlen]
  have hs : slice (image m ++ beBytes a 16 ++ beBytes d 16) len 16 = beBytes a 16 := by
    have := slice_append_mid (image m) (beBytes a 16) (beBytes d 16)
    rwa [hlen, length_beBytes] at this
  have hd' : slice (image m ++ beBytes a 16 ++ beBytes d 16) (len + 16) 16 = beBytes d 16 := by
    have := slice_append_mid (image m ++ beBytes a 16) (beBytes d 16) []
    rwa [List.append_nil, List.length_append, hlen, length_beBytes] at this
  have hM : slice (image m ++ beBytes a 16 ++ beBytes d 16) 0 len = image m := by
    rw [← hlen, List.append_assoc, slice, List.drop_zero, List.take_left]
  have hc : inet6Csum F 62 len 22 38 0x3a =
      inet6Csum (image m ++ beBytes a 16 ++ beBytes d 16) 0 len len (len + 16) 0x3a :=
    inet6Csum_congr (by omega) (by omega) (by omega) (by omega) (by omega) (by omega)
      (hsrc.trans hs.symm) (hdst.trans hd'.symm) (hm.trans hM.symm)
  have hd : rdAddr F 38 16 = d % 2 ^ 128 := rdAddr_of_slice hdst
  have ha : rdAddr F 22 16 = a % 2 ^ 128 := rdAddr_of_slice hsrc
  have he : rdAddr F 0 6 = 0x333300000000 + d % 2 ^ 32 := by
    rw [rdAddr, show (F.drop 0).take 6 = [0x33, 0x33] ++ beBytes d 4 from rfl, List.foldl_append,
      foldl_beBytes]
    rfl
  refine ⟨hc, fun h24 hcs => ?_, hm, hd, ?_⟩
  · rw [mldFrame_accept (rd16_of_slice (show slice F 12 2 = le16 (htons 0x86dd) from rfl)
        (by decide)) ((hip8 6 (by decide)).trans rfl)
      (by rw [show 18 = 14 + 4 from rfl, ← rd16_slice (by decide : 4 + 1 < 48), hH]
          exact rd16_of_slice rfl (by omega))
      (by omega) ((hip8 41 (by decide)).trans rfl) (Or.inl ((hip8 42 (by decide)).trans rfl))
      ((hip8 40 (by decide)).trans rfl) h24 hcs, ha]
  · rw [hd, Nat.mod_mod_of_dvd _ (by decide : 2 ^ 32 ∣ 2 ^ 128)]
    exact he

/-- The advertisement `mld_build_mrd_advertisement_packet` finishes for a frame from `a` to `d`,
its checksum stored. -/
def mldMrdAdvertisementMsg (a d : Nat) : MrdAdvertisement :=
  let m : MrdAdvertisement := ⟨0x97, 20, 0, htons 125, htons 2⟩
  { m with csum := inet6Csum (m.bytes ++ beBytes a 16 ++ beBytes d 16) 0 8 8 (8 + 16) 0x3a }

/-- A query the MLD code finishes for a frame from `a` to `d`, for `response`, `group` and the S
flag, its checksum stored. -/
def mldQueryMsg (a d response group : Nat) (sFlag : Bool) : MldV2Query :=
  let q : MldV2Query :=
    ⟨0x82, 0, 0, htons response, 0, beBytes group 16, 2, if sFlag then 1 else 0, 0, 125, 0⟩
  { q with csum := inet6Csum (q.bytes ++ beBytes a 16 ++ beBytes d 16) 0 28 28 (28 + 16) 0x3a }

theorem mldBuildMrdAdvertisementPacket_eq (mac a : Nat) :
    mldBuildMrdAdvertisementPacket mac a =
      mldFinished mac a (8 + 8) allsnoopersAddr6 (mldMrdAdvertisementMsg a allsnoopersAddr6) := rfl

theorem mldBuildQueryPackets_snd (mac a : Nat) :
    (mldBuildQueryPackets mac a).2 =
      mldFinished mac a (8 + 28) allnodesAddr6 (mldQueryMsg a allnodesAddr6 10000 0 false) := rfl

theorem mldSendGroupSpecificQueryPacket_eq (mac a g : Nat) (sFlag : Bool) :
    mldSendGroupSpecificQueryPacket (mldBuildQueryPackets mac a).1 g sFlag =
      mldFinished mac a (8 + 28) g (mldQueryMsg a g 1000 g sFlag) := rfl

theorem inet6Csum_mldMrdAdvertisementMsg (a d : Nat) :
    inet6Csum ((mldMrdAdvertisementMsg a d).bytes ++ beBytes a 16 ++ beBytes d 16) 0 8 8 (8 + 16)
      0x3a = 0 := by
  have := inet6Csum_store [(0x97 : Nat).toUInt8, (20 : Nat).toUInt8]
    (le16 (htons 125) ++ le16 (htons 2)) (beBytes a 16) (beBytes d 16) 8 0x3a (by simp)
    (by simp [le16]) (by decide) (length_beBytes a 16) (length_beBytes d 16) (by decide)
  simpa only [mldMrdAdvertisementMsg, MrdAdvertisement.bytes, List.append_assoc] using this

theorem inet6Csum_mldQueryMsg (a d response group : Nat) (sFlag : Bool) :
    inet6Csum ((mldQueryMsg a d response group sFlag).bytes ++ beBytes a 16 ++ beBytes d 16) 0 28
      28 (28 + 16) 0x3a = 0 := by
  have := inet6Csum_store [(0x82 : Nat).toUInt8, (0 : Nat).toUInt8]
    (le16 (htons response) ++ le16 0 ++ beBytes group 16 ++
      [(2 % 8 + (if sFlag then 1 else 0) % 2 * 8 + 0 % 16 * 16).toUInt8, (125 : Nat).toUInt8] ++
      le16 0) (beBytes a 16) (beBytes d 16) 28 0x3a (by simp) (by simp [le16]) (by decide)
    (length_beBytes a 16) (length_beBytes d 16) (by decide)
  simpa only [mldQueryMsg, MldV2Query.bytes, List.append_assoc] using this

theorem mldQuery_mldQueryMsg (a d response group : Nat) (sFlag : Bool) (hr : response < 2 ^ 15) :
    mldQuery (mldQueryMsg a d response group sFlag).bytes =
      ⟨true, group % 2 ^ 128, sFlag, 2, 125, response⟩ := by
  have ht : timecode16bitDecode response = response := if_pos hr
  rw [mldQueryMsg, mldQuery_bytes _ rfl rfl (by omega), ht]
  cases sFlag <;> rfl

/-- **Every query the MLD code injects reaches `handle_mld_query` on an interface whose address is
not the sender's**, whatever was sent before it, as a 28-byte v2 query: the general query for
group `::` with response 10000 ms, a group-specific query for its group with response 1000 ms,
QRV 2, QQIC 125 and its S flag, which `send_group_specific_query` clears exactly when
`group_queries_remaining` is `querier_robustness`.  The advertisement's checksum verifies, and
each frame's Ethernet destination is `33:33` followed by the low 32 bits of its IPv6
destination. -/
theorem mld_injected_frames_received (mac a ifAddr : Nat) :
    (∀ (log : List Injected) (p : Injected),
      let F := mldInjectedBytes mac a log p
      rdAddr F 0 6 = 0x333300000000 + rdAddr F 38 16 % 2 ^ 32 ∧
      match p with
      | .mrdAdvertisement _ => inet6Csum F 62 8 22 38 0x3a = 0
      | .generalQuery _ =>
        (mldFrame ifAddr F).1 =
            (if a % 2 ^ 128 = ifAddr then none else some ⟨a % 2 ^ 128, 62, 28⟩) ∧
          rd8 (slice F 62 28) 0 = 0x82 ∧ mldQuery (slice F 62 28) = ⟨true, 0, false, 2, 125, 10000⟩
      | .groupSpecificQuery _ g sFlag =>
        (mldFrame ifAddr F).1 =
            (if a % 2 ^ 128 = ifAddr then none else some ⟨a % 2 ^ 128, 62, 28⟩) ∧
          rd8 (slice F 62 28) 0 = 0x82 ∧
          mldQuery (slice F 62 28) = ⟨true, g % 2 ^ 128, sFlag, 2, 125, 1000⟩) ∧
    ∀ (s : Sys) (i g : Nat), ∃ sFlag, (sendGroupSpecificQuery mldProto s i g).injected =
      s.injected ++ [.groupSpecificQuery i (s.group i g).mcastAddr sFlag] ∧
      (sFlag = false ↔ (s.group i g).groupQueriesRemaining = (s.iface i).querierRobustness) := by
  refine ⟨fun log p => ?_, sendGroupSpecificQuery_injected mldProto⟩
  rcases p with i | i | ⟨i, g, sFlag⟩
  · obtain ⟨h₁, -, -, -, h₅⟩ := mldFinished_received MrdAdvertisement.bytes mac a allsnoopersAddr6
      ifAddr 8 (mldMrdAdvertisementMsg a allsnoopersAddr6) rfl (by decide)
    dsimp only [mldInjectedBytes]
    rw [mldBuildMrdAdvertisementPacket_eq, h₁]
    exact ⟨h₅, inet6Csum_mldMrdAdvertisementMsg _ _⟩
  · obtain ⟨h₁, h₂, h₃, -, h₅⟩ := mldFinished_received MldV2Query.bytes mac a allnodesAddr6 ifAddr
      28 (mldQueryMsg a allnodesAddr6 10000 0 false) (by simp [MldV2Query.bytes, le16, mldQueryMsg])
      (by decide)
    dsimp only [mldInjectedBytes]
    rw [mldBuildQueryPackets_snd, h₃, mldQuery_mldQueryMsg _ _ _ _ _ (by decide)]
    exact ⟨h₅, h₂ (by decide) (h₁.trans (inet6Csum_mldQueryMsg _ _ _ _ _)), rfl, rfl⟩
  · obtain ⟨h₁, h₂, h₃, -, h₅⟩ := mldFinished_received MldV2Query.bytes mac a g ifAddr 28
      (mldQueryMsg a g 1000 g sFlag) (by simp [MldV2Query.bytes, le16, mldQueryMsg]) (by decide)
    dsimp only [mldInjectedBytes]
    rw [send_mldSpecificQueryPacket, mldSendGroupSpecificQueryPacket_eq, h₃,
      mldQuery_mldQueryMsg _ _ _ _ _ (by decide)]
    exact ⟨h₅, h₂ (by decide) (h₁.trans (inet6Csum_mldQueryMsg _ _ _ _ _)), rfl, rfl⟩

end McastBridge
