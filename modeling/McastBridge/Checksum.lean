import McastBridge.MldPackets
/-
**`inet_csum` and `inet6_csum` against the Internet checksum of RFC 1071.**

RFC 1071 pairs the bytes to checksum into 16-bit words, a last odd byte padded with a zero byte,
adds the words in ones' complement arithmetic (a carry out of bit 15 is added back in), and takes
the ones' complement of the sum.  `inet_csum` instead adds the words as the little-endian host
loads them into a 32-bit sum and folds the carries in twice at the end; `inet6_csum` adds the
words of the addresses and of the rest of the RFC 2460 pseudo-header first.  This module states
the RFC's checksum as the reference (`McastBridge.rfc1071`) and proves that the code computes it
for every run of at most 65535 bytes, where the 32-bit sum cannot wrap.  Both sums are, up to
their zero, the sum of the words modulo `0xffff` (`McastBridge.onesNorm`), which is what the
proofs compute with.

Because the checksum of the words is their ones' complement sum negated, a buffer whose words
are all zero sums to zero and gets the checksum `0xffff`: it never verifies under `inet_csum`.
Under `inet6_csum` the pseudo-header is summed beside it, and an all-zero message verifies
exactly when the pseudo-header alone does.

Main definitions:

* `McastBridge.onesSum`, `McastBridge.rfc1071` — the ones' complement sum and the checksum of
  RFC 1071, over the words the host loads;
* `McastBridge.pseudoHeader` — the IPv6 pseudo-header of RFC 2460;
* `McastBridge.rfc1071Net` — the checksum over the words in network byte order.

Main results:

* `McastBridge.inetCsum_rfc1071`, `McastBridge.inet6Csum_rfc1071` — the code computes the RFC
  1071 checksum, over the pseudo-header and the bytes for `inet6_csum`;
* `McastBridge.le16_rfc1071` — the little-endian image of the checksum over the host's words is
  the network-order image of the checksum over the network-order words;
* `McastBridge.internet_checksum_rfc1071` — **both functions compute the checksum of RFC 1071; a
  checksum stored into its zeroed field makes the same function return zero; an all-zero buffer
  never verifies under `inet_csum`, and under `inet6_csum` verifies as its pseudo-header does**.
-/

set_option relaxedAutoImplicit false
set_option autoImplicit false

namespace McastBridge

/-! ### The checksum of RFC 1071 -/

/-- The 16-bit words of a run of even length, each made by `word` from its two bytes. -/
def pairWords (word : UInt8 → UInt8 → Nat) : List UInt8 → List Nat
  | b₀ :: b₁ :: bs => word b₀ b₁ :: pairWords word bs
  | _ => []

/-- The 16-bit words of a run of even length, as the little-endian host loads them. -/
def hostWords : List UInt8 → List Nat := pairWords fun b₀ b₁ => b₀.toNat + 256 * b₁.toNat

/-- The 16-bit words of a run of even length in network byte order, the first byte high. -/
def netWords : List UInt8 → List Nat := pairWords fun b₀ b₁ => 256 * b₀.toNat + b₁.toNat

/-- A run of bytes, a last odd byte padded with a zero byte. -/
def padOdd (l : List UInt8) : List UInt8 := if l.length % 2 = 0 then l else l ++ [0]

/-- Ones' complement addition of two 16-bit words: the carry out of bit 15 is added back in. -/
def onesAdd (a b : Nat) : Nat := if a + b < 2 ^ 16 then a + b else a + b - 2 ^ 16 + 1

/-- The ones' complement sum of 16-bit words. -/
def onesSum (ws : List Nat) : Nat := ws.foldl onesAdd 0

/-- The Internet checksum of RFC 1071 over the words the host loads: the ones' complement of the
ones' complement sum of the words, a last odd byte padded with a zero byte. -/
def rfc1071 (l : List UInt8) : Nat := 0xffff - onesSum (hostWords (padOdd l))

/-- The Internet checksum of RFC 1071 over the words in network byte order. -/
def rfc1071Net (l : List UInt8) : Nat := 0xffff - onesSum (netWords (padOdd l))

/-- The IPv6 pseudo-header of RFC 2460, section 8.1: the source and the destination address, the
upper-layer packet length in 32 bits, three zero bytes and the next header. -/
def pseudoHeader (src dst : List UInt8) (len nextHeader : Nat) : List UInt8 :=
  src ++ dst ++ beBytes len 4 ++ [0, 0, 0, nextHeader.toUInt8]

/-! ### Sums modulo `0xffff` -/

/-- The 16-bit value that ones' complement addition reaches from `x`: congruent to `x` modulo
`0xffff`, and zero only for zero. -/
def onesNorm (x : Nat) : Nat := if x = 0 then 0 else (x - 1) % 0xffff + 1

theorem onesAdd_onesNorm (x : Nat) {w : Nat} (hw : w < 2 ^ 16) :
    onesAdd (onesNorm x) w = onesNorm (x + w) := by
  unfold onesAdd onesNorm
  split_ifs <;> omega

theorem foldl_onesAdd : ∀ (ws : List Nat) (x : Nat), (∀ w ∈ ws, w < 2 ^ 16) →
    ws.foldl onesAdd (onesNorm x) = onesNorm (x + ws.foldr (· + ·) 0)
  | [], x, _ => rfl
  | w :: ws, x, h => by
    rw [List.foldl_cons, onesAdd_onesNorm x (h w (List.mem_cons_self w ws)),
      foldl_onesAdd ws _ fun v hv => h v (List.mem_cons_of_mem w hv), List.foldr_cons,
      Nat.add_assoc]

/-- The ones' complement sum of 16-bit words is their sum modulo `0xffff`, zero only for zero. -/
theorem onesSum_eq {ws : List Nat} (h : ∀ w ∈ ws, w < 2 ^ 16) :
    onesSum ws = onesNorm (ws.foldr (· + ·) 0) :=
  (foldl_onesAdd ws 0 h).trans (congrArg onesNorm (Nat.zero_add _))

theorem lt_of_mem_pairWords {word : UInt8 → UInt8 → Nat}
    (hword : ∀ b₀ b₁, word b₀ b₁ < 2 ^ 16) {l : List UInt8} {w : Nat}
    (h : w ∈ pairWords word l) : w < 2 ^ 16 := by
  induction l using pairWords.induct word with
  | case1 b₀ b₁ bs ih =>
    rcases List.mem_cons.1 h with rfl | h
    · exact hword b₀ b₁
    · exact ih h
  | case2 l hl =>
    rw [pairWords] at h
    · cases h
    · exact hl

theorem lt_of_mem_hostWords {l : List UInt8} {w : Nat} (h : w ∈ hostWords l) : w < 2 ^ 16 :=
  lt_of_mem_pairWords (fun b₀ b₁ => by
    have := b₀.toNat_lt_size; have := b₁.toNat_lt_size; simp only [UInt8.size] at *; omega) h

theorem lt_of_mem_netWords {l : List UInt8} {w : Nat} (h : w ∈ netWords l) : w < 2 ^ 16 :=
  lt_of_mem_pairWords (fun b₀ b₁ => by
    have := b₀.toNat_lt_size; have := b₁.toNat_lt_size; simp only [UInt8.size] at *; omega) h

theorem padOdd_cons_cons (b₀ b₁ : UInt8) (bs : List UInt8) :
    padOdd (b₀ :: b₁ :: bs) = b₀ :: b₁ :: padOdd bs := by
  have : (bs.length + 1 + 1) % 2 = bs.length % 2 := by omega
  simp only [padOdd, List.length_cons, this]
  split <;> rfl

/-- The words the host loads from the padded run add up to the sum `inet_csum` forms. -/
theorem sum_hostWords_padOdd (l : List UInt8) :
    (hostWords (padOdd l)).foldr (· + ·) 0 = wordSum l := by
  induction l using wordSum.induct with
  | case1 => rfl
  | case2 b => simp [padOdd, hostWords, pairWords, wordSum]
  | case3 b₀ b₁ bs ih =>
    rw [padOdd_cons_cons, hostWords, pairWords, List.foldr_cons, ← hostWords, ih, wordSum,
      Nat.add_assoc]

/-- The network-order words add up to `256` times the host's modulo `0xffff`, and each sum is
zero only when the other is. -/
theorem sum_netWords_padOdd (l : List UInt8) :
    (netWords (padOdd l)).foldr (· + ·) 0 % 0xffff = 256 * wordSum l % 0xffff ∧
      (netWords (padOdd l)).foldr (· + ·) 0 ≤ 256 * wordSum l ∧
        wordSum l ≤ 256 * (netWords (padOdd l)).foldr (· + ·) 0 := by
  induction l using wordSum.induct with
  | case1 => simp [padOdd, netWords, pairWords, wordSum]
  | case2 b => simp [padOdd, netWords, pairWords, wordSum]; omega
  | case3 b₀ b₁ bs ih =>
    rw [padOdd_cons_cons, netWords, pairWords, List.foldr_cons, ← netWords, wordSum]
    omega

theorem rfc1071_eq_wordSum (l : List UInt8) : rfc1071 l = 0xffff - onesNorm (wordSum l) := by
  rw [rfc1071, onesSum_eq fun w hw => lt_of_mem_hostWords hw, sum_hostWords_padOdd]

theorem wordSum_eq_zero {l : List UInt8} (h : ∀ b ∈ l, b = 0) : wordSum l = 0 := by
  induction l using wordSum.induct with
  | case1 => rfl
  | case2 b => simp [wordSum, h b (List.mem_singleton_self b)]
  | case3 b₀ b₁ bs ih =>
    simp only [List.mem_cons, forall_eq_or_imp] at h
    rw [wordSum, h.1, h.2.1, ih h.2.2]; rfl

/-- Zero words after a run of even length leave its checksum as it is. -/
theorem rfc1071_append_zeros {P l : List UInt8} (hP : P.length % 2 = 0) (h : ∀ b ∈ l, b = 0) :
    rfc1071 (P ++ l) = rfc1071 P := by
  rw [rfc1071_eq_wordSum, rfc1071_eq_wordSum, wordSum_append _ _ hP, wordSum_eq_zero h,
    Nat.add_zero]

/-- **Byte order does not matter** (RFC 1071, section 2): the checksum over the network-order
words is the one over the host's words with its bytes swapped. -/
theorem rfc1071Net_eq (l : List UInt8) :
    rfc1071Net l = 256 * (rfc1071 l % 256) + rfc1071 l / 256 := by
  have ⟨hm, h₁, h₂⟩ := sum_netWords_padOdd l
  rw [rfc1071Net, onesSum_eq fun w hw => lt_of_mem_netWords hw, rfc1071_eq_wordSum]
  unfold onesNorm
  split_ifs <;> omega

/- The example of RFC 1071, section 3: the eight bytes sum to `ddf2` in network order. -/
example : rfc1071Net [0x00, 0x01, 0xf2, 0x03, 0xf4, 0xf5, 0xf6, 0xf7] = 0x220d ∧
    rfc1071 [0x00, 0x01, 0xf2, 0x03, 0xf4, 0xf5, 0xf6, 0xf7] = 0x0d22 := by decide

/-- The little-endian image of the checksum over the host's words is the network-order image of
the checksum over the network-order words. -/
theorem le16_rfc1071 (l : List UInt8) : le16 (rfc1071 l) = beBytes (rfc1071Net l) 2 := by
  have : rfc1071 l < 2 ^ 16 := by rw [rfc1071]; omega
  have h₁ : (256 * (rfc1071 l % 256) + rfc1071 l / 256) / 256 = rfc1071 l % 256 := by omega
  have h₂ : (256 * (rfc1071 l % 256) + rfc1071 l / 256) % 256 = rfc1071 l / 256 := by omega
  simp only [le16, beBytes, rfc1071Net_eq, List.cons.injEq, and_true, pow_one, pow_zero,
    Nat.div_one]
  constructor <;> (apply UInt8.toNat.inj; simp only [toNat_toUInt8, h₁, h₂]; omega)

/-! ### The code computes it -/

/-- The end of `inet_csum` on a sum that did not wrap: `0xffff` minus the sum modulo `0xffff`. -/
theorem csumFold_eq_onesNorm {x : Nat} (hx : x < 2 ^ 32) : csumFold x = 0xffff - onesNorm x := by
  obtain ⟨r, h, hr, hm, hp⟩ := csumFold_spec x hx
  rw [h, onesNorm]
  split_ifs <;> omega

/-- `inet_csum` over at most 65535 bytes computes the checksum of RFC 1071. -/
theorem inetCsum_rfc1071 {frame : List UInt8} {off len : Nat} (h : off + len ≤ frame.length)
    (hlen : len < 2 ^ 16) : inetCsum frame off len = rfc1071 (slice frame off len) := by
  have := wordSum_le (slice frame off len)
  rw [length_slice h] at this
  rw [inetCsum_slice h, inetCsum_eq_wordSum (length_slice h) (by omega), rfc1071_eq_wordSum,
    u32, Nat.mod_eq_of_lt (by omega), csumFold_eq_onesNorm (by omega)]

/-- The bytes the host stores of `inet_csum` are the checksum of RFC 1071 in network byte order. -/
theorem le16_inetCsum {frame : List UInt8} {off len : Nat} (h : off + len ≤ frame.length)
    (hlen : len < 2 ^ 16) :
    le16 (inetCsum frame off len) = beBytes (rfc1071Net (slice frame off len)) 2 := by
  rw [inetCsum_rfc1071 h hlen, le16_rfc1071]

/-- The words `inet6_csum` adds before the message: the addresses, `htonl(len)` and the next
header. -/
theorem wordSum_pseudoHeader {src dst : List UInt8} (hs : src.length = 16) (hd : dst.length = 16)
    (len : Nat) {nh : Nat} (hnh : nh < 256) :
    wordSum (pseudoHeader src dst len nh) = wordSum src + wordSum dst +
      (len / 2 ^ 24 % 256 + 256 * (len / 2 ^ 16 % 256) + (len / 2 ^ 8 % 256 + 256 * (len % 256)) +
        256 * nh) := by
  rw [pseudoHeader, wordSum_append _ _ (by simp [hs, hd]), wordSum_append _ _ (by simp [hs, hd]),
    wordSum_append _ _ (by simp [hs])]
  simp [beBytes, wordSum, Nat.mod_eq_of_lt hnh]; omega

/-- `inet6_csum` over at most 65535 bytes computes the checksum of RFC 1071 over the
pseudo-header of the addresses it is given and the bytes. -/
theorem inet6Csum_rfc1071 {frame : List UInt8} {off len srcOff dstOff nh : Nat}
    (h : off + len ≤ frame.length) (hs : srcOff + 16 ≤ frame.length)
    (hd : dstOff + 16 ≤ frame.length) (hlen : len < 2 ^ 16) (hnh : nh < 256) :
    inet6Csum frame off len srcOff dstOff nh =
      rfc1071 (pseudoHeader (slice frame srcOff 16) (slice frame dstOff 16) len nh ++
        slice frame off len) := by
  have h₁ := wordSum_le (slice frame srcOff 16)
  have h₂ := wordSum_le (slice frame dstOff 16)
  have h₃ := wordSum_le (slice frame off len)
  rw [length_slice hs] at h₁
  rw [length_slice hd] at h₂
  rw [length_slice h] at h₃
  rw [rfc1071_eq_wordSum,
    wordSum_append _ _ (by simp [pseudoHeader, length_slice hs, length_slice hd]),
    wordSum_pseudoHeader (length_slice hs) (length_slice hd) len hnh, inet6Csum, csumBody,
    if_neg (by omega), csumSum_eq_wordSum _ _ _ hs, csumSum_eq_wordSum _ _ _ hd,
    csumSum_eq_wordSum _ _ _ h, u32, Nat.mod_eq_of_lt (by omega), csumFold_eq_onesNorm (by omega)]

/-- **`inet_csum` and `inet6_csum` compute the Internet checksum.**  Over at most 65535 bytes,
`inet_csum` computes the checksum of RFC 1071 and `inet6_csum` the same checksum over the
pseudo-header and the bytes; a checksum computed with its field at an even offset zeroed verifies
once stored, for either function and any length; a buffer of zero bytes never verifies under
`inet_csum`, and under `inet6_csum` has the checksum of the pseudo-header alone. -/
theorem internet_checksum_rfc1071 :
    (∀ (frame : List UInt8) (off len : Nat), off + len ≤ frame.length → len ≤ 65535 →
      inetCsum frame off len = rfc1071 (slice frame off len)) ∧
    (∀ (frame : List UInt8) (off len srcOff dstOff nh : Nat), off + len ≤ frame.length →
      srcOff + 16 ≤ frame.length → dstOff + 16 ≤ frame.length → len ≤ 65535 → nh < 256 →
      inet6Csum frame off len srcOff dstOff nh =
        rfc1071 (pseudoHeader (slice frame srcOff 16) (slice frame dstOff 16) len nh ++
          slice frame off len)) ∧
    (∀ (pre post : List UInt8) (n : Nat), pre.length % 2 = 0 → pre.length + 2 + post.length = n →
      n ≤ 65535 → inetCsum (pre ++ le16 (inetCsum (pre ++ le16 0 ++ post) 0 n) ++ post) 0 n = 0) ∧
    (∀ (pre post src dst : List UInt8) (n nh : Nat), pre.length % 2 = 0 →
      pre.length + 2 + post.length = n → n ≤ 65535 → src.length = 16 → dst.length = 16 →
      nh < 256 →
      inet6Csum (pre ++ le16 (inet6Csum (pre ++ le16 0 ++ post ++ src ++ dst) 0 n n (n + 16) nh) ++
        post ++ src ++ dst) 0 n n (n + 16) nh = 0) ∧
    (∀ (frame : List UInt8) (off len : Nat), off + len ≤ frame.length → len ≤ 65535 →
      (∀ b ∈ slice frame off len, b = 0) → inetCsum frame off len = 0xffff) ∧
    (∀ (frame : List UInt8) (off len srcOff dstOff nh : Nat), off + len ≤ frame.length →
      srcOff + 16 ≤ frame.length → dstOff + 16 ≤ frame.length → len ≤ 65535 → nh < 256 →
      (∀ b ∈ slice frame off len, b = 0) → inet6Csum frame off len srcOff dstOff nh =
        rfc1071 (pseudoHeader (slice frame srcOff 16) (slice frame dstOff 16) len nh)) := by
  refine ⟨fun frame off len h hlen => inetCsum_rfc1071 h (by omega),
    fun frame off len srcOff dstOff nh h hs hd hlen hnh => inet6Csum_rfc1071 h hs hd (by omega) hnh,
    fun pre post n hpre hn hb => inetCsum_store pre post n hpre hn (by omega),
    fun pre post src dst n nh hpre hn hb hs hd hnh =>
      inet6Csum_store pre post src dst n nh hpre hn (by omega) hs hd hnh,
    fun frame off len h hlen hz => ?_, fun frame off len srcOff dstOff nh h hs hd hlen hnh hz => ?_⟩
  · rw [inetCsum_rfc1071 h (by omega), rfc1071_eq_wordSum, wordSum_eq_zero hz]; rfl
  · rw [inet6Csum_rfc1071 h hs hd (by omega) hnh,
      rfc1071_append_zeros (by simp [pseudoHeader, length_slice hs, length_slice hd]) hz]

/-- Twenty-four zero bytes from `fe80::229` to `ff02::1` with next header 58 (ICMPv6) verify under
`inet6_csum`: the words of that pseudo-header add up to `0xffff`. -/
theorem inet6_csum_zero_message_verifies :
    inet6Csum (List.replicate 24 0 ++ beBytes 0xfe800000000000000000000000000229 16 ++
      beBytes allnodesAddr6 16) 0 24 24 40 0x3a = 0 := by decide

end McastBridge
