import Mathlib.Data.Nat.Bitwise
import Mathlib.Data.List.Nodup
import McastBridge.Bridge
/-
**The draft bridge of `read_config`: interfaces, validation, and the bridges it becomes.**

While it reads a section, `read_config` (`part_003`) collects what the section says in a
`draft_bridge_t`: the group addresses given by the two address keys, and the interfaces named by
the four list keys.  `add_draft_interface` adds an interface once per `if_index`, with the
addresses the system lists for it; at the end of the section `validate_draft_bridge` counts the
inbound and outbound interfaces, per family, and rejects a draft that cannot bridge; then
`add_bridge` makes one `bridge_instance_t` per family of the draft, from the interfaces that have
an address of that family, and forces to static the dynamic inbound interfaces of a bridge with a
static outbound one.

What the system answers is a parameter, `McastBridge.OsEnv`: `if_nametoindex`, the list
`getifaddrs` returned, and `inet_pton`.  Addresses are numbers, most significant byte first, the
host-order value `ntohl` gives for IPv4.  A call of `fatal` is an `Except.error` carrying its
format string.

Main definitions:

* `McastBridge.DraftInterface`, `McastBridge.DraftBridge` — `draft_interface_t`, `draft_bridge_t`;
* `McastBridge.addDraftInterface`, `McastBridge.validateDraftBridge`, `McastBridge.addBridge` — the
  functions of `part_003`;
* `McastBridge.DraftBridge.Wf` — what every key line keeps of a draft;
* `McastBridge.BridgeInstance.Configured` — what a bridge made from a valid draft satisfies.

Main results:

* `McastBridge.addDraftInterface_wf` — adding an interface keeps a draft well formed;
* `McastBridge.validateLoop_eq` — the counting loop of `validate_draft_bridge` in closed form;
* `McastBridge.forceLoop_static` — after `add_bridge`'s last loop no dynamic inbound interface
  is left beside a static outbound one;
* `McastBridge.addBridge_configured` — **a bridge `add_bridge` makes from a validated, well-formed
  draft is `Configured`**.
-/

set_option relaxedAutoImplicit false
set_option autoImplicit false

namespace McastBridge

/-! ### What the system answers -/

/-- The address of an `ifaddrs` entry, by family: `AF_PACKET` (`AF_LINK` on the BSDs), whose MAC
address is copied but not modelled; `AF_INET` and `AF_INET6`; and any other family. -/
inductive SockAddr
  | packet
  | inet (addr : Nat)
  | inet6 (addr : Nat)
  | other
  deriving DecidableEq, Repr

/-- An entry of the list `getifaddrs` returns, with the fields `add_draft_interface` reads. -/
structure IfAddrs where
  ifaName : List UInt8
  /-- `IFF_UP` in `ifa_flags`. -/
  up : Bool
  /-- `IFF_MULTICAST` in `ifa_flags`. -/
  multicast : Bool
  ifaAddr : Option SockAddr
  deriving DecidableEq, Repr

/-- What `read_config` asks the system: `if_nametoindex`, the list `getifaddrs` returned, and
`inet_pton` for the two families (`none` where it returns 0). -/
structure OsEnv where
  ifNametoindex : List UInt8 → Nat
  ifaddrList : List IfAddrs
  inetPton4 : List UInt8 → Option Nat
  inetPton6 : List UInt8 → Option Nat

/-! ### The address macros -/

/-- `IN_MULTICAST` on a host-order IPv4 address. -/
def inMulticast (a : Nat) : Bool := a &&& 0xf0000000 == 0xe0000000

/-- `MCB_ADDR_IS_IPV4_MC_LOCAL`: 224.0.0.0/24. -/
def addrIsIpv4McLocal (a : Nat) : Bool := a &&& 0xffffff00 == 0xe0000000

/-- `MCB_ADDR_IS_IPV4_LL`: 169.254.0.0/16. -/
def addrIsIpv4Ll (a : Nat) : Bool := a &&& 0xffff0000 == 0xa9fe0000

/-- The byte `s6_addr[i]` of an IPv6 address. -/
def s6Addr (a i : Nat) : Nat := a / 2 ^ (8 * (15 - i)) % 256

/-- `IN6_IS_ADDR_MULTICAST`. -/
def in6IsAddrMulticast (a : Nat) : Bool := s6Addr a 0 == 0xff

/-- `MCB_ADDR_IS_IPV6_MC_LOCAL`: ff02::/16. -/
def addrIsIpv6McLocal (a : Nat) : Bool := s6Addr a 0 == 0xff && s6Addr a 1 == 0x02

/-- `MCB_ADDR_IS_IPV6_LL`: fe80::/10. -/
def addrIsIpv6Ll (a : Nat) : Bool := s6Addr a 0 == 0xfe && (s6Addr a 1 &&& 0xc0) == 0x80

/-- `MCB_ADDR_IS_IPV6_ULA`: fc00::/7. -/
def addrIsIpv6Ula (a : Nat) : Bool := (s6Addr a 0 &&& 0xfe) == 0xfc

/-- A multicast group of the family outside its link-scope range: in 224.0.0.0/4 but not in
224.0.0.0/24 for IPv4, in ff00::/8 but not in ff02::/16 for IPv6. -/
def Family.RoutableGroup : Family → Nat → Prop
  | .inet, a => a / 2 ^ 28 % 16 = 14 ∧ a / 2 ^ 8 % 2 ^ 24 ≠ 0xe00000
  | .inet6, a => a / 2 ^ 120 % 256 = 0xff ∧ a / 2 ^ 112 % 2 ^ 16 ≠ 0xff02

/-- The bits of `a` under a mask of `n` ones above `k` zeros. -/
theorem land_mask (a n k : Nat) : a &&& 2 ^ k * (2 ^ n - 1) = 2 ^ k * (a / 2 ^ k % 2 ^ n) := by
  apply Nat.eq_of_testBit_eq
  intro i
  rw [Nat.testBit_land, Nat.testBit_mul_pow_two, Nat.testBit_mul_pow_two,
    Nat.testBit_two_pow_sub_one, Nat.testBit_mod_two_pow, ← Nat.shiftRight_eq_div_pow,
    Nat.testBit_shiftRight]
  by_cases h : k ≤ i
  · rw [Nat.add_sub_cancel' h]
    simp [h, Bool.and_comm]
  · simp [h]

/-- The IPv4 checks of `read_config` accept exactly the routable groups. -/
theorem routableGroup_inet (a : Nat) :
    Family.inet.RoutableGroup a ↔ inMulticast a = true ∧ addrIsIpv4McLocal a = false := by
  have h1 := land_mask a 4 28
  have h2 := land_mask a 24 8
  simp only [Family.RoutableGroup, inMulticast, addrIsIpv4McLocal, beq_iff_eq,
    beq_eq_false_iff_ne]
  rw [show (0xf0000000 : Nat) = 2 ^ 28 * (2 ^ 4 - 1) from rfl, h1,
    show (0xffffff00 : Nat) = 2 ^ 8 * (2 ^ 24 - 1) from rfl, h2]
  omega

/-- The IPv6 checks of `read_config` accept exactly the routable groups. -/
theorem routableGroup_inet6 (a : Nat) :
    Family.inet6.RoutableGroup a ↔ in6IsAddrMulticast a = true ∧ addrIsIpv6McLocal a = false := by
  simp only [Family.RoutableGroup, in6IsAddrMulticast, addrIsIpv6McLocal, s6Addr, beq_iff_eq,
    Bool.and_eq_false_iff, beq_eq_false_iff_ne]
  omega

/-! ### The draft -/

/-- `MAX_INTERFACES`, the number of interfaces a draft bridge holds. -/
def maxInterfaces : Nat := 64

/-- `draft_interface_t`, without the MAC address. -/
structure DraftInterface where
  name : List UInt8
  ifIndex : Nat
  inboundConfiguration : InterfaceConfigType
  outboundConfiguration : InterfaceConfigType
  hasIpv4Addr : Bool
  hasIpv6Addr : Bool
  hasIpv6AddrLl : Bool
  ipv4Addr : Nat
  ipv6Addr : Nat
  ipv6AddrLl : Nat
  deriving DecidableEq, Repr, Inhabited

/-- `draft_bridge_t`; `interface_count` is the length of `interfaces`, and the four
`last_*_interface` pointers are indices into it. -/
structure DraftBridge where
  port : Nat
  hasIpv4McastAddr : Bool
  hasIpv6McastAddr : Bool
  ipv4McastAddr : Nat
  ipv6McastAddr : Nat
  interfaces : List DraftInterface
  inboundIpv4Count : Nat
  outboundIpv4Count : Nat
  inboundIpv6Count : Nat
  outboundIpv6Count : Nat
  lastInboundIpv4Interface : Option Nat
  lastInboundIpv6Interface : Option Nat
  lastOutboundIpv4Interface : Option Nat
  lastOutboundIpv6Interface : Option Nat
  deriving DecidableEq, Repr

/-- The draft of a section after `memset` and the port. -/
def DraftBridge.empty (port : Nat) : DraftBridge :=
  ⟨port, false, false, 0, 0, [], 0, 0, 0, 0, none, none, none, none⟩

/-- The family's name in `fatal`'s messages. -/
def Family.name : Family → String
  | .inet => "IPv4"
  | .inet6 => "IPv6"

/-- `has_ipv4_addr` or `has_ipv6_addr`. -/
def DraftInterface.hasAddr (x : DraftInterface) : Family → Bool
  | .inet => x.hasIpv4Addr
  | .inet6 => x.hasIpv6Addr

namespace DraftBridge

/-- `has_ipv4_mcast_addr` or `has_ipv6_mcast_addr`. -/
def hasMcastAddr (d : DraftBridge) : Family → Bool
  | .inet => d.hasIpv4McastAddr
  | .inet6 => d.hasIpv6McastAddr

/-- `ipv4_mcast_addr` or `ipv6_mcast_addr`. -/
def mcastAddr (d : DraftBridge) : Family → Nat
  | .inet => d.ipv4McastAddr
  | .inet6 => d.ipv6McastAddr

/-- `inbound_ipv4_count` or `inbound_ipv6_count`. -/
def inboundCount (d : DraftBridge) : Family → Nat
  | .inet => d.inboundIpv4Count
  | .inet6 => d.inboundIpv6Count

/-- `outbound_ipv4_count` or `outbound_ipv6_count`. -/
def outboundCount (d : DraftBridge) : Family → Nat
  | .inet => d.outboundIpv4Count
  | .inet6 => d.outboundIpv6Count

/-- `last_inbound_ipv4_interface` or `last_inbound_ipv6_interface`. -/
def lastInbound (d : DraftBridge) : Family → Option Nat
  | .inet => d.lastInboundIpv4Interface
  | .inet6 => d.lastInboundIpv6Interface

/-- `last_outbound_ipv4_interface` or `last_outbound_ipv6_interface`. -/
def lastOutbound (d : DraftBridge) : Family → Option Nat
  | .inet => d.lastOutboundIpv4Interface
  | .inet6 => d.lastOutboundIpv6Interface

end DraftBridge

/-! ### `add_draft_interface` -/

/-- An `AF_INET6` address of the interface: kept as its link-local address if it is the first
link-local one, and as its general address unless it has one and this one is link-local or
unique-local. -/
def takeIpv6 (x : DraftInterface) (a : Nat) : DraftInterface :=
  let x := if !x.hasIpv6AddrLl && addrIsIpv6Ll a then
    { x with hasIpv6AddrLl := true, ipv6AddrLl := a } else x
  if x.hasIpv6Addr && (addrIsIpv6Ll a || addrIsIpv6Ula a) then x
  else { x with hasIpv6Addr := true, ipv6Addr := a }

/-- `takeIpv6` keeps the link-local address, or stores one in fe80::/10. -/
theorem takeIpv6_ipv6AddrLl (x : DraftInterface) (a : Nat) :
    (takeIpv6 x a).ipv6AddrLl = x.ipv6AddrLl ∨ addrIsIpv6Ll (takeIpv6 x a).ipv6AddrLl = true := by
  unfold takeIpv6
  dsimp only
  split_ifs <;> simp_all

/-- One entry of the `getifaddrs` list, as the loop of `add_draft_interface` takes it into the
interface it is adding. -/
def takeIfaddr (x : DraftInterface) (e : IfAddrs) : Except String DraftInterface :=
  if e.ifaName ≠ x.name then .ok x else
  match e.ifaAddr with
  | none => .ok x
  | some sa =>
      if !e.up then .error "%s line %u: Interface \"%s\" is not up\n"
      else if !e.multicast then .error "%s line %u: Interface \"%s\" does not support multicast\n"
      else match sa with
        | .packet => .ok x
        | .inet a =>
            if x.hasIpv4Addr && addrIsIpv4Ll a then .ok x
            else .ok { x with hasIpv4Addr := true, ipv4Addr := a }
        | .inet6 a => .ok (takeIpv6 x a)
        | .other => .ok x

/-- The loop of `add_draft_interface` over the `getifaddrs` list. -/
def scanIfaddrs : DraftInterface → List IfAddrs → Except String DraftInterface
  | x, [] => .ok x
  | x, e :: es =>
      match takeIfaddr x e with
      | .error err => .error err
      | .ok x => scanIfaddrs x es

/-- The loop of `add_draft_interface` that looks for `if_index` among the draft's interfaces. -/
def findDraftInterface (ifIndex : Nat) : List DraftInterface → Option Nat
  | [] => none
  | x :: xs => if x.ifIndex = ifIndex then some 0 else (findDraftInterface ifIndex xs).map (· + 1)

/-- `add_draft_interface(draft_bridge, name)`: the draft with the interface called `name`, added
with the addresses `getifaddrs` lists for it unless an interface of that `if_index` is there
already, and its index. -/
def addDraftInterface (env : OsEnv) (d : DraftBridge) (name : List UInt8) :
    Except String (DraftBridge × Nat) :=
  let ifIndex := env.ifNametoindex name
  if ifIndex = 0 then .error "%s line %u: Interface \"%s\" does not exist\n" else
  match findDraftInterface ifIndex d.interfaces with
  | some i => .ok (d, i)
  | none =>
      if maxInterfaces ≤ d.interfaces.length then
        .error "%s line %u: Maximun number of interfaces (%u) exceeded\n"
      else
        match scanIfaddrs ⟨name, ifIndex, .none, .none, false, false, false, 0, 0, 0⟩
          env.ifaddrList with
        | .error err => .error err
        | .ok x =>
            if !x.hasIpv4Addr && !x.hasIpv6Addr then
              .error "%s line %u: Interface \"%s\" does not have an IP address\n"
            else .ok ({ d with interfaces := d.interfaces ++ [x] }, d.interfaces.length)

/-! ### `validate_draft_bridge` -/

/-- The local variables of the counting loop of `validate_draft_bridge`. -/
structure Counts where
  inboundCount : Nat
  outboundCount : Nat
  lastInboundInterface : Option Nat
  lastOutboundInterface : Option Nat
  deriving DecidableEq, Repr

/-- The per-family counts `validate_draft_bridge` takes of an inbound interface `x` at `i`. -/
def countInbound (d : DraftBridge) (i : Nat) (x : DraftInterface) : DraftBridge :=
  let d := if x.hasIpv4Addr then
    { d with inboundIpv4Count := d.inboundIpv4Count + 1, lastInboundIpv4Interface := some i }
    else d
  if x.hasIpv6Addr then
    { d with inboundIpv6Count := d.inboundIpv6Count + 1, lastInboundIpv6Interface := some i }
    else d

/-- The per-family counts `validate_draft_bridge` takes of an outbound interface `x` at `i`. -/
def countOutbound (d : DraftBridge) (i : Nat) (x : DraftInterface) : DraftBridge :=
  let d := if x.hasIpv4Addr then
    { d with outboundIpv4Count := d.outboundIpv4Count + 1, lastOutboundIpv4Interface := some i }
    else d
  if x.hasIpv6Addr then
    { d with outboundIpv6Count := d.outboundIpv6Count + 1, lastOutboundIpv6Interface := some i }
    else d

/-- The body of the counting loop of `validate_draft_bridge`, on the interface `x` at `i`. -/
def validateStep (d : DraftBridge) (c : Counts) (i : Nat) (x : DraftInterface) :
    DraftBridge × Counts :=
  let r := if x.inboundConfiguration ≠ .none then
    (countInbound d i x,
      { c with inboundCount := c.inboundCount + 1, lastInboundInterface := some i })
    else (d, c)
  if x.outboundConfiguration ≠ .none then
    (countOutbound r.1 i x,
      { r.2 with outboundCount := r.2.outboundCount + 1, lastOutboundInterface := some i })
  else r

/-- The counting loop of `validate_draft_bridge` from the interface at `i`. -/
def validateLoop (d : DraftBridge) (c : Counts) : Nat → List DraftInterface → DraftBridge × Counts
  | _, [] => (d, c)
  | i, x :: xs => validateLoop (validateStep d c i x).1 (validateStep d c i x).2 (i + 1) xs

/-- The checks of `validate_draft_bridge` for a family with a group address: an inbound and an
outbound interface of the family, and not only one interface for both. -/
def validateFamily (d : DraftBridge) (fam : Family) : Except String Unit :=
  if !d.hasMcastAddr fam then .ok ()
  else if d.inboundCount fam = 0 then
    .error ("Bridge %u has an " ++ fam.name ++ " multicast group address, but does not have an "
      ++ fam.name ++ " enabled inbound interface\n")
  else if d.outboundCount fam = 0 then
    .error ("Bridge %u has an " ++ fam.name ++ " multicast group address, but does not have an "
      ++ fam.name ++ " enabled outbound interface\n")
  else if d.inboundCount fam = 1 ∧ d.outboundCount fam = 1 ∧
      d.lastInbound fam = d.lastOutbound fam then
    .error ("Bridge %u has an " ++ fam.name ++ " multicast group address, but has only one "
      ++ fam.name ++ " enabled interface (%s)\n")
  else .ok ()

/-- `validate_draft_bridge(draft_bridge)`: the draft with its per-family counts. -/
def validateDraftBridge (d : DraftBridge) : Except String DraftBridge :=
  if !d.hasIpv4McastAddr && !d.hasIpv6McastAddr then
    .error "Bridge %u does not have a multicast group address\n"
  else
    let (d, c) := validateLoop d ⟨0, 0, none, none⟩ 0 d.interfaces
    if c.inboundCount = 0 then .error "Bridge %u does not have any inbound interfaces\n"
    else if c.outboundCount = 0 then .error "Bridge %u does not have any outbound interfaces\n"
    else if c.inboundCount = 1 ∧
        (d.interfaces.getD (c.lastInboundInterface.getD 0) default).outboundConfiguration ≠
          .none then
      .error "Bridge %u has a single inbound interface (%s) which is also declared as an outbound interface\n"
    else if c.outboundCount = 1 ∧
        (d.interfaces.getD (c.lastOutboundInterface.getD 0) default).inboundConfiguration ≠
          .none then
      .error "Bridge %u has a single outbound interface (%s) which is also declared as an inbound interface\n"
    else
      match validateFamily d .inet, validateFamily d .inet6 with
      | .error e, _ => .error e
      | .ok (), .error e => .error e
      | .ok (), .ok () => .ok d

/-! ### `add_bridge` -/

/-- A draft interface in a bridge of the family, as `add_bridge` assigns it; the interface list
is `calloc`ed, so neither direction is active. -/
def toBridgeInterface (fam : Family) (x : DraftInterface) : BridgeInterface where
  inboundConfiguration := x.inboundConfiguration
  outboundConfiguration := x.outboundConfiguration
  inboundActive := false
  outboundActive := false
  ifIndex := x.ifIndex
  ipv4Addr := if fam = .inet then x.ipv4Addr else 0
  ipv6AddrLl := if fam = .inet then 0 else x.ipv6AddrLl

/-- The inner loop of `add_bridge`'s last loop: every interface but the one at `outboundIndex`
that is dynamic inbound is forced. -/
def forceInbound (l : List BridgeInterface) (outboundIndex : Nat) : List BridgeInterface :=
  l.mapIdx fun i x =>
    if i ≠ outboundIndex ∧ x.inboundConfiguration = .dynamic then
      { x with inboundConfiguration := .forced } else x

/-- The last loop of `add_bridge`, over the interfaces from `outboundIndex` on (`n` of them). -/
def forceLoop : Nat → Nat → List BridgeInterface → List BridgeInterface
  | 0, _, l => l
  | n + 1, outboundIndex, l =>
      forceLoop n (outboundIndex + 1)
        (if (l.getD outboundIndex default).outboundConfiguration = .static then
          forceInbound l outboundIndex else l)

/-- `add_bridge(draft_bridge, family)`: the bridge it appends to `bridge_list`, or nothing when a
count of the family is zero. -/
def addBridge (d : DraftBridge) (fam : Family) : Option BridgeInstance :=
  if d.inboundCount fam = 0 ∨ d.outboundCount fam = 0 then none
  else
    let l := (d.interfaces.filter (·.hasAddr fam)).map (toBridgeInterface fam)
    some ⟨fam, d.mcastAddr fam, forceLoop l.length 0 l⟩

/-! ### The keys of a section -/

/-- The `ipv4-address` and `ipv6-address` keys: `inet_pton` on the value, then the checks that it
is a group address outside the link-scope range. -/
def addressKey (env : OsEnv) (fam : Family) (value : List UInt8) (d : DraftBridge) :
    Except String DraftBridge :=
  match fam with
  | .inet =>
      match env.inetPton4 value with
      | none => .error "%s line %u: Invalid IPv4 address \"%s\"\n"
      | some a =>
          if !inMulticast a then
            .error "%s line %u: Invalid IPv4 multicast group address \"%s\"\n"
          else if addrIsIpv4McLocal a then
            .error "%s line %u: Multicast group address \"%s\" is link local (224.0.0.0/8) and cannot be bridged\n"
          else .ok { d with ipv4McastAddr := a, hasIpv4McastAddr := true }
  | .inet6 =>
      match env.inetPton6 value with
      | none => .error "%s line %u: Invalid IPv6 address \"%s\"\n"
      | some a =>
          if !in6IsAddrMulticast a then
            .error "%s line %u: Invalid IPv6 multicast group address \"%s\"\n"
          else if addrIsIpv6McLocal a then
            .error "%s line %u: Multicast group address \"%s\" is link local (ff02::/16) and cannot be bridged\n"
          else .ok { d with ipv6McastAddr := a, hasIpv6McastAddr := true }

/-- The four list keys. -/
inductive ListKey
  | inbound
  | outbound
  | staticInbound
  | staticOutbound
  deriving DecidableEq, Repr

/-- What a list key sets on each interface it names: `inbound-interfaces` and
`outbound-interfaces` make a direction dynamic unless it is static, the two static keys make it
static. -/
def ListKey.configure : ListKey → DraftInterface → DraftInterface
  | .inbound, x =>
      if x.inboundConfiguration ≠ .static then { x with inboundConfiguration := .dynamic } else x
  | .outbound, x =>
      if x.outboundConfiguration ≠ .static then { x with outboundConfiguration := .dynamic } else x
  | .staticInbound, x => { x with inboundConfiguration := .static }
  | .staticOutbound, x => { x with outboundConfiguration := .static }

/-- One element of a list key: `add_draft_interface`, then the configuration the key sets. -/
def addListElement (env : OsEnv) (key : ListKey) (d : DraftBridge) (name : List UInt8) :
    Except String DraftBridge :=
  match addDraftInterface env d name with
  | .error e => .error e
  | .ok (d, i) => .ok { d with interfaces := d.interfaces.modify key.configure i }

/-! ### Well-formed drafts -/

/-- A draft interface whose index is its name's, whose addresses `getifaddrs` listed for it, and
whose link-local address is in fe80::/10 or still the zero of the `calloc`. -/
structure DraftInterface.Wf (env : OsEnv) (x : DraftInterface) : Prop where
  ifIndex : env.ifNametoindex x.name = x.ifIndex
  ipv4 : x.hasIpv4Addr = true →
    ∃ e ∈ env.ifaddrList, e.ifaName = x.name ∧ e.ifaAddr = some (.inet x.ipv4Addr)
  ipv6 : x.hasIpv6Addr = true →
    ∃ e ∈ env.ifaddrList, e.ifaName = x.name ∧ ∃ a, e.ifaAddr = some (.inet6 a)
  ll : x.ipv6AddrLl = 0 ∨ addrIsIpv6Ll x.ipv6AddrLl = true

/-- What the key lines of a section keep of a draft: the group addresses passed their checks,
the interfaces have distinct indices and are well formed, and nothing is counted yet. -/
structure DraftBridge.Wf (env : OsEnv) (d : DraftBridge) : Prop where
  group : ∀ fam, d.hasMcastAddr fam = true → fam.RoutableGroup (d.mcastAddr fam)
  nodup : (d.interfaces.map (·.ifIndex)).Nodup
  interfaces : ∀ x ∈ d.interfaces, x.Wf env
  fresh : ∀ fam, d.inboundCount fam = 0 ∧ d.outboundCount fam = 0 ∧
    d.lastInbound fam = none ∧ d.lastOutbound fam = none

theorem DraftBridge.wf_empty (env : OsEnv) (port : Nat) : (DraftBridge.empty port).Wf env where
  group fam h := by cases fam <;> cases h
  nodup := List.nodup_nil
  interfaces _ h := by cases h
  fresh fam := by cases fam <;> exact ⟨rfl, rfl, rfl, rfl⟩

/-- Taking an entry of the `getifaddrs` list keeps an interface well formed, and its name. -/
theorem takeIfaddr_wf {env : OsEnv} {x y : DraftInterface} {e : IfAddrs}
    (he : e ∈ env.ifaddrList) (h : takeIfaddr x e = .ok y) (hx : x.Wf env) :
    y.Wf env ∧ y.name = x.name := by
  unfold takeIfaddr at h
  by_cases hn : e.ifaName = x.name
  swap
  · rw [if_pos hn] at h; cases h; exact ⟨hx, rfl⟩
  rw [if_neg (not_not.2 hn)] at h
  rcases hsa : e.ifaAddr with _ | sa
  · rw [hsa] at h; cases h; exact ⟨hx, rfl⟩
  rw [hsa] at h
  by_cases hup : e.up = true
  swap
  · simp [hup] at h
  by_cases hmc : e.multicast = true
  swap
  · simp [hup, hmc] at h
  simp only [hup, hmc, Bool.not_true, Bool.false_eq_true, if_false] at h
  cases sa with
  | packet => cases h; exact ⟨hx, rfl⟩
  | inet a =>
      simp only at h
      split_ifs at h <;> cases h
      · exact ⟨hx, rfl⟩
      · exact ⟨⟨hx.ifIndex, fun _ => ⟨e, he, hn, hsa⟩, hx.ipv6, hx.ll⟩, rfl⟩
  | inet6 a =>
      cases h
      have hk : (takeIpv6 x a).name = x.name ∧ (takeIpv6 x a).ifIndex = x.ifIndex ∧
          (takeIpv6 x a).hasIpv4Addr = x.hasIpv4Addr ∧ (takeIpv6 x a).ipv4Addr = x.ipv4Addr := by
        unfold takeIpv6; dsimp only; split_ifs <;> exact ⟨rfl, rfl, rfl, rfl⟩
      refine ⟨⟨hk.2.1 ▸ hk.1 ▸ hx.ifIndex, fun h4 => ?_, fun _ => ⟨e, he, hk.1 ▸ hn, a, hsa⟩,
        (takeIpv6_ipv6AddrLl x a).elim (fun h => h ▸ hx.ll) .inr⟩, hk.1⟩
      rw [hk.1, hk.2.2.2]
      exact hx.ipv4 (hk.2.2.1 ▸ h4)
  | other => cases h; exact ⟨hx, rfl⟩

theorem scanIfaddrs_wf {env : OsEnv} :
    ∀ {x y : DraftInterface} {es : List IfAddrs}, (∀ e ∈ es, e ∈ env.ifaddrList) →
      scanIfaddrs x es = .ok y → x.Wf env → y.Wf env ∧ y.name = x.name
  | x, y, [], _, h, hx => by cases h; exact ⟨hx, rfl⟩
  | x, y, e :: es, hes, h, hx => by
      unfold scanIfaddrs at h
      split at h
      · cases h
      · rename_i x' hx'
        have h₁ := takeIfaddr_wf (hes e (List.mem_cons_self e es)) hx' hx
        have h₂ := scanIfaddrs_wf (fun e' he' => hes e' (List.mem_cons_of_mem e he')) h h₁.1
        exact ⟨h₂.1, h₂.2.trans h₁.2⟩

theorem findDraftInterface_none {k : Nat} :
    ∀ {xs : List DraftInterface}, findDraftInterface k xs = none → ∀ x ∈ xs, x.ifIndex ≠ k
  | [], _, _, h => by cases h
  | y :: ys, h, x, hx => by
      unfold findDraftInterface at h
      split_ifs at h with hy
      rcases List.mem_cons.1 hx with rfl | hx
      · exact hy
      · exact findDraftInterface_none (Option.map_eq_none.1 h) x hx

theorem findDraftInterface_lt {k : Nat} :
    ∀ {xs : List DraftInterface} {i : Nat}, findDraftInterface k xs = some i → i < xs.length
  | [], _, h => by cases h
  | y :: ys, i, h => by
      unfold findDraftInterface at h
      split_ifs at h
      · cases h; simp
      · obtain ⟨j, hj, rfl⟩ := Option.map_eq_some.1 h
        simpa using findDraftInterface_lt hj

/-- `add_draft_interface` keeps a draft well formed and returns the index of an interface of it. -/
theorem addDraftInterface_wf {env : OsEnv} {d d' : DraftBridge} {name : List UInt8} {i : Nat}
    (hd : d.Wf env) (h : addDraftInterface env d name = .ok (d', i)) :
    d'.Wf env ∧ i < d'.interfaces.length ∧ d'.hasMcastAddr = d.hasMcastAddr ∧
      d'.mcastAddr = d.mcastAddr := by
  unfold addDraftInterface at h
  simp only at h
  by_cases h0 : env.ifNametoindex name = 0
  · rw [if_pos h0] at h; cases h
  rw [if_neg h0] at h
  rcases hf : findDraftInterface (env.ifNametoindex name) d.interfaces with _ | j
  swap
  · rw [hf] at h; cases h; exact ⟨hd, findDraftInterface_lt hf, rfl, rfl⟩
  rw [hf] at h
  simp only at h
  by_cases hmax : maxInterfaces ≤ d.interfaces.length
  · rw [if_pos hmax] at h; cases h
  rw [if_neg hmax] at h
  rcases hs : scanIfaddrs ⟨name, env.ifNametoindex name, .none, .none, false, false, false, 0, 0, 0⟩
    env.ifaddrList with err | x
  · rw [hs] at h; cases h
  rw [hs] at h
  simp only at h
  split_ifs at h
  cases h
  obtain ⟨hxwf, hxn⟩ := scanIfaddrs_wf (fun e he => he) hs ⟨rfl, nofun, nofun, .inl rfl⟩
  have hxi : x.ifIndex = env.ifNametoindex name := by rw [← hxwf.ifIndex, hxn]
  refine ⟨⟨fun fam => hd.group fam, ?_, fun y hy => ?_, fun fam => hd.fresh fam⟩, by simp, rfl, rfl⟩
  · rw [List.map_append, List.nodup_append]
    refine ⟨hd.nodup, List.nodup_singleton _, fun a ha hb => ?_⟩
    obtain ⟨y, hy, rfl⟩ := List.mem_map.1 ha
    rw [List.map_singleton, List.mem_singleton, hxi] at hb
    exact findDraftInterface_none hf y hy hb
  · rcases List.mem_append.1 hy with hy | hy
    · exact hd.interfaces y hy
    · rw [List.mem_singleton.1 hy]; exact hxwf

/-- A change to one entry that keeps `P` keeps `P` of every entry. -/
theorem forall_mem_modify {α : Type} {f : α → α} {P : α → Prop} (hf : ∀ x, P x → P (f x)) :
    ∀ (i : Nat) (l : List α), (∀ x ∈ l, P x) → ∀ y ∈ l.modify f i, P y
  | _, [], _, y, hy => by simp at hy
  | 0, x :: l, h, y, hy => by
      rw [List.modify_zero_cons, List.mem_cons] at hy
      rcases hy with rfl | hy
      exacts [hf x (h x (List.mem_cons_self x l)), h y (List.mem_cons_of_mem x hy)]
  | i + 1, x :: l, h, y, hy => by
      rw [List.modify_succ_cons, List.mem_cons] at hy
      rcases hy with rfl | hy
      exacts [h y (List.mem_cons_self y l),
        forall_mem_modify hf i l (fun z hz => h z (List.mem_cons_of_mem x hz)) y hy]

theorem ListKey.configure_ifIndex (key : ListKey) (x : DraftInterface) :
    (key.configure x).ifIndex = x.ifIndex := by
  cases key <;> simp only [ListKey.configure] <;> split_ifs <;> rfl

theorem ListKey.configure_wf (key : ListKey) {env : OsEnv} {x : DraftInterface}
    (hx : x.Wf env) : (key.configure x).Wf env := by
  cases key <;> simp only [ListKey.configure] <;> (try split_ifs) <;>
    exact ⟨hx.ifIndex, hx.ipv4, hx.ipv6, hx.ll⟩

/-- A group address key keeps a draft well formed. -/
theorem addressKey_wf {env : OsEnv} {fam : Family} {value : List UInt8} {d d' : DraftBridge}
    (hd : d.Wf env) (h : addressKey env fam value d = .ok d') : d'.Wf env := by
  cases fam with
  | inet =>
      rcases hp : env.inetPton4 value with _ | a
      · simp [addressKey, hp] at h
      simp only [addressKey, hp] at h
      split_ifs at h with h1 h2
      cases h
      refine ⟨fun fam hf => ?_, hd.nodup, hd.interfaces, hd.fresh⟩
      cases fam
      · exact (routableGroup_inet a).2 ⟨by simpa using h1, by simpa using h2⟩
      · exact hd.group .inet6 hf
  | inet6 =>
      rcases hp : env.inetPton6 value with _ | a
      · simp [addressKey, hp] at h
      simp only [addressKey, hp] at h
      split_ifs at h with h1 h2
      cases h
      refine ⟨fun fam hf => ?_, hd.nodup, hd.interfaces, hd.fresh⟩
      cases fam
      · exact hd.group .inet hf
      · exact (routableGroup_inet6 a).2 ⟨by simpa using h1, by simpa using h2⟩

/-- An element of a list key keeps a draft well formed. -/
theorem addListElement_wf {env : OsEnv} {key : ListKey} {d d' : DraftBridge}
    {name : List UInt8} (hd : d.Wf env) (h : addListElement env key d name = .ok d') :
    d'.Wf env := by
  unfold addListElement at h
  split at h
  · cases h
  rename_i d₁ i hadd
  cases h
  obtain ⟨hw, -, -, -⟩ := addDraftInterface_wf hd hadd
  refine ⟨hw.group, ?_, ?_, hw.fresh⟩
  · rw [map_modify_of_eq _ _ key.configure_ifIndex]
    exact hw.nodup
  · exact forall_mem_modify (fun x hx => key.configure_wf hx) i _ hw.interfaces

/-! ### The counts of `validate_draft_bridge` -/

/-- An interface `validate_draft_bridge` counts as inbound for the family. -/
def DraftInterface.inboundOf (fam : Family) (x : DraftInterface) : Bool :=
  x.inboundConfiguration != .none && x.hasAddr fam

/-- An interface `validate_draft_bridge` counts as outbound for the family. -/
def DraftInterface.outboundOf (fam : Family) (x : DraftInterface) : Bool :=
  x.outboundConfiguration != .none && x.hasAddr fam

/-- The index of the last interface of `xs`, numbered from `k`, that satisfies `p`; `o` if none
does. -/
def lastIndex (p : DraftInterface → Bool) : Nat → List DraftInterface → Option Nat → Option Nat
  | _, [], o => o
  | k, x :: xs, o => lastIndex p (k + 1) xs (if p x then some k else o)

/-- The four per-family fields `validate_draft_bridge` fills. -/
def DraftBridge.counts (d : DraftBridge) (fam : Family) : Nat × Nat × Option Nat × Option Nat :=
  (d.inboundCount fam, d.outboundCount fam, d.lastInbound fam, d.lastOutbound fam)

/-- The fields `validate_draft_bridge` leaves as they are. -/
def DraftBridge.kept (d : DraftBridge) :
    List DraftInterface × (Family → Bool) × (Family → Nat) :=
  (d.interfaces, d.hasMcastAddr, d.mcastAddr)

theorem countInbound_counts (d : DraftBridge) (i : Nat) (x : DraftInterface) (fam : Family) :
    (countInbound d i x).counts fam =
      (d.inboundCount fam + if x.hasAddr fam then 1 else 0, d.outboundCount fam,
        if x.hasAddr fam then some i else d.lastInbound fam, d.lastOutbound fam) := by
  unfold countInbound
  cases fam <;> by_cases h4 : x.hasIpv4Addr <;> by_cases h6 : x.hasIpv6Addr <;>
    simp [h4, h6, DraftInterface.hasAddr, DraftBridge.counts, DraftBridge.inboundCount,
      DraftBridge.outboundCount, DraftBridge.lastInbound, DraftBridge.lastOutbound]

theorem countOutbound_counts (d : DraftBridge) (i : Nat) (x : DraftInterface) (fam : Family) :
    (countOutbound d i x).counts fam =
      (d.inboundCount fam, d.outboundCount fam + if x.hasAddr fam then 1 else 0,
        d.lastInbound fam, if x.hasAddr fam then some i else d.lastOutbound fam) := by
  unfold countOutbound
  cases fam <;> by_cases h4 : x.hasIpv4Addr <;> by_cases h6 : x.hasIpv6Addr <;>
    simp [h4, h6, DraftInterface.hasAddr, DraftBridge.counts, DraftBridge.inboundCount,
      DraftBridge.outboundCount, DraftBridge.lastInbound, DraftBridge.lastOutbound]

theorem validateStep_counts (d : DraftBridge) (c : Counts) (i : Nat) (x : DraftInterface)
    (fam : Family) : (validateStep d c i x).1.counts fam =
      (d.inboundCount fam + if x.inboundOf fam then 1 else 0,
        d.outboundCount fam + if x.outboundOf fam then 1 else 0,
        if x.inboundOf fam then some i else d.lastInbound fam,
        if x.outboundOf fam then some i else d.lastOutbound fam) := by
  have hi := countInbound_counts d i x fam
  have ho := countOutbound_counts d i x fam
  have hio := countOutbound_counts (countInbound d i x) i x fam
  simp only [DraftBridge.counts, Prod.mk.injEq] at hi ho hio
  unfold validateStep
  by_cases hin : x.inboundConfiguration = .none <;> by_cases hout : x.outboundConfiguration = .none <;>
    simp [hin, hout, DraftInterface.inboundOf, DraftInterface.outboundOf, DraftBridge.counts, hi, ho,
      hio]

theorem validateStep_kept (d : DraftBridge) (c : Counts) (i : Nat) (x : DraftInterface) :
    (validateStep d c i x).1.kept = d.kept := by
  have hi : (countInbound d i x).kept = d.kept := by
    unfold countInbound; split_ifs <;> rfl
  have ho : ∀ d', (countOutbound d' i x).kept = d'.kept := fun d' => by
    unfold countOutbound; split_ifs <;> rfl
  unfold validateStep
  split_ifs <;> simp only [ho, hi]

/-- The counting loop of `validate_draft_bridge`, per family: each count grows by the number of
interfaces of the family in that direction, and the last pointer moves to the last of them. -/
theorem validateLoop_eq (fam : Family) :
    ∀ (d : DraftBridge) (c : Counts) (k : Nat) (xs : List DraftInterface),
    (validateLoop d c k xs).1.counts fam =
      (d.inboundCount fam + xs.countP (·.inboundOf fam),
        d.outboundCount fam + xs.countP (·.outboundOf fam),
        lastIndex (·.inboundOf fam) k xs (d.lastInbound fam),
        lastIndex (·.outboundOf fam) k xs (d.lastOutbound fam)) ∧
    (validateLoop d c k xs).1.kept = d.kept
  | d, c, k, [] => by simp [validateLoop, lastIndex, DraftBridge.counts]
  | d, c, k, x :: xs => by
      obtain ⟨h1, h2⟩ := validateLoop_eq fam (validateStep d c k x).1 (validateStep d c k x).2
        (k + 1) xs
      have hs := validateStep_counts d c k x fam
      simp only [DraftBridge.counts, Prod.mk.injEq] at h1 hs
      simp only [validateLoop, DraftBridge.counts, h1, hs, lastIndex, List.countP_cons,
        validateStep_kept] at h2 ⊢
      refine ⟨?_, h2⟩
      simp only [Prod.mk.injEq, and_true]
      constructor <;> omega

theorem lastIndex_spec (p : DraftInterface → Bool) :
    ∀ (k : Nat) (xs : List DraftInterface) (o : Option Nat) (i : Nat),
      lastIndex p k xs o = some i → o = some i ∨ ∃ j, ∃ hj : j < xs.length, i = k + j ∧ p xs[j] = true
  | _, [], _, _, h => .inl h
  | k, x :: xs, o, i, h => by
      rcases lastIndex_spec p (k + 1) xs _ i h with h' | ⟨j, hj, rfl, hpj⟩
      · by_cases hp : p x = true
        · rw [if_pos hp, Option.some.injEq] at h'
          exact .inr ⟨0, by simp, by omega, by simpa using hp⟩
        · rw [if_neg hp] at h'
          exact .inl h'
      · exact .inr ⟨j + 1, by simpa using hj, by omega, by simpa using hpj⟩

theorem lastIndex_isSome (p : DraftInterface → Bool) :
    ∀ (k : Nat) (xs : List DraftInterface) (o : Option Nat),
      (o.isSome ∨ 0 < xs.countP p) → (lastIndex p k xs o).isSome
  | _, [], o, h => by simpa using h
  | k, x :: xs, o, h => by
      refine lastIndex_isSome p (k + 1) xs _ ?_
      by_cases hp : p x = true
      · simp [hp]
      · rw [List.countP_cons_of_neg p xs hp] at h
        simpa [hp] using h

/-- The last index of a satisfying interface of a list in which one does, numbered from `0`. -/
theorem lastIndex_of_countP {p : DraftInterface → Bool} {xs : List DraftInterface}
    (h : 0 < xs.countP p) : ∃ j, ∃ hj : j < xs.length, lastIndex p 0 xs none = some j ∧ p xs[j] = true := by
  obtain ⟨i, hi⟩ := Option.isSome_iff_exists.1 (lastIndex_isSome p 0 xs none (.inr h))
  rcases lastIndex_spec p 0 xs none i hi with h' | ⟨j, hj, rfl, hpj⟩
  · cases h'
  · exact ⟨j, hj, by rw [hi, Nat.zero_add], hpj⟩

/-- Of two satisfying interfaces at least one has an index other than `y`'s. -/
theorem exists_ne_of_two_le_countP {xs : List DraftInterface} {p : DraftInterface → Bool}
    (hnd : (xs.map (·.ifIndex)).Nodup) (h : 2 ≤ xs.countP p) (y : DraftInterface) :
    ∃ x ∈ xs, p x = true ∧ x.ifIndex ≠ y.ifIndex := by
  rw [List.countP_eq_length_filter] at h
  obtain ⟨x₁, x₂, r, hr⟩ : ∃ x₁ x₂ r, xs.filter p = x₁ :: x₂ :: r := by
    match hf : xs.filter p, h with
    | x₁ :: x₂ :: r, _ => exact ⟨x₁, x₂, r, rfl⟩
  have hnd' : ((xs.filter p).map (·.ifIndex)).Nodup := hnd.sublist ((List.filter_sublist xs).map _)
  rw [hr] at hnd'
  have h₁ : x₁ ∈ xs.filter p := by rw [hr]; simp
  have h₂ : x₂ ∈ xs.filter p := by rw [hr]; simp
  rw [List.mem_filter] at h₁ h₂
  have hne : x₁.ifIndex ≠ x₂.ifIndex := by simp at hnd'; exact hnd'.1.1
  by_cases hy : x₁.ifIndex = y.ifIndex
  · exact ⟨x₂, h₂.1, h₂.2, fun h => hne (hy.trans h.symm)⟩
  · exact ⟨x₁, h₁.1, h₁.2, hy⟩

/-- What the per-family check of `validate_draft_bridge` guarantees: an inbound and an outbound
interface of the family, with distinct indices. -/
theorem exists_inbound_outbound {xs : List DraftInterface} {p q : DraftInterface → Bool}
    (hnd : (xs.map (·.ifIndex)).Nodup) (hp : xs.countP p ≠ 0) (hq : xs.countP q ≠ 0)
    (h : ¬(xs.countP p = 1 ∧ xs.countP q = 1 ∧ lastIndex p 0 xs none = lastIndex q 0 xs none)) :
    ∃ x ∈ xs, ∃ y ∈ xs, p x = true ∧ q y = true ∧ x.ifIndex ≠ y.ifIndex := by
  obtain ⟨i, hi, hli, hpi⟩ := lastIndex_of_countP (Nat.pos_of_ne_zero hp)
  obtain ⟨j, hj, hlj, hqj⟩ := lastIndex_of_countP (Nat.pos_of_ne_zero hq)
  by_cases hp2 : 2 ≤ xs.countP p
  · obtain ⟨x, hx, hpx, hne⟩ := exists_ne_of_two_le_countP hnd hp2 xs[j]
    exact ⟨x, hx, xs[j], List.getElem_mem hj, hpx, hqj, hne⟩
  by_cases hq2 : 2 ≤ xs.countP q
  · obtain ⟨y, hy, hqy, hne⟩ := exists_ne_of_two_le_countP hnd hq2 xs[i]
    exact ⟨xs[i], List.getElem_mem hi, y, hy, hpi, hqy, Ne.symm hne⟩
  have hij : i ≠ j := fun hij => h ⟨by omega, by omega, by rw [hli, hlj, hij]⟩
  refine ⟨xs[i], List.getElem_mem hi, xs[j], List.getElem_mem hj, hpi, hqj, fun he => hij ?_⟩
  exact (@List.Nodup.getElem_inj_iff _ _ hnd i (by simpa using hi) j (by simpa using hj)).1
    (by simpa using he)

/-! ### The last loop of `add_bridge` -/

/-- What `add_bridge`'s last loop may do to an interface: nothing, or force its dynamic inbound
side. -/
def ForcedFrom (x y : BridgeInterface) : Prop :=
  y = x ∨ (x.inboundConfiguration = .dynamic ∧ y = { x with inboundConfiguration := .forced })

namespace ForcedFrom

theorem refl (x : BridgeInterface) : ForcedFrom x x := .inl rfl

theorem trans {x y z : BridgeInterface} (h₁ : ForcedFrom x y) (h₂ : ForcedFrom y z) :
    ForcedFrom x z := by
  rcases h₁ with rfl | ⟨hx, rfl⟩
  · exact h₂
  · rcases h₂ with rfl | ⟨hy, rfl⟩
    · exact .inr ⟨hx, rfl⟩
    · cases hy

/-- Forcing changes no index, no outbound side and no address. -/
theorem same {x y : BridgeInterface} (h : ForcedFrom x y) :
    y.ifIndex = x.ifIndex ∧ y.outboundConfiguration = x.outboundConfiguration ∧
      y.ipv4Addr = x.ipv4Addr ∧ y.ipv6AddrLl = x.ipv6AddrLl := by
  rcases h with rfl | ⟨-, rfl⟩ <;> exact ⟨rfl, rfl, rfl, rfl⟩

theorem inbound_ne_none {x y : BridgeInterface} (h : ForcedFrom x y)
    (hx : x.inboundConfiguration ≠ .none) : y.inboundConfiguration ≠ .none := by
  rcases h with rfl | ⟨-, rfl⟩
  exacts [hx, nofun]

theorem inbound_ne_dynamic {x y : BridgeInterface} (h : ForcedFrom x y)
    (hx : x.inboundConfiguration ≠ .dynamic) : y.inboundConfiguration ≠ .dynamic := by
  rcases h with rfl | ⟨hd, -⟩
  exacts [hx, absurd hd hx]

end ForcedFrom

/-- `l'` is `l` with some dynamic inbound interfaces forced. -/
structure ForcedList (l l' : List BridgeInterface) : Prop where
  length : l'.length = l.length
  entry : ∀ i < l.length, ForcedFrom (l.getD i default) (l'.getD i default)

theorem ForcedList.refl (l : List BridgeInterface) : ForcedList l l :=
  ⟨rfl, fun _ _ => .refl _⟩

theorem ForcedList.trans {l₁ l₂ l₃ : List BridgeInterface} (h₁ : ForcedList l₁ l₂)
    (h₂ : ForcedList l₂ l₃) : ForcedList l₁ l₃ :=
  ⟨h₂.length.trans h₁.length, fun i hi => (h₁.entry i hi).trans (h₂.entry i (h₁.length ▸ hi))⟩

/-- Every entry of the forced list comes from an entry of the list. -/
theorem ForcedList.mem {l l' : List BridgeInterface} (h : ForcedList l l') {y : BridgeInterface}
    (hy : y ∈ l') : ∃ x ∈ l, ForcedFrom x y := by
  obtain ⟨i, hi, rfl⟩ := List.getElem_of_mem hy
  have hil : i < l.length := h.length ▸ hi
  refine ⟨l[i], List.getElem_mem hil, ?_⟩
  have := h.entry i hil
  rwa [List.getD_eq_getElem _ _ hil, List.getD_eq_getElem _ _ hi] at this

/-- Every entry of the list is forced into an entry of the forced list. -/
theorem ForcedList.mem_forced {l l' : List BridgeInterface} (h : ForcedList l l')
    {x : BridgeInterface} (hx : x ∈ l) : ∃ y ∈ l', ForcedFrom x y := by
  obtain ⟨i, hi, rfl⟩ := List.getElem_of_mem hx
  have hil : i < l'.length := h.length ▸ hi
  refine ⟨l'[i], List.getElem_mem hil, ?_⟩
  have := h.entry i hi
  rwa [List.getD_eq_getElem _ _ hil, List.getD_eq_getElem _ _ hi] at this

theorem ForcedList.map_ifIndex {l l' : List BridgeInterface} (h : ForcedList l l') :
    l'.map (·.ifIndex) = l.map (·.ifIndex) := by
  refine List.ext_getElem (by simp [h.length]) fun i h₁ h₂ => ?_
  simp only [List.length_map] at h₁ h₂
  have := (h.entry i h₂).same.1
  rw [List.getD_eq_getElem _ _ h₁, List.getD_eq_getElem _ _ h₂] at this
  simp [this]

theorem forceInbound_forced (l : List BridgeInterface) (k : Nat) :
    ForcedList l (forceInbound l k) ∧ ∀ j < l.length, j ≠ k →
      ((forceInbound l k).getD j default).inboundConfiguration ≠ .dynamic := by
  refine ⟨⟨by simp [forceInbound], fun i hi => ?_⟩, fun j hj hjk => ?_⟩
  · rw [forceInbound, getD_mapIdx _ _ _ default default hi]
    split_ifs with h
    exacts [.inr ⟨h.2, rfl⟩, .inl rfl]
  · rw [forceInbound, getD_mapIdx _ _ _ default default hj]
    split_ifs with h
    · exact nofun
    · exact fun h' => h ⟨hjk, h'⟩

theorem forceLoop_forced :
    ∀ (n k : Nat) (l : List BridgeInterface), ForcedList l (forceLoop n k l)
  | 0, _, l => .refl l
  | n + 1, k, l => by
      rw [forceLoop]
      split_ifs
      · exact (forceInbound_forced l k).1.trans (forceLoop_forced n (k + 1) _)
      · exact forceLoop_forced n (k + 1) l

/-- No interface among the first `k` is static outbound beside another dynamic inbound one. -/
def StaticDone (k : Nat) (l : List BridgeInterface) : Prop :=
  ∀ i < k, i < l.length → ∀ j < l.length, i ≠ j →
    (l.getD i default).outboundConfiguration = .static →
    (l.getD j default).inboundConfiguration ≠ .dynamic

theorem StaticDone.forced {k : Nat} {l l' : List BridgeInterface} (h : StaticDone k l)
    (hf : ForcedList l l') : StaticDone k l' := by
  intro i hik hi j hj hij hs
  rw [hf.length] at hi hj
  exact (hf.entry j hj).inbound_ne_dynamic
    (h i hik hi j hj hij ((hf.entry i hi).same.2.1 ▸ hs))

/-- **`add_bridge`'s last loop leaves no dynamic inbound interface beside a static outbound
one.** -/
theorem forceLoop_static :
    ∀ (n k : Nat) (l : List BridgeInterface), k + n = l.length → StaticDone k l →
      StaticDone l.length (forceLoop n k l)
  | 0, k, l, hn, h => by
      rw [forceLoop]; rw [← hn]; exact h
  | n + 1, k, l, hn, h => by
      rw [forceLoop]
      set l₁ := if (l.getD k default).outboundConfiguration = .static then forceInbound l k else l
      have hf : ForcedList l l₁ := by
        simp only [l₁]; split_ifs
        exacts [(forceInbound_forced l k).1, .refl l]
      have h₁ : StaticDone (k + 1) l₁ := by
        intro i hik hi j hj hij hs
        rcases Nat.lt_succ_iff_lt_or_eq.1 hik with hik | rfl
        · exact h.forced hf i hik hi j hj hij hs
        · simp only [l₁] at hs ⊢
          split_ifs at hs ⊢ with hk
          · exact (forceInbound_forced l i).2 j (hf.length ▸ hj) (Ne.symm hij)
          · exact absurd hs hk
      rw [← hf.length]
      exact forceLoop_static n (k + 1) l₁ (by rw [hf.length]; omega) h₁

/-! ### The bridges of a valid draft -/

/-- The interface has an address of the family that `getifaddrs` listed for an interface of its
index. -/
def HasFamilyAddr (env : OsEnv) (fam : Family) (x : BridgeInterface) : Prop :=
  ∃ e ∈ env.ifaddrList, env.ifNametoindex e.ifaName = x.ifIndex ∧
    match fam with
    | .inet => e.ifaAddr = some (.inet x.ipv4Addr)
    | .inet6 => ∃ a, e.ifaAddr = some (.inet6 a)

/-- What a bridge that `read_config` appends to `bridge_list` satisfies: its group is routable,
its interfaces have distinct indices and addresses of its family, one is inbound and another
outbound, and none is dynamic inbound beside a static outbound one. -/
structure BridgeInstance.Configured (env : OsEnv) (b : BridgeInstance) : Prop where
  group : b.family.RoutableGroup b.dstAddr
  ifIndex : (b.interfaceList.map (·.ifIndex)).Nodup
  addr : ∀ x ∈ b.interfaceList, HasFamilyAddr env b.family x
  inOut : ∃ x ∈ b.interfaceList, ∃ y ∈ b.interfaceList, x.ifIndex ≠ y.ifIndex ∧
    x.inboundConfiguration ≠ .none ∧ y.outboundConfiguration ≠ .none
  staticOut : ∀ i < b.interfaceList.length, ∀ j < b.interfaceList.length, i ≠ j →
    (b.interfaceList.getD i default).outboundConfiguration = .static →
    (b.interfaceList.getD j default).inboundConfiguration ≠ .dynamic

theorem validateDraftBridge_ok {d d' : DraftBridge} (h : validateDraftBridge d = .ok d') :
    d' = (validateLoop d ⟨0, 0, none, none⟩ 0 d.interfaces).1 ∧
      ∀ fam, validateFamily d' fam = .ok () := by
  unfold validateDraftBridge at h
  split_ifs at h
  rcases hv : validateLoop d ⟨0, 0, none, none⟩ 0 d.interfaces with ⟨d₁, c₁⟩
  rw [hv] at h
  simp only at h
  split_ifs at h
  split at h
  · cases h
  · cases h
  · rename_i h4 h6
    cases h
    exact ⟨rfl, fun fam => by cases fam; exacts [h4, h6]⟩

theorem validateFamily_ok {d : DraftBridge} {fam : Family} (h : validateFamily d fam = .ok ())
    (hm : d.hasMcastAddr fam = true) :
    d.inboundCount fam ≠ 0 ∧ d.outboundCount fam ≠ 0 ∧
      ¬(d.inboundCount fam = 1 ∧ d.outboundCount fam = 1 ∧
        d.lastInbound fam = d.lastOutbound fam) := by
  unfold validateFamily at h
  simp only [hm, Bool.not_true, Bool.false_eq_true, if_false] at h
  split_ifs at h with h1 h2 h3
  exact ⟨h1, h2, h3⟩

/-- A draft interface of the family, as `add_bridge` copies it. -/
theorem mem_addBridge_list {fam : Family} {xs : List DraftInterface} {x : DraftInterface}
    (hx : x ∈ xs) (hf : x.hasAddr fam = true) :
    toBridgeInterface fam x ∈ (xs.filter (·.hasAddr fam)).map (toBridgeInterface fam) :=
  List.mem_map_of_mem _ (List.mem_filter.2 ⟨hx, hf⟩)

/-- **A bridge that `add_bridge` makes for a family with a group address, from a well-formed draft
that passed `validate_draft_bridge`, is `Configured`.** -/
theorem addBridge_configured {env : OsEnv} {d d' : DraftBridge} {fam : Family}
    {b : BridgeInstance} (hd : d.Wf env) (hv : validateDraftBridge d = .ok d')
    (hm : d'.hasMcastAddr fam = true) (hb : addBridge d' fam = some b) : b.Configured env := by
  obtain ⟨rfl, hfam⟩ := validateDraftBridge_ok hv
  have hvf := validateFamily_ok (hfam fam) hm
  obtain ⟨hc, hk⟩ := validateLoop_eq fam d ⟨0, 0, none, none⟩ 0 d.interfaces
  obtain ⟨hin0, hout0, hli0, hlo0⟩ := hd.fresh fam
  simp only [DraftBridge.counts, DraftBridge.kept, Prod.mk.injEq, hin0, hout0, hli0, hlo0,
    Nat.zero_add] at hc hk
  obtain ⟨hin, hout, hli, hlo⟩ := hc
  obtain ⟨hifs, hmc, hma⟩ := hk
  unfold addBridge at hb
  split_ifs at hb
  cases hb
  rw [hifs]
  set l := (d.interfaces.filter (·.hasAddr fam)).map (toBridgeInterface fam)
  have hforced := forceLoop_forced l.length 0 l
  refine ⟨?_, ?_, fun x hx => ?_, ?_, ?_⟩
  · rw [hma]; exact hd.group fam (hmc ▸ hm)
  · rw [hforced.map_ifIndex, List.map_map]
    exact hd.nodup.sublist ((List.filter_sublist _).map _)
  · obtain ⟨y, hy, hxy⟩ := hforced.mem hx
    obtain ⟨z, hz, rfl⟩ := List.mem_map.1 hy
    rw [List.mem_filter] at hz
    have hwz := hd.interfaces z hz.1
    obtain ⟨hi, -, h4, -⟩ := hxy.same
    cases fam with
    | inet =>
        obtain ⟨e, he, hn, ha⟩ := hwz.ipv4 hz.2
        exact ⟨e, he, by rw [hn, hwz.ifIndex, hi]; rfl, by rw [h4]; exact ha⟩
    | inet6 =>
        obtain ⟨e, he, hn, ha⟩ := hwz.ipv6 hz.2
        exact ⟨e, he, by rw [hn, hwz.ifIndex, hi]; rfl, ha⟩
  · obtain ⟨x, hx, y, hy, hpx, hqy, hne⟩ := exists_inbound_outbound hd.nodup
      (show d.interfaces.countP (·.inboundOf fam) ≠ 0 by rw [← hin]; exact hvf.1)
      (show d.interfaces.countP (·.outboundOf fam) ≠ 0 by rw [← hout]; exact hvf.2.1)
      (by rw [← hin, ← hout, ← hli, ← hlo]; exact hvf.2.2)
    simp only [DraftInterface.inboundOf, DraftInterface.outboundOf, Bool.and_eq_true,
      bne_iff_ne, ne_eq] at hpx hqy
    obtain ⟨x', hx', hxx⟩ := hforced.mem_forced (mem_addBridge_list hx hpx.2)
    obtain ⟨y', hy', hyy⟩ := hforced.mem_forced (mem_addBridge_list hy hqy.2)
    refine ⟨x', hx', y', hy', ?_, hxx.inbound_ne_none hpx.1, ?_⟩
    · rw [hxx.same.1, hyy.same.1]; exact hne
    · rw [hyy.same.2.1]; exact hqy.1
  · intro i hi j hj hij hs
    have hst := forceLoop_static l.length 0 l (Nat.zero_add _) (fun i hi => absurd hi (by omega))
    exact hst i (hforced.length ▸ hi) hi j hj hij hs

end McastBridge
