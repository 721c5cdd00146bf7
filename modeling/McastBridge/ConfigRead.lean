import McastBridge.ConfigText
import McastBridge.ConfigDraft
/-
**`read_config`: the configuration file, line by line, into the bridge list.**

`read_config` (`part_003`) reads the file with `read_line`, which skips empty and comment lines
and trims the rest in the line buffer.  A line that starts with `[` opens a section: its port
number is parsed in place, then every following line up to the next section is a key line, cut by
`split_keyvalue` into a key and a value.  The two address keys store a group address in the draft
bridge; the four list keys cut their value with `split_comma_list` and add each element with
`add_draft_interface`.  At the end of a section the draft is validated and becomes one bridge per
family.

This module puts the functions of `McastBridge.ConfigText` and `McastBridge.ConfigDraft` together
into the loop of `read_config`, over a file given as its bytes.  The line buffer is the memory of
`McastBridge.LineBuf`, whose trace records every byte the line processing reads or writes.  The
C library functions that read a string (`strcmp`, `strspn`, `strtoul`, `inet_pton`,
`if_nametoindex`) are modelled by the reads they make; what `inet_pton` and `if_nametoindex` answer
comes from the system, `McastBridge.OsEnv`.  A pointer offset of type `unsigned int` is added to
a 64-bit pointer, as on the LP64 systems the program is built for.

Main definitions:

* `McastBridge.readLine`, `McastBridge.sectionHeader`, `McastBridge.keyLine` — one line each;
* `McastBridge.readConfig` — `read_config` on the bytes of a file.

Main results:

* `McastBridge.read_config_bridges` — **every bridge of a configuration `read_config` accepts is
  `Configured`**;
* `McastBridge.read_config_line_bounds` — the line processing reads outside the line: a key line
  `=x` at the start of the buffer makes `trim_trailing_whitespace` read `buffer[-1]`, and a section
  header `[` makes the header parsing read four gigabytes past the line.
-/

set_option relaxedAutoImplicit false
set_option autoImplicit false

namespace McastBridge

open LineBuf

/-! ### Reading a line -/

/-- The bytes of an ASCII string literal. -/
def cBytes (s : String) : List UInt8 := s.toList.map fun c => c.toNat.toUInt8

/-- The bytes `fgets(buffer, MAX_INPUT_LINE, fp)` takes from the unread input: through the first
newline, and at most `n` of them. -/
def fgetsChunk : Nat → List UInt8 → List UInt8
  | 0, _ => []
  | _, [] => []
  | n + 1, c :: cs => if c = 10 then [c] else c :: fgetsChunk n cs

/-- The bytes `bytes` stored from `q` on. -/
def storeBytes (m : LineBuf) : Int → List UInt8 → LineBuf
  | _, [] => m
  | q, c :: cs => storeBytes (m.write q c) (q + 1) cs

/-- `fgets(buffer, MAX_INPUT_LINE, fp)` on the unread `input`: the buffer holding the next line,
with a NUL after it, and the input after the line; `NULL` at the end of the file. -/
def fgets (m : LineBuf) (input : List UInt8) : Option (LineBuf × List UInt8) :=
  match input with
  | [] => none
  | _ :: _ =>
      let chunk := fgetsChunk (maxInputLine - 1) input
      some ((storeBytes { m with lineEnd := chunk.length } 0 chunk).write chunk.length 0,
        input.drop chunk.length)

/-- `read_line(fp, buffer)`: the next line that is neither empty nor a comment, with its
whitespace at both ends trimmed, the buffer and the unread input; `NULL` at the end of the file
(or once `fuel` lines have been skipped). -/
def readLine (fuel₀ : Nat) : Nat → LineBuf → List UInt8 → Option Int × LineBuf × List UInt8
  | 0, m, input => (none, m, input)
  | fuel + 1, m, input =>
      match fgets m input with
      | none => (none, m, input)
      | some (m, input) =>
          let r := trimLeadingWhitespace m 0 fuel₀
          if r.2.byte r.1 = 0 then readLine fuel₀ fuel (r.2.read r.1) input
          else if r.2.byte r.1 = 35 then readLine fuel₀ fuel ((r.2.read r.1).read r.1) input
          else (some r.1, trimTrailingWhitespace ((r.2.read r.1).read r.1) r.1 fuel₀, input)

/-! ### The library calls that read a string -/

/-- `strcmp(str, key) == 0` for a key without NUL: `str` is read up to the first byte that differs
from `key`, or up to its NUL. -/
def strEq : LineBuf → Int → List UInt8 → Bool × LineBuf
  | m, str, [] => (m.byte str == 0, m.read str)
  | m, str, c :: cs =>
      if m.byte str = c then strEq (m.read str) (str + 1) cs else (false, m.read str)

/-- The C string at `str`, read up to its NUL, as a library call that takes a string reads it. -/
def readCString (m : LineBuf) (str : Int) : Nat → List UInt8 × LineBuf
  | 0 => ([], m)
  | fuel + 1 =>
      if m.byte str = 0 then ([], m.read str)
      else
        let r := readCString (m.read str) (str + 1) fuel
        (m.byte str :: r.1, r.2)

/-- `strspn(str, "0123456789")`. -/
def strspnDigits (m : LineBuf) (str : Int) : Nat → Nat × LineBuf
  | 0 => (0, m)
  | fuel + 1 =>
      if 48 ≤ m.byte str ∧ m.byte str ≤ 57 then
        let r := strspnDigits (m.read str) (str + 1) fuel
        (r.1 + 1, r.2)
      else (0, m.read str)

/-- `strtoul(str, NULL, 10)` on a string of digits, which saturates at `ULONG_MAX`. -/
def strtoul (m : LineBuf) (str : Int) (fuel : Nat) : Nat × LineBuf :=
  let r := readCString m str fuel
  (min (2 ^ 64 - 1) (r.1.foldl (fun n c => n * 10 + (c.toNat - 48)) 0), r.2)

/-! ### Section headers and key lines -/

/-- The section header at `line`, whose first byte is `[`: the port number, or `fatal`.
`offset = strlen(line) - 1` is an `unsigned int`. -/
def sectionHeader (m : LineBuf) (line : Int) (fuel : Nat) : Except String Nat × LineBuf :=
  let r := trimLeadingWhitespace m (line + 1) fuel
  let n := strlen r.2 r.1 fuel
  let e := r.1 + ((n.1 + 2 ^ 32 - 1) % 2 ^ 32 : Nat)
  if n.2.byte e ≠ 93 then (.error "%s line %u: Syntax error\n", n.2.read e)
  else
    let m := trimTrailingWhitespace ((n.2.read e).write e 0) r.1 fuel
    let len := strlen m r.1 fuel
    let lport :=
      if len.1 = 0 then (0, len.2)
      else
        let span := strspnDigits len.2 r.1 fuel
        let len' := strlen span.2 r.1 fuel
        if span.1 = len'.1 then strtoul len'.2 r.1 fuel else (0, len'.2)
    if lport.1 < 1 ∨ 65535 < lport.1 then (.error "%s line %u: Invalid port number\n", lport.2)
    else (.ok lport.1, lport.2)

/-- The elements of a list key, in turn: the name at each position, `add_draft_interface`, and the
configuration the key sets. -/
def addListElements (env : OsEnv) (fuel : Nat) (key : ListKey) :
    LineBuf → DraftBridge → List Int → Except String DraftBridge × LineBuf
  | m, d, [] => (.ok d, m)
  | m, d, p :: ps =>
      let name := readCString m p fuel
      match addListElement env key d name.1 with
      | .error e => (.error e, name.2)
      | .ok d => addListElements env fuel key name.2 d ps

/-- A list key with the value at `value`: `split_comma_list`, then the elements. -/
def listKeyLine (env : OsEnv) (fuel : Nat) (key : ListKey) (m : LineBuf) (value : Int)
    (d : DraftBridge) : Except String DraftBridge × LineBuf :=
  match splitCommaList m value fuel with
  | (.error e, m) => (.error e, m)
  | (.ok (n, array), m) =>
      if n = 0 then (.error "%s line %u: Syntax error - missing interface list\n", m)
      else addListElements env fuel key m d (array.take n)

/-- The keys of a section, in the order `read_config` compares them. -/
def sectionKeys : List (List UInt8) :=
  [cBytes "ipv4-address", cBytes "ipv6-address", cBytes "inbound-interfaces",
    cBytes "outbound-interfaces", cBytes "static-inbound-interfaces",
    cBytes "static-outbound-interfaces"]

/-- What the key at position `k` of `sectionKeys` does with the value at `value`. -/
def keyAction (env : OsEnv) (fuel : Nat) (k : Nat) (m : LineBuf) (value : Int)
    (d : DraftBridge) : Except String DraftBridge × LineBuf :=
  match k with
  | 0 => let v := readCString m value fuel; (addressKey env .inet v.1 d, v.2)
  | 1 => let v := readCString m value fuel; (addressKey env .inet6 v.1 d, v.2)
  | 2 => listKeyLine env fuel .inbound m value d
  | 3 => listKeyLine env fuel .outbound m value d
  | 4 => listKeyLine env fuel .staticInbound m value d
  | _ => listKeyLine env fuel .staticOutbound m value d

/-- The chain of `strcmp`s of `read_config` from the key at position `k`: the first key equal to
the line's, or `fatal`. -/
def dispatchKey (env : OsEnv) (fuel : Nat) (m : LineBuf) (line value : Int) (d : DraftBridge) :
    Nat → List (List UInt8) → Except String DraftBridge × LineBuf
  | _, [] => (.error "%s line %u: Unknown interface parameter \"%s\"\n", m)
  | k, key :: keys =>
      let r := strEq m line key
      if r.1 then keyAction env fuel k r.2 value d
      else dispatchKey env fuel r.2 line value d (k + 1) keys

/-- A key line of a section at `line`: `split_keyvalue`, then the key. -/
def keyLine (env : OsEnv) (fuel : Nat) (m : LineBuf) (line : Int) (d : DraftBridge) :
    Except String DraftBridge × LineBuf :=
  match splitKeyvalue m line fuel with
  | (.error e, m) => (.error e, m)
  | (.ok value, m) => dispatchKey env fuel m line value d 0 sectionKeys

/-! ### The loops of `read_config` -/

/-- Not a message of the program: the model's fuel ran out before the run ended. -/
def outOfFuel : String := "fuel exhausted"

/-- The key lines of a section, up to the line after it: the next section header, or `NULL` at
the end of the file. -/
def readSection (env : OsEnv) (fuel₀ : Nat) :
    Nat → LineBuf → List UInt8 → DraftBridge →
      Except String (Option Int × List UInt8 × DraftBridge) × LineBuf
  | 0, m, _, _ => (.error outOfFuel, m)
  | fuel + 1, m, input, d =>
      match readLine fuel₀ fuel₀ m input with
      | (none, m, input) => (.ok (none, input, d), m)
      | (some line, m, input) =>
          if m.byte line = 91 then (.ok (some line, input, d), m.read line)
          else
            match keyLine env fuel₀ (m.read line) line d with
            | (.error e, m) => (.error e, m)
            | (.ok d, m) => readSection env fuel₀ fuel m input d

/-- The bridges `read_config` appends for a validated draft: one per family with a group address
and an inbound and an outbound interface of the family. -/
def addBridges (d : DraftBridge) : List BridgeInstance :=
  (if d.hasIpv4McastAddr ∧ d.inboundIpv4Count ≠ 0 ∧ d.outboundIpv4Count ≠ 0 then
      (addBridge d .inet).toList else []) ++
    (if d.hasIpv6McastAddr ∧ d.inboundIpv6Count ≠ 0 ∧ d.outboundIpv6Count ≠ 0 then
      (addBridge d .inet6).toList else [])

/-- The sections of `read_config` from the line `line`, with the bridges `bl` appended so far. -/
def readSections (env : OsEnv) (fuel₀ : Nat) :
    Nat → LineBuf → Option Int → List UInt8 → List BridgeInstance →
      Except String (List BridgeInstance) × LineBuf
  | 0, m, _, _, _ => (.error outOfFuel, m)
  | _ + 1, m, none, _, bl =>
      if bl = [] then (.error "%s line %u: No port bridges defined\n", m) else (.ok bl, m)
  | fuel + 1, m, some line, input, bl =>
      if m.byte line ≠ 91 then (.error "%s line %u: Syntax error\n", m.read line)
      else
        match sectionHeader (m.read line) line fuel₀ with
        | (.error e, m) => (.error e, m)
        | (.ok port, m) =>
            match readSection env fuel₀ fuel₀ m input (DraftBridge.empty port) with
            | (.error e, m) => (.error e, m)
            | (.ok (line, input, d), m) =>
                match validateDraftBridge d with
                | .error e => (.error e, m)
                | .ok d => readSections env fuel₀ fuel m line input (bl ++ addBridges d)

/-- `read_config()` on the bytes of the file: the bridges it leaves in `bridge_list`, or `fatal`'s
message, and the line buffer with the trace of its accesses. -/
def readConfig (env : OsEnv) (m : LineBuf) (input : List UInt8) (fuel : Nat) :
    Except String (List BridgeInstance) × LineBuf :=
  let r := readLine fuel fuel m input
  readSections env fuel fuel r.2.1 r.1 r.2.2 []

/-- `Except` values compare by `decide`, so that a run of `readConfig` can be evaluated. -/
instance exceptDecidableEq {ε α : Type} [DecidableEq ε] [DecidableEq α] :
    DecidableEq (Except ε α)
  | .error a, .error b =>
      if h : a = b then isTrue (congrArg _ h) else isFalse fun e => h (Except.error.inj e)
  | .ok a, .ok b => if h : a = b then isTrue (congrArg _ h) else isFalse fun e => h (Except.ok.inj e)
  | .error _, .ok _ => isFalse fun e => Except.noConfusion e
  | .ok _, .error _ => isFalse fun e => Except.noConfusion e

/-- `buffer` before the first `fgets`: a local array, whatever its bytes; zeros here. -/
def zeroBuf : LineBuf := ⟨fun _ => 0, 0, []⟩

/-- Two files on which the line processing of `read_config` leaves the line buffer, for every
system.  On `[1]\n=x\n` the key of the second line is empty: `split_keyvalue` zeroes `buffer[0]`
and `trim_trailing_whitespace(line)` starts at `buffer + strlen(buffer) - 1`, one byte before the
buffer.  On `[\n` the section name is empty: `offset = strlen(line) - 1` wraps to `0xffffffff`
and `line[offset]` is read four gigabytes past `line = buffer + 1`. -/
theorem read_config_line_bounds (env : OsEnv) :
    (⟨false, -1, 3⟩ ∈ (readConfig env zeroBuf (cBytes "[1]\n=x\n") 16).2.trace ∧
      ¬(⟨false, -1, 3⟩ : Access).InLine ∧
      (readConfig env zeroBuf (cBytes "[1]\n=x\n") 16).1 =
        .error "%s line %u: Unknown interface parameter \"%s\"\n") ∧
    (⟨false, 4294967296, 2⟩ ∈ (readConfig env zeroBuf (cBytes "[\n") 16).2.trace ∧
      ¬(⟨false, 4294967296, 2⟩ : Access).InLine ∧
      (readConfig env zeroBuf (cBytes "[\n") 16).1 = .error "%s line %u: Syntax error\n") :=
  of_decide_eq_true rfl

/-! ### Accepted runs keep the draft well formed -/

section Wf

variable {env : OsEnv} {fuel : Nat}

theorem addListElements_wf {key : ListKey} {m : LineBuf} {d d' : DraftBridge} {ps : List Int}
    (hd : d.Wf env) (h : (addListElements env fuel key m d ps).1 = .ok d') : d'.Wf env := by
  induction ps generalizing m d with
  | nil => cases h; exact hd
  | cons p ps ih =>
      simp only [addListElements] at h
      split at h
      · cases h
      · rename_i hadd
        exact ih (addListElement_wf hd hadd) h

theorem listKeyLine_wf {key : ListKey} {m : LineBuf} {value : Int} {d d' : DraftBridge}
    (hd : d.Wf env) (h : (listKeyLine env fuel key m value d).1 = .ok d') : d'.Wf env := by
  unfold listKeyLine at h
  split at h
  · cases h
  · split_ifs at h
    exact addListElements_wf hd h

theorem keyAction_wf {k : Nat} {m : LineBuf} {value : Int} {d d' : DraftBridge}
    (hd : d.Wf env) (h : (keyAction env fuel k m value d).1 = .ok d') : d'.Wf env := by
  match k with
  | 0 => exact addressKey_wf hd (show addressKey env .inet _ d = .ok d' from h)
  | 1 => exact addressKey_wf hd (show addressKey env .inet6 _ d = .ok d' from h)
  | 2 | 3 | 4 | _ + 5 => exact listKeyLine_wf hd h

theorem dispatchKey_wf {m : LineBuf} {line value : Int} {d d' : DraftBridge} {k : Nat}
    {keys : List (List UInt8)} (hd : d.Wf env)
    (h : (dispatchKey env fuel m line value d k keys).1 = .ok d') : d'.Wf env := by
  induction keys generalizing m k with
  | nil => cases h
  | cons key keys ih =>
      simp only [dispatchKey] at h
      split_ifs at h
      · exact keyAction_wf hd h
      · exact ih h

theorem keyLine_wf {m : LineBuf} {line : Int} {d d' : DraftBridge} (hd : d.Wf env)
    (h : (keyLine env fuel m line d).1 = .ok d') : d'.Wf env := by
  unfold keyLine at h
  split at h
  · cases h
  · exact dispatchKey_wf hd h

/-- Every key line of a section that `read_config` gets through keeps the draft well formed. -/
theorem readSection_wf {fuel₀ : Nat} {m : LineBuf} {input input' : List UInt8}
    {d d' : DraftBridge} {l : Option Int} (hd : d.Wf env)
    (h : (readSection env fuel₀ fuel m input d).1 = .ok (l, input', d')) : d'.Wf env := by
  induction fuel generalizing m input d with
  | zero => cases h
  | succ fuel ih =>
      simp only [readSection] at h
      split at h
      · cases h; exact hd
      · split_ifs at h
        · cases h; exact hd
        · split at h
          · cases h
          · rename_i hkey
            exact ih (keyLine_wf hd (by rw [hkey])) h

end Wf

/-! ### The bridges of an accepted configuration -/

theorem mem_addBridges {d : DraftBridge} {b : BridgeInstance} (h : b ∈ addBridges d) :
    ∃ fam, d.hasMcastAddr fam = true ∧ addBridge d fam = some b := by
  unfold addBridges at h
  rw [List.mem_append] at h
  rcases h with h | h <;> split_ifs at h with hc
  · exact ⟨.inet, hc.1, Option.mem_toList.mp h⟩
  · cases h
  · exact ⟨.inet6, hc.1, Option.mem_toList.mp h⟩
  · cases h

/-- Every bridge of an accepted configuration was in the list before, or `add_bridge` made it for
a family with a group address, from a well-formed draft that passed `validate_draft_bridge`. -/
theorem readSections_mem {env : OsEnv} {fuel₀ fuel : Nat} {m : LineBuf} {line : Option Int}
    {input : List UInt8} {bl bl' : List BridgeInstance}
    (h : (readSections env fuel₀ fuel m line input bl).1 = .ok bl') {b : BridgeInstance}
    (hb : b ∈ bl') : b ∈ bl ∨ ∃ d d' fam, d.Wf env ∧ validateDraftBridge d = .ok d' ∧
      d'.hasMcastAddr fam = true ∧ addBridge d' fam = some b := by
  induction fuel generalizing m line input bl with
  | zero => cases h
  | succ fuel ih =>
      cases line with
      | none =>
          simp only [readSections] at h
          split_ifs at h
          cases h; exact .inl hb
      | some line =>
          simp only [readSections] at h
          split_ifs at h
          split at h
          · cases h
          split at h
          · cases h
          split at h
          · cases h
          rename_i hsec _ _ hv
          rcases ih h with hb | hb
          · rcases List.mem_append.mp hb with hb | hb
            · exact .inl hb
            · obtain ⟨fam, hm, hb⟩ := mem_addBridges hb
              exact .inr ⟨_, _, fam, readSection_wf (DraftBridge.wf_empty env _) (by rw [hsec]),
                hv, hm, hb⟩
          · exact .inr hb

theorem readSections_configured {env : OsEnv} {fuel₀ fuel : Nat} {m : LineBuf}
    {line : Option Int} {input : List UInt8} {bl bl' : List BridgeInstance}
    (hbl : ∀ b ∈ bl, b.Configured env)
    (h : (readSections env fuel₀ fuel m line input bl).1 = .ok bl') :
    ∀ b ∈ bl', b.Configured env := fun b hb =>
  (readSections_mem h hb).elim (hbl b) fun ⟨_, _, _, hd, hv, hm, hb⟩ =>
    addBridge_configured hd hv hm hb

theorem read_config_bridges (env : OsEnv) (m : LineBuf) (input : List UInt8) (fuel : Nat)
    (bl : List BridgeInstance) (h : (readConfig env m input fuel).1 = .ok bl) :
    ∀ b ∈ bl, b.Configured env :=
  readSections_configured (fun b hb => absurd hb (List.not_mem_nil b)) h

/-- `add_bridge` makes every interface with neither direction active: the list is `calloc`ed,
and forcing a dynamic inbound side changes only its configuration. -/
theorem addBridge_inactive {d : DraftBridge} {fam : Family} {b : BridgeInstance}
    (h : addBridge d fam = some b) :
    ∀ x ∈ b.interfaceList, x.inboundActive = false ∧ x.outboundActive = false := by
  unfold addBridge at h
  split_ifs at h
  cases h
  intro x hx
  obtain ⟨y, hy, hxy⟩ := (forceLoop_forced _ 0 _).mem hx
  obtain ⟨z, -, rfl⟩ := List.mem_map.mp hy
  rcases hxy with rfl | ⟨-, rfl⟩ <;> exact ⟨rfl, rfl⟩

/-- `validate_draft_bridge` passes the interfaces of the draft on unchanged. -/
theorem validateDraftBridge_interfaces {d d' : DraftBridge} (h : validateDraftBridge d = .ok d') :
    d'.interfaces = d.interfaces := by
  obtain ⟨rfl, -⟩ := validateDraftBridge_ok h
  exact congrArg Prod.fst (validateLoop_eq .inet d ⟨0, 0, none, none⟩ 0 d.interfaces).2

/-- `add_bridge` copies each interface's link-local address for IPv6 and zero for IPv4, so a
link-local address of a bridge made from well-formed interfaces is in fe80::/10 or zero. -/
theorem addBridge_linkLocal {env : OsEnv} {d : DraftBridge} {fam : Family} {b : BridgeInstance}
    (hd : ∀ x ∈ d.interfaces, x.Wf env) (h : addBridge d fam = some b) :
    ∀ x ∈ b.interfaceList, x.ipv6AddrLl = 0 ∨ addrIsIpv6Ll x.ipv6AddrLl = true := by
  unfold addBridge at h
  split_ifs at h
  cases h
  intro x hx
  obtain ⟨y, hy, hxy⟩ := (forceLoop_forced _ 0 _).mem hx
  obtain ⟨z, hz, rfl⟩ := List.mem_map.mp hy
  rw [hxy.same.2.2.2]
  unfold toBridgeInterface
  split_ifs
  exacts [.inl rfl, (hd z (List.mem_filter.mp hz).1).ll]

/-- A system with two interfaces, `eth0` and `eth1`, each up with one IPv4 address. -/
def sampleEnv : OsEnv where
  ifNametoindex n := if n = cBytes "eth0" then 1 else if n = cBytes "eth1" then 2 else 0
  ifaddrList := [⟨cBytes "eth0", true, true, some (.inet 0x0a000001)⟩,
    ⟨cBytes "eth1", true, true, some (.inet 0x0a000002)⟩]
  inetPton4 s := if s = cBytes "239.1.2.3" then some 0xef010203 else none
  inetPton6 _ := none

/-- A configuration with a comment and one section bridging 239.1.2.3 from `eth0` to `eth1`. -/
def sampleConfig : List UInt8 :=
  cBytes "# bridge\n[5000]\nipv4-address = 239.1.2.3\ninbound-interfaces = eth0\noutbound-interfaces = eth1\n"

theorem read_config_bridges_sample :
    (readConfig sampleEnv zeroBuf sampleConfig 64).1 =
        .ok [⟨.inet, 0xef010203, [⟨.dynamic, .none, false, false, 1, 0x0a000001, 0⟩,
          ⟨.none, .dynamic, false, false, 2, 0x0a000002, 0⟩]⟩] ∧
      ∀ b ∈ [(⟨.inet, 0xef010203, [⟨.dynamic, .none, false, false, 1, 0x0a000001, 0⟩,
          ⟨.none, .dynamic, false, false, 2, 0x0a000002, 0⟩]⟩ : BridgeInstance)],
        b.Configured sampleEnv :=
  have h : (readConfig sampleEnv zeroBuf sampleConfig 64).1 =
      .ok [⟨.inet, 0xef010203, [⟨.dynamic, .none, false, false, 1, 0x0a000001, 0⟩,
        ⟨.none, .dynamic, false, false, 2, 0x0a000002, 0⟩]⟩] := by decide
  ⟨h, read_config_bridges sampleEnv zeroBuf sampleConfig 64 _ h⟩

end McastBridge
