import Mathlib.Data.List.Basic
import Mathlib.Data.List.Forall2
/-
**The line buffer of `read_config`: trimming and splitting the configuration text in place.**

`read_config` (`part_003`) reads the configuration file a line at a time into a stack buffer of
`MAX_INPUT_LINE` bytes and takes each line apart where it lies: `trim_leading_whitespace` moves a
pointer forward over whitespace, `trim_trailing_whitespace` overwrites whitespace with NUL going
backwards from the end of the string, `split_keyvalue` cuts the line at its `=`, and
`split_comma_list` cuts a value at its commas into the elements of an interface list.

This module models that memory byte by byte.  The buffer and the stack around it are one map
from offsets to bytes, an offset being taken from `buffer[0]`, so that a negative offset is a
byte in front of the buffer.  Every read and every write is appended to a trace together with
the offset of the NUL that `fgets` stored after the line being processed, so that what the code
touches can be compared with the line it works on.  Every loop takes an explicit fuel argument.

Main definitions:

* `McastBridge.LineBuf` — the memory and the trace of its accesses;
* `McastBridge.LineBuf.WritesIn` — a stretch of the run that writes only inside a range;
* `McastBridge.trimLeadingWhitespace`, `McastBridge.trimTrailingWhitespace`,
  `McastBridge.splitKeyvalue`, `McastBridge.splitCommaList` — the functions of `part_003`;
* `McastBridge.KeyValueAt` — a value as `split_keyvalue` leaves it: a string with no whitespace
  at either end, after a run of blanks and the NUL that replaced the `=`.

Main results:

* `McastBridge.trimLeadingWhitespace_spec`, `McastBridge.trimTrailingFrom_spec` — the two trims,
  with the bytes they pass and the only bytes they write;
* `McastBridge.splitCommaLoop_spec` — the loop of `split_comma_list` from the start of any element;
* `McastBridge.split_comma_list_fields` — **`split_comma_list` fails exactly on a list of more
  than `MAX_LIST_ARRAY` elements or with an empty element; otherwise it returns one element per
  comma-separated field, trimmed, and writes only inside the value**.
-/

set_option relaxedAutoImplicit false
set_option autoImplicit false

namespace McastBridge

/-! ### The memory of the line processing -/

/-- `MAX_INPUT_LINE`, the size of `read_config`'s line buffer. -/
def maxInputLine : Nat := 16384

/-- `MAX_LIST_ARRAY`, the number of elements `split_comma_list` may store. -/
def maxListArray : Nat := 1024

/-- `isspace` in the C locale: the space, `\t`, `\n`, `\v`, `\f` and `\r`. -/
def isSpace (c : UInt8) : Bool := c == 32 || (9 ≤ c && c ≤ 13)

theorem isSpace_ne_zero {c : UInt8} (h : isSpace c = true) : c ≠ 0 := by
  rintro rfl; exact absurd h (by decide)

theorem isSpace_ne_comma {c : UInt8} (h : isSpace c = true) : c ≠ 44 := by
  rintro rfl; exact absurd h (by decide)

/-- One access of the line processing to memory: a read or a write of the byte at offset `addr`
from `buffer[0]`, made while the line in the buffer is the one whose terminating NUL `fgets`
stored at offset `lineEnd`. -/
structure Access where
  write : Bool
  addr : Int
  lineEnd : Int
  deriving DecidableEq, Repr

/-- An access inside the current line: from `buffer[0]` up to the line's terminating NUL. -/
def Access.InLine (a : Access) : Prop := 0 ≤ a.addr ∧ a.addr ≤ a.lineEnd

instance (a : Access) : Decidable a.InLine := inferInstanceAs (Decidable (_ ∧ _))

/-- The memory the line processing works on — `buffer` at offsets `0` to `MAX_INPUT_LINE - 1`
and the stack around it elsewhere — with the end of the current line and the accesses so far,
oldest first. -/
structure LineBuf where
  byte : Int → UInt8
  lineEnd : Int
  trace : List Access

namespace LineBuf

/-- The memory after reading the byte at `a`; the value read is `m.byte a`. -/
def read (m : LineBuf) (a : Int) : LineBuf :=
  { m with trace := m.trace ++ [⟨false, a, m.lineEnd⟩] }

/-- The memory after `*a = v`. -/
def write (m : LineBuf) (a : Int) (v : UInt8) : LineBuf :=
  { m with byte := Function.update m.byte a v, trace := m.trace ++ [⟨true, a, m.lineEnd⟩] }

@[simp] theorem read_byte (m : LineBuf) (a : Int) : (m.read a).byte = m.byte := rfl

@[simp] theorem read_lineEnd (m : LineBuf) (a : Int) : (m.read a).lineEnd = m.lineEnd := rfl

@[simp] theorem write_byte (m : LineBuf) (a : Int) (v : UInt8) :
    (m.write a v).byte = Function.update m.byte a v := rfl

@[simp] theorem write_lineEnd (m : LineBuf) (a : Int) (v : UInt8) :
    (m.write a v).lineEnd = m.lineEnd := rfl

/-- `m'` is `m` after accesses that write only bytes in `[lo, hi)`: every other byte and the
line end are as they were, and the accesses are appended to the trace. -/
structure WritesIn (lo hi : Int) (m m' : LineBuf) : Prop where
  byte : ∀ x, (x < lo ∨ hi ≤ x) → m'.byte x = m.byte x
  lineEnd : m'.lineEnd = m.lineEnd
  trace : ∃ t, m'.trace = m.trace ++ t ∧ ∀ a ∈ t, a.write = true → lo ≤ a.addr ∧ a.addr < hi

/-- `m'` is `m` after reads only: a stretch that writes inside every range. -/
def ReadOnly (m m' : LineBuf) : Prop := ∀ lo hi, WritesIn lo hi m m'

namespace WritesIn

variable {lo hi : Int} {m m₁ m₂ m₃ : LineBuf}

theorem refl (lo hi : Int) (m : LineBuf) : WritesIn lo hi m m :=
  ⟨fun _ _ => rfl, rfl, [], by simp, by simp⟩

theorem trans (h₁ : WritesIn lo hi m₁ m₂) (h₂ : WritesIn lo hi m₂ m₃) : WritesIn lo hi m₁ m₃ := by
  obtain ⟨t₁, ht₁, hw₁⟩ := h₁.trace
  obtain ⟨t₂, ht₂, hw₂⟩ := h₂.trace
  refine ⟨fun x hx => (h₂.byte x hx).trans (h₁.byte x hx), h₂.lineEnd.trans h₁.lineEnd,
    t₁ ++ t₂, by rw [ht₂, ht₁, List.append_assoc], fun a ha => ?_⟩
  rcases List.mem_append.1 ha with ha | ha
  exacts [hw₁ a ha, hw₂ a ha]

theorem mono {lo' hi' : Int} (h : WritesIn lo hi m₁ m₂) (hlo : lo' ≤ lo) (hhi : hi ≤ hi') :
    WritesIn lo' hi' m₁ m₂ := by
  obtain ⟨t, ht, hw⟩ := h.trace
  refine ⟨fun x hx => h.byte x (by omega), h.lineEnd, t, ht, fun a ha hwa => ?_⟩
  have := hw a ha hwa
  omega

theorem write (m : LineBuf) {a : Int} (v : UInt8) (ha : lo ≤ a) (hb : a < hi) :
    WritesIn lo hi m (m.write a v) := by
  refine ⟨fun x hx => Function.update_noteq (by omega) _ _, rfl, [⟨true, a, m.lineEnd⟩], rfl, ?_⟩
  simp only [List.mem_singleton]
  rintro _ rfl -
  exact ⟨ha, hb⟩

end WritesIn

namespace ReadOnly

variable {m m₁ m₂ m₃ : LineBuf}

theorem refl (m : LineBuf) : ReadOnly m m := fun lo hi => .refl lo hi m

theorem trans (h₁ : ReadOnly m₁ m₂) (h₂ : ReadOnly m₂ m₃) : ReadOnly m₁ m₃ :=
  fun lo hi => (h₁ lo hi).trans (h₂ lo hi)

theorem read (m : LineBuf) (a : Int) : ReadOnly m (m.read a) :=
  fun _ _ => ⟨fun _ _ => rfl, rfl, [⟨false, a, m.lineEnd⟩], rfl, by simp⟩

theorem byte_eq (h : ReadOnly m₁ m₂) : m₂.byte = m₁.byte :=
  funext fun x => (h (x + 1) (x + 1)).byte x (.inl (by omega))

end ReadOnly

end LineBuf

open LineBuf

/-! ### The C strings in memory -/

/-- The bytes `w` lie in memory from `q` on. -/
def Stored (b : Int → UInt8) (q : Int) (w : List UInt8) : Prop :=
  ∀ j (hj : j < w.length), b (q + j) = w[j]

/-- The C string at `q` is `w`: its bytes and then a NUL. -/
def CString (b : Int → UInt8) (q : Int) (w : List UInt8) : Prop :=
  Stored b q w ∧ b (q + w.length) = 0

instance (b : Int → UInt8) (q : Int) (w : List UInt8) : Decidable (Stored b q w) :=
  inferInstanceAs (Decidable (∀ j (hj : j < w.length), b (q + j) = w[j]))

instance (b : Int → UInt8) (q : Int) (w : List UInt8) : Decidable (CString b q w) :=
  inferInstanceAs (Decidable (_ ∧ _))

@[simp] theorem stored_nil (b : Int → UInt8) (q : Int) : Stored b q [] := nofun

theorem stored_cons {b : Int → UInt8} {q : Int} {c : UInt8} {w : List UInt8} :
    Stored b q (c :: w) ↔ b q = c ∧ Stored b (q + 1) w := by
  constructor
  · intro h
    refine ⟨by simpa using h 0 (by simp), fun j hj => ?_⟩
    have := h (j + 1) (by simpa using hj)
    simpa only [List.getElem_cons_succ, show q + ((j + 1 : Nat) : Int) = q + 1 + j by omega]
      using this
  · rintro ⟨h0, h⟩ (_ | j) hj
    · simpa using h0
    · have := h j (by simpa using hj)
      simpa only [List.getElem_cons_succ, show q + ((j + 1 : Nat) : Int) = q + 1 + j by omega]
        using this

theorem stored_append {b : Int → UInt8} {q : Int} {v w : List UInt8} :
    Stored b q (v ++ w) ↔ Stored b q v ∧ Stored b (q + v.length) w := by
  induction v generalizing q with
  | nil => simp
  | cons c v ih =>
      simp only [List.cons_append, stored_cons, ih, List.length_cons, and_assoc,
        show q + 1 + (v.length : Int) = q + ((v.length + 1 : Nat) : Int) by omega]

/-- Bytes that agree with the stored ones keep them stored. -/
theorem Stored.congr {b b' : Int → UInt8} {q : Int} {w : List UInt8} (h : Stored b q w)
    (hb : ∀ j < w.length, b' (q + j) = b (q + j)) : Stored b' q w :=
  fun j hj => (hb j hj).trans (h j hj)

/-- Bytes that agree with the string and its NUL keep the C string. -/
theorem CString.congr {b b' : Int → UInt8} {q : Int} {w : List UInt8} (h : CString b q w)
    (hb : ∀ j ≤ w.length, b' (q + j) = b (q + j)) : CString b' q w :=
  ⟨h.1.congr fun j hj => hb j hj.le, (hb _ le_rfl).trans h.2⟩

theorem getLast_eq_of_eq_append {l t : List UInt8} (p : List UInt8) (h : l = p ++ t) (hl : l ≠ [])
    (ht : t ≠ []) :
    l.getLast hl = t.getLast ht := by
  subst h; exact List.getLast_append_of_ne_nil ht

/-- `w` with the whitespace at both ends removed. -/
def trimWs (w : List UInt8) : List UInt8 :=
  ((w.dropWhile isSpace).reverse.dropWhile isSpace).reverse

theorem trimWs_eq_nil_iff {w : List UInt8} : trimWs w = [] ↔ ∀ c ∈ w, isSpace c = true := by
  simp only [trimWs, List.reverse_eq_nil_iff, List.dropWhile_eq_nil_iff, List.mem_reverse]
  constructor
  · intro h c hc
    by_contra hs
    have hne : w.dropWhile isSpace ≠ [] := fun h' => hs (List.dropWhile_eq_nil_iff.1 h' c hc)
    have hhd := List.head_dropWhile_not isSpace w hne
    rw [h _ (List.head_mem hne)] at hhd
    exact absurd hhd (by simp)
  · intro h c hc
    rw [List.dropWhile_eq_nil_iff.2 h] at hc
    simp at hc

/-- Blanks in front do not change the trimmed string. -/
theorem trimWs_blank_append {ws : List UInt8} (hws : ∀ c ∈ ws, isSpace c = true)
    (w : List UInt8) : trimWs (ws ++ w) = trimWs w := by
  induction ws with
  | nil => rfl
  | cons c ws ih =>
      simp only [List.mem_cons, forall_eq_or_imp] at hws
      simp only [trimWs, List.cons_append, List.dropWhile_cons, hws.1, if_true] at ih ⊢
      exact ih hws.2

/-- A string with no whitespace at either end is its own trim. -/
theorem trimWs_eq_self {w : List UInt8} (hne : w ≠ []) (hh : isSpace (w.head hne) = false)
    (hl : isSpace (w.getLast hne) = false) : trimWs w = w := by
  obtain ⟨c, w', rfl⟩ := List.exists_cons_of_ne_nil hne
  have hr : (c :: w').reverse ≠ [] := by simp
  obtain ⟨d, r, hd⟩ := List.exists_cons_of_ne_nil hr
  have hdl : d = (c :: w').getLast hne := by
    rw [← List.head_reverse hr]; simp [hd]
  simp only [List.head_cons] at hh
  simp only [trimWs, List.dropWhile_cons, hh, Bool.false_eq_true, if_false, hd, hdl, hl]
  rw [← hdl, ← hd, List.reverse_reverse]

/-- The trim of a string with no whitespace in front: what is left once the whitespace at its
end, `ws`, is cut off. -/
theorem trimWs_split {w : List UInt8} (hne : w ≠ []) (hh : isSpace (w.head hne) = false) :
    ∃ v ws, w = v ++ ws ∧ trimWs w = v ∧ (∀ c ∈ ws, isSpace c = true) ∧
      ∃ hv : v ≠ [], isSpace (v.getLast hv) = false := by
  obtain ⟨c, w', rfl⟩ := List.exists_cons_of_ne_nil hne
  simp only [List.head_cons] at hh
  have hsplit := List.takeWhile_append_dropWhile isSpace (c :: w').reverse
  have hdne : (c :: w').reverse.dropWhile isSpace ≠ [] := by
    rw [Ne, List.dropWhile_eq_nil_iff]
    intro h
    rw [h c (by simp)] at hh
    exact absurd hh (by simp)
  refine ⟨((c :: w').reverse.dropWhile isSpace).reverse,
    ((c :: w').reverse.takeWhile isSpace).reverse, ?_, ?_, ?_, by simpa using hdne, ?_⟩
  · rw [← List.reverse_append, hsplit, List.reverse_reverse]
  · simp only [trimWs, List.dropWhile_cons, hh, Bool.false_eq_true, if_false]
  · intro d hd
    exact List.mem_takeWhile_imp (List.mem_reverse.1 hd)
  · rw [List.getLast_reverse]
    exact List.head_dropWhile_not isSpace _ hdne

/-! ### Trimming -/

/-- `trim_leading_whitespace(str)`: the first position from `str` on that does not hold
whitespace. -/
def trimLeadingWhitespace (m : LineBuf) (str : Int) : Nat → Int × LineBuf
  | 0 => (str, m)
  | fuel + 1 =>
      if isSpace (m.byte str) then trimLeadingWhitespace (m.read str) (str + 1) fuel
      else (str, m.read str)

/-- `trim_leading_whitespace` passes the `w` blanks at `str` and only reads. -/
theorem trimLeadingWhitespace_spec (m : LineBuf) (str : Int) (w fuel : Nat)
    (hw : ∀ j < w, isSpace (m.byte (str + j)) = true) (hn : isSpace (m.byte (str + w)) = false)
    (hf : w < fuel) :
    (trimLeadingWhitespace m str fuel).1 = str + w ∧
      ReadOnly m (trimLeadingWhitespace m str fuel).2 := by
  induction w generalizing m str fuel with
  | zero =>
      obtain ⟨fuel, rfl⟩ : ∃ f, fuel = f + 1 := ⟨fuel - 1, by omega⟩
      rw [show str + ((0 : Nat) : Int) = str by omega] at hn
      simp only [trimLeadingWhitespace, hn, Bool.false_eq_true, if_false]
      exact ⟨by omega, .read m str⟩
  | succ w ih =>
      obtain ⟨fuel, rfl⟩ : ∃ f, fuel = f + 1 := ⟨fuel - 1, by omega⟩
      have h0 : isSpace (m.byte str) = true := by simpa using hw 0 (by omega)
      rw [trimLeadingWhitespace, if_pos h0]
      obtain ⟨h1, h2⟩ := ih (m.read str) (str + 1) fuel
        (fun j hj => by
          have := hw (j + 1) (by omega)
          rwa [show str + ((j + 1 : Nat) : Int) = str + 1 + j by omega] at this)
        (by rwa [show str + ((w + 1 : Nat) : Int) = str + 1 + w by omega] at hn) (by omega)
      exact ⟨by rw [h1]; omega, (ReadOnly.read m str).trans h2⟩

/-- `strlen(str)`. -/
def strlen (m : LineBuf) (str : Int) : Nat → Nat × LineBuf
  | 0 => (0, m)
  | fuel + 1 =>
      if m.byte str = 0 then (0, m.read str)
      else
        let r := strlen (m.read str) (str + 1) fuel
        (r.1 + 1, r.2)

/-- The loop of `trim_trailing_whitespace`: from `end` backwards, every whitespace byte is
overwritten with NUL. -/
def trimTrailingFrom (m : LineBuf) (e : Int) : Nat → LineBuf
  | 0 => m
  | fuel + 1 =>
      if isSpace (m.byte e) then trimTrailingFrom ((m.read e).write e 0) (e - 1) fuel
      else m.read e

/-- `trim_trailing_whitespace(str)`: `end = str + strlen(str) - 1`, then the loop. -/
def trimTrailingWhitespace (m : LineBuf) (str : Int) (fuel : Nat) : LineBuf :=
  let r := strlen m str fuel
  trimTrailingFrom r.2 (str + r.1 - 1) fuel

/-- On an empty string `end` is the byte in front of it. -/
theorem trimTrailingWhitespace_of_nul (m : LineBuf) (str : Int) (fuel : Nat)
    (h : m.byte str = 0) :
    trimTrailingWhitespace m str (fuel + 1) = trimTrailingFrom (m.read str) (str - 1) (fuel + 1) := by
  simp only [trimTrailingWhitespace, strlen, h, if_true]
  rw [show str + ((0 : Nat) : Int) - 1 = str - 1 by omega]

/-- The loop of `trim_trailing_whitespace` clears the `w` blanks before and at `e` and writes
nothing else. -/
theorem trimTrailingFrom_spec (m : LineBuf) (e : Int) (w fuel : Nat)
    (hw : ∀ j < w, isSpace (m.byte (e - j)) = true) (hn : isSpace (m.byte (e - w)) = false)
    (hf : w < fuel) :
    (∀ x, e - w < x → x ≤ e → (trimTrailingFrom m e fuel).byte x = 0) ∧
      WritesIn (e - w + 1) (e + 1) m (trimTrailingFrom m e fuel) := by
  induction w generalizing m e fuel with
  | zero =>
      obtain ⟨fuel, rfl⟩ : ∃ f, fuel = f + 1 := ⟨fuel - 1, by omega⟩
      rw [show e - ((0 : Nat) : Int) = e by omega] at hn
      simp only [trimTrailingFrom, hn, Bool.false_eq_true, if_false]
      exact ⟨fun x h1 h2 => absurd h2 (by omega), ReadOnly.read m e _ _⟩
  | succ w ih =>
      obtain ⟨fuel, rfl⟩ : ∃ f, fuel = f + 1 := ⟨fuel - 1, by omega⟩
      have h0 : isSpace (m.byte e) = true := by simpa using hw 0 (by omega)
      rw [trimTrailingFrom, if_pos h0]
      set m₁ := (m.read e).write e 0
      have hb : ∀ x, x ≠ e → m₁.byte x = m.byte x := fun x hx => Function.update_noteq hx _ _
      obtain ⟨h1, h2⟩ := ih m₁ (e - 1) fuel
        (fun j hj => by
          have := hw (j + 1) (by omega)
          rwa [hb _ (by omega), show e - 1 - (j : Int) = e - ((j + 1 : Nat) : Int) by omega])
        (by rwa [hb _ (by omega), show e - 1 - (w : Int) = e - ((w + 1 : Nat) : Int) by omega])
        (by omega)
      refine ⟨fun x hx1 hx2 => ?_, ?_⟩
      · rcases (show x < e ∨ x = e by omega) with hx | rfl
        · exact h1 x (by omega) (by omega)
        · rw [h2.byte x (.inr (by omega))]
          exact Function.update_same _ _ _
      · have hm : WritesIn (e - ((w + 1 : Nat) : Int) + 1) (e + 1) m m₁ :=
          (ReadOnly.read m e _ _).trans (.write _ _ (by omega) (by omega))
        exact hm.trans (h2.mono (by omega) (by omega))

/-! ### `split_keyvalue` -/

/-- `strchr(str, c)` for a byte `c ≠ 0`: the first position from `str` on that holds `c`, or
`NULL` if the string ends first. -/
def strchr (m : LineBuf) (str : Int) (c : UInt8) : Nat → Option Int × LineBuf
  | 0 => (none, m)
  | fuel + 1 =>
      if m.byte str = c then (some str, m.read str)
      else if m.byte str = 0 then (none, m.read str)
      else strchr (m.read str) (str + 1) c fuel

/-- `split_keyvalue(line)`: the value after the `=`, with the `=` overwritten by NUL and the
whitespace at the end of the key cleared; `fatal`'s format string if there is no `=` or no value
after it. -/
def splitKeyvalue (m : LineBuf) (line : Int) (fuel : Nat) : Except String Int × LineBuf :=
  match strchr m line 61 fuel with
  | (none, m) => (.error "%s line %u: Syntax error - missing assignment\n", m)
  | (some value, m) =>
      let r := trimLeadingWhitespace (m.write value 0) (value + 1) fuel
      if r.2.byte r.1 = 0 then (.error "%s line %u: Syntax error - missing value\n", r.2.read r.1)
      else (.ok r.1, trimTrailingWhitespace (r.2.read r.1) line fuel)

/-- A value as `split_keyvalue` returns it at `p`: a non-empty string `s` with no whitespace at
either end (the line's own end was trimmed by `read_line`), and in front of it `k` blanks and the
NUL that replaced the `=`. -/
structure KeyValueAt (b : Int → UInt8) (p : Int) (s : List UInt8) (k : Nat) : Prop where
  ne_nil : s ≠ []
  no_nul : 0 ∉ s
  head : isSpace (s.head ne_nil) = false
  last : isSpace (s.getLast ne_nil) = false
  cstring : CString b p s
  blanks : ∀ j < k, isSpace (b (p - 1 - j)) = true
  nul : b (p - 1 - k) = 0

/-! ### `split_comma_list` -/

/-- The loop of `split_comma_list(str, array)`: `str` is the position reached, `index` the index
of the element being read and `array` the elements found so far, `array[index]` the last. -/
def splitCommaLoop (fuel₀ : Nat) : Nat → LineBuf → Int → Nat → List Int →
    Except String (Nat × List Int) × LineBuf
  | 0, m, _, index, array => (.ok (index + 1, array), m)
  | fuel + 1, m, str, index, array =>
      if m.byte str = 0 then (.ok (index + 1, array), m.read str)
      else if m.byte str ≠ 44 then
        splitCommaLoop fuel₀ fuel ((m.read str).read str) (str + 1) index array
      else if maxListArray ≤ index + 1 then
        (.error "%s line %u: Invalid list - elements exceed max allowed (%u)\n",
          (m.read str).read str)
      else
        let m := trimTrailingWhitespace (((m.read str).read str).write str 0) str fuel₀
        if array.getD index 0 = str then (.error "%s line %u: Invalid list - empty element\n", m)
        else
          let r := trimLeadingWhitespace m (str + 1) fuel₀
          if r.2.byte r.1 = 0 then
            (.error "%s line %u: Invalid list - empty element\n", r.2.read r.1)
          else splitCommaLoop fuel₀ fuel (r.2.read r.1) r.1 (index + 1) (array ++ [r.1])

/-- `split_comma_list(str, array)`: the number of elements and their positions. -/
def splitCommaList (m : LineBuf) (str : Int) (fuel : Nat) :
    Except String (Nat × List Int) × LineBuf :=
  splitCommaLoop fuel fuel m str 0 [str]

/-! ### The fields of a value -/

/-- The first comma of a string that has one. -/
theorem exists_eq_append_comma {u : List UInt8} (h : (44 : UInt8) ∈ u) :
    ∃ f t, u = f ++ 44 :: t ∧ (44 : UInt8) ∉ f := by
  induction u with
  | nil => simp at h
  | cons c u ih =>
      by_cases hc : c = 44
      · exact ⟨[], u, by rw [hc]; rfl, by simp⟩
      · obtain ⟨f, t, rfl, hf⟩ := ih ((List.mem_cons.1 h).resolve_left fun h => hc h.symm)
        exact ⟨c :: f, t, rfl, by simp [Ne.symm hc, hf]⟩

theorem splitOn_comma_of_not_mem {u : List UInt8} (h : (44 : UInt8) ∉ u) :
    u.splitOn 44 = [u] :=
  List.splitOnP_eq_single _ u fun x hx hx' => h (by rwa [beq_iff_eq.1 hx'] at hx)

theorem splitOn_comma_append {f : List UInt8} (h : (44 : UInt8) ∉ f) (t : List UInt8) :
    (f ++ 44 :: t).splitOn 44 = f :: t.splitOn 44 :=
  List.splitOnP_first _ f (fun x hx hx' => h (by rwa [beq_iff_eq.1 hx'] at hx)) 44 (by simp) t

/-- A string has one field more than it has commas. -/
theorem length_splitOn_comma (s : List UInt8) : (s.splitOn 44).length = s.count 44 + 1 := by
  induction s with
  | nil => rfl
  | cons c s ih =>
      simp only [List.splitOn, List.splitOnP_cons, List.count_cons] at ih ⊢
      split_ifs <;> simp [ih]

/-- Blanks in front of a string join its first field and change no trimmed field. -/
theorem fields_blank_append {ws : List UInt8} (hws : ∀ c ∈ ws, isSpace c = true)
    (t : List UInt8) : ((ws ++ t).splitOn 44).map trimWs = (t.splitOn 44).map trimWs := by
  induction ws with
  | nil => rfl
  | cons c ws ih =>
      simp only [List.mem_cons, forall_eq_or_imp] at hws
      have hc : (c == 44) = false := by simpa using isSpace_ne_comma hws.1
      rw [← ih hws.2]
      simp only [List.splitOn, List.cons_append, List.splitOnP_cons, hc, Bool.false_eq_true,
        if_false]
      obtain ⟨g, L, hL⟩ := List.exists_cons_of_ne_nil (List.splitOnP_ne_nil (· == 44) (ws ++ t))
      rw [hL, List.modifyHead, List.map_cons, List.map_cons,
        show c :: g = [c] ++ g from rfl, trimWs_blank_append (by simpa using hws.1)]

theorem Stored.forall {b : Int → UInt8} {q : Int} {w : List UInt8} (h : Stored b q w)
    {P : UInt8 → Prop} (hP : ∀ c ∈ w, P c) : ∀ j < w.length, P (b (q + j)) :=
  fun j hj => h j hj ▸ hP _ (List.getElem_mem hj)

theorem drop_eq_singleton_of_getD {array : List Int} {index : Nat} {a : Int}
    (hlen : array.length = index + 1) (hlast : array.getD index 0 = a) :
    array.drop index = [a] := by
  rw [List.drop_eq_getElem_cons (by omega), List.drop_eq_nil_of_le (by omega), ← hlast,
    List.getD_eq_getElem?_getD, List.getElem?_eq_getElem (by omega), Option.getD_some]

/-- The text after a comma and the blanks that follow it, in a value as `split_keyvalue` leaves
it, is again such a value once the comma holds NUL and the bytes after it are kept. -/
theorem KeyValueAt.next {b b' : Int → UInt8} {a : Int} {f ws2 t' : List UInt8} {k : Nat}
    (hv : KeyValueAt b a (f ++ 44 :: (ws2 ++ t')) k) (hws2 : ∀ c ∈ ws2, isSpace c = true)
    (hne : t' ≠ []) (hhead : isSpace (t'.head hne) = false)
    (hb : ∀ x, a + f.length + 1 ≤ x → b' x = b x) (hc0 : b' (a + f.length) = 0) :
    KeyValueAt b' (a + f.length + 1 + ws2.length) t' ws2.length := by
  have hs := hv.cstring.1
  rw [stored_append, stored_cons, stored_append] at hs
  have hend := hv.cstring.2
  simp only [List.length_append, List.length_cons] at hend
  exact
    { ne_nil := hne
      no_nul := fun h => hv.no_nul (by simp [h])
      head := hhead
      last := by
        rw [← getLast_eq_of_eq_append (f ++ 44 :: ws2) (by simp) hv.ne_nil hne]
        exact hv.last
      cstring := ⟨hs.2.2.2.congr fun j _ => hb _ (by omega),
        by rw [hb _ (by omega), ← hend]; congr 1; omega⟩
      blanks := fun j hj => by
        have := hs.2.2.1.forall hws2 (ws2.length - 1 - j) (by omega)
        rwa [hb _ (by omega), show a + f.length + 1 + ws2.length - 1 - (j : Int) =
          a + f.length + 1 + ((ws2.length - 1 - j : Nat) : Int) by omega]
      nul := by rw [show a + f.length + 1 + ws2.length - 1 - (ws2.length : Int) = a + f.length by
        omega]; exact hc0 }

/-! ### The loop of `split_comma_list` -/

/-- What the loop of `split_comma_list` does from an element at `a` whose text up to the end of
the value is `u`, with `index` elements in `array` before it: it fails exactly when the list gets
too long or has an empty element; otherwise it counts and stores one trimmed element per field of
`u`, and writes only inside `u`. -/
structure SplitOutcome (m : LineBuf) (a : Int) (u : List UInt8) (index : Nat)
    (array : List Int) (r : Except String (Nat × List Int) × LineBuf) : Prop where
  fails : (∃ e, r.1 = .error e) ↔
    maxListArray < index + (u.splitOn 44).length ∨ [] ∈ (u.splitOn 44).map trimWs
  count : ∀ n arr, r.1 = .ok (n, arr) → n = index + (u.splitOn 44).length
  before : ∀ n arr, r.1 = .ok (n, arr) → arr.take index = array.take index
  elements : ∀ n arr, r.1 = .ok (n, arr) →
    List.Forall₂ (CString r.2.byte) (arr.drop index) ((u.splitOn 44).map trimWs)
  writes : ∀ n arr, r.1 = .ok (n, arr) → WritesIn a (a + u.length) m r.2

theorem SplitOutcome.of_error {m : LineBuf} {a : Int} {u : List UInt8} {index : Nat}
    {array : List Int} {r : Except String (Nat × List Int) × LineBuf} {e : String}
    (he : r.1 = .error e)
    (hbad : maxListArray < index + (u.splitOn 44).length ∨ [] ∈ (u.splitOn 44).map trimWs) :
    SplitOutcome m a u index array r where
  fails := ⟨fun _ => hbad, fun _ => ⟨e, he⟩⟩
  count _ _ h := by rw [he] at h; cases h
  before _ _ h := by rw [he] at h; cases h
  elements _ _ h := by rw [he] at h; cases h
  writes _ _ h := by rw [he] at h; cases h

/-- An element `v` at `a`, then the fields of `t'` from `a'` on: what the loop does from `a'` gives
what it does from `a`, once it has stored `v` and written only before `a'`. -/
theorem SplitOutcome.cons {m m₂ : LineBuf} {a a' : Int} {u v t' : List UInt8} {index : Nat}
    {array : List Int} {r : Except String (Nat × List Int) × LineBuf}
    (hih : SplitOutcome m₂ a' t' (index + 1) (array ++ [a']) r)
    (hF : (u.splitOn 44).map trimWs = v :: (t'.splitOn 44).map trimWs) (hvne : v ≠ [])
    (hlen : array.length = index + 1) (hlast : array.getD index 0 = a)
    (hcs : CString m₂.byte a v) (hva : a + v.length < a') (hW : WritesIn a a' m m₂)
    (hend : a' + t'.length = a + u.length) :
    SplitOutcome m a u index array r := by
  have hL : (u.splitOn 44).length = (t'.splitOn 44).length + 1 := by
    simpa using congrArg List.length hF
  refine ⟨?_, fun n arr hok => ?_, fun n arr hok => ?_, fun n arr hok => ?_, fun n arr hok => ?_⟩
  · rw [hih.fails, hF, hL, List.mem_cons, Nat.add_right_comm]
    exact or_congr_right ⟨Or.inr, fun h => h.resolve_left fun h' => hvne h'.symm⟩
  · rw [hih.count n arr hok, hL]; omega
  · have h1 := hih.before n arr hok
    rw [List.take_left' (by simp [hlen])] at h1
    rw [← h1, List.take_take, Nat.min_eq_left (Nat.le_succ index)]
  · have h1 := hih.before n arr hok
    rw [List.take_left' (by simp [hlen])] at h1
    have hl : index < arr.length := by
      have := congrArg List.length h1
      simp only [List.length_take] at this
      omega
    have harr : arr[index] = a := by
      have h2 := congrArg (·[index]?) h1
      simp only [List.getElem?_take_of_lt (Nat.lt_succ_self index),
        List.getElem?_eq_getElem hl, List.getElem?_eq_getElem (show index < array.length by omega),
        Option.some.injEq] at h2
      rw [h2, ← hlast, List.getD_eq_getElem?_getD, List.getElem?_eq_getElem (by omega),
        Option.getD_some]
    rw [List.drop_eq_getElem_cons hl, harr, hF]
    exact .cons (hcs.congr fun j hj => (hih.writes n arr hok).byte _ (.inl (by omega)))
      (hih.elements n arr hok)
  · exact (hW.mono (Int.le_refl a) (by omega)).trans
      ((hih.writes n arr hok).mono (by omega) (by omega))

/-- The loop passes bytes that are neither NUL nor a comma, reading each of them twice. -/
theorem splitCommaLoop_scan (fuel₀ index : Nat) (array : List Int) :
    ∀ (f : List UInt8) (fuel : Nat) (m : LineBuf) (str : Int), (∀ c ∈ f, c ≠ 0 ∧ c ≠ 44) →
      Stored m.byte str f → ∃ m', ReadOnly m m' ∧
        splitCommaLoop fuel₀ (fuel + f.length) m str index array =
          splitCommaLoop fuel₀ fuel m' (str + f.length) index array
  | [], fuel, m, str, _, _ => ⟨m, .refl m, by simp⟩
  | c :: f, fuel, m, str, hf, hs => by
      rw [stored_cons] at hs
      have hc := hf c (List.mem_cons_self c f)
      obtain ⟨m', hm', he⟩ := splitCommaLoop_scan fuel₀ index array f fuel
        ((m.read str).read str) (str + 1) (fun d hd => hf d (List.mem_cons_of_mem c hd)) hs.2
      refine ⟨m', ((ReadOnly.read m str).trans (.read _ str)).trans hm', ?_⟩
      rw [show fuel + (c :: f).length = fuel + f.length + 1 by simp; omega, splitCommaLoop,
        if_neg (by rw [hs.1]; exact hc.1), if_pos (by rw [hs.1]; exact hc.2), he,
        show str + 1 + (f.length : Int) = str + ((c :: f).length : Nat) by simp; omega]

/-- The last element: the loop reaches the end of the value and stores nothing more. -/
theorem splitCommaLoop_last (fuel₀ fuel : Nat) (u : List UInt8) (m : LineBuf) (a : Int)
    (index : Nat) (array : List Int) (k : Nat) (hv : KeyValueAt m.byte a u k)
    (hc : (44 : UInt8) ∉ u) (hlen : array.length = index + 1) (hlast : array.getD index 0 = a)
    (hidx : index < maxListArray) (hf : u.length < fuel) :
    SplitOutcome m a u index array (splitCommaLoop fuel₀ fuel m a index array) := by
  obtain ⟨m₁, hm₁, hscan⟩ := splitCommaLoop_scan fuel₀ index array u (fuel - u.length) m a
    (fun c hc' => ⟨fun h => hv.no_nul (h ▸ hc'), fun h => hc (h ▸ hc')⟩) hv.cstring.1
  obtain ⟨g, hg⟩ : ∃ g, fuel - u.length = g + 1 := ⟨fuel - u.length - 1, by omega⟩
  rw [Nat.sub_add_cancel hf.le, hg] at hscan
  have hnul : m₁.byte (a + u.length) = 0 := by rw [hm₁.byte_eq]; exact hv.cstring.2
  have hfields : (u.splitOn 44).map trimWs = [u] := by
    rw [splitOn_comma_of_not_mem hc, List.map_singleton,
      trimWs_eq_self hv.ne_nil hv.head hv.last]
  have hlen1 : (u.splitOn 44).length = 1 := by rw [splitOn_comma_of_not_mem hc]; rfl
  rw [hscan, splitCommaLoop, if_pos hnul]
  refine ⟨⟨(fun ⟨_, h⟩ => by cases h), fun h => ?_⟩, ?_, ?_, ?_, ?_⟩
  · rw [hfields, hlen1] at h
    rcases h with h | h
    · omega
    · exact absurd (List.mem_singleton.1 h).symm hv.ne_nil
  · rintro n arr ⟨⟩; rw [hlen1]
  · rintro n arr ⟨⟩; rfl
  · rintro n arr ⟨⟩
    rw [hfields, drop_eq_singleton_of_getD hlen hlast]
    exact .cons (by simpa [hm₁.byte_eq] using hv.cstring) .nil
  · rintro n arr ⟨⟩
    exact (hm₁.trans (.read _ _)) _ _

/-- At the comma that ends a non-empty element `v ++ ws`, `ws` its trailing blanks, with the
blanks `ws2` after the comma: the loop clears `ws` and the comma, passes `ws2`, and either fails
on an empty last element or goes on with the next one. -/
theorem splitCommaLoop_comma (fuel₀ g : Nat) (m : LineBuf) (a : Int) (index : Nat)
    (array : List Int) {v ws ws2 : List UInt8} (hvne : v ≠ [])
    (hvl : isSpace (v.getLast hvne) = false) (hws : ∀ c ∈ ws, isSpace c = true)
    (hws2 : ∀ c ∈ ws2, isSpace c = true) (hs : Stored m.byte a (v ++ ws ++ 44 :: ws2))
    (hn : isSpace (m.byte (a + (v ++ ws).length + 1 + ws2.length)) = false)
    (hlast : array.getD index 0 = a) (hmax : ¬maxListArray ≤ index + 1)
    (hf₀ : (v ++ ws).length + ws2.length < fuel₀) :
    ∃ m', WritesIn a (a + (v ++ ws).length + 1) m m' ∧ CString m'.byte a v ∧
      m'.byte (a + (v ++ ws).length) = 0 ∧
      splitCommaLoop fuel₀ (g + 1) m (a + (v ++ ws).length) index array =
        if m'.byte (a + (v ++ ws).length + 1 + ws2.length) = 0 then
          (.error "%s line %u: Invalid list - empty element\n",
            m'.read (a + (v ++ ws).length + 1 + ws2.length))
        else splitCommaLoop fuel₀ g (m'.read (a + (v ++ ws).length + 1 + ws2.length))
          (a + (v ++ ws).length + 1 + ws2.length) (index + 1)
          (array ++ [a + (v ++ ws).length + 1 + ws2.length]) := by
  set c := a + (v ++ ws).length with hc
  rw [stored_append, stored_append, stored_cons] at hs
  obtain ⟨⟨hsv, hsws⟩, hcomma, hsws2⟩ := hs
  obtain ⟨f₀, rfl⟩ : ∃ f, fuel₀ = f + 1 := ⟨fuel₀ - 1, by omega⟩
  have hvpos : 0 < v.length := List.length_pos.2 hvne
  set m₂ := ((m.read c).read c).write c 0
  have hb₂ : ∀ x, x ≠ c → (m₂.read c).byte x = m.byte x := fun x hx => Function.update_noteq hx _ _
  -- the blanks at the end of the element are cleared, back to its last byte
  obtain ⟨hz, hW⟩ := trimTrailingFrom_spec (m₂.read c) (c - 1) ws.length (f₀ + 1)
    (fun j hj => by
      rw [hb₂ _ (by omega)]
      have := hsws.forall hws (ws.length - 1 - j) (by omega)
      rwa [show a + (v.length : Int) + ((ws.length - 1 - j : Nat) : Int) = c - 1 - j by
        simp only [hc, List.length_append]; omega] at this)
    (by
      rw [hb₂ _ (by omega), show c - 1 - (ws.length : Int) = a + ((v.length - 1 : Nat) : Int) by
        simp only [hc, List.length_append]; omega, hsv _ (by omega), ← List.getLast_eq_getElem]
      exact hvl)
    (by simp only [List.length_append] at hf₀; omega)
  set m₃ := trimTrailingFrom (m₂.read c) (c - 1) (f₀ + 1)
  have hb₃ : ∀ x, c ≤ x → m₃.byte x = (m₂.read c).byte x := fun x hx => hW.byte x (.inr (by omega))
  have hc₃ : m₃.byte c = 0 := by rw [hb₃ c (Int.le_refl c)]; exact Function.update_same _ _ _
  -- the blanks after the comma are passed
  obtain ⟨hl₁, hl₂⟩ := trimLeadingWhitespace_spec m₃ (c + 1) ws2.length (f₀ + 1)
    (fun j hj => by
      rw [hb₃ _ (by omega), hb₂ _ (by omega)]
      have := hsws2.forall hws2 j hj
      rwa [show a + ((v ++ ws).length : Int) + 1 = c + 1 by rfl] at this)
    (by rw [hb₃ _ (by omega), hb₂ _ (by omega)]; exact hn)
    (by omega)
  refine ⟨(trimLeadingWhitespace m₃ (c + 1) (f₀ + 1)).2, ?_, ⟨fun j hj => ?_, ?_⟩, ?_, ?_⟩
  · have h₂ : WritesIn a (c + 1) m (m₂.read c) :=
      (((ReadOnly.read m c).trans (.read _ c)) a (c + 1)).trans
        ((WritesIn.write _ _ (by simp only [hc, List.length_append]; omega) (by omega)).trans
          (ReadOnly.read _ _ _ _))
    exact (h₂.trans (hW.mono (by simp only [hc, List.length_append]; omega) (by omega))).trans
      (hl₂ _ _)
  · rw [hl₂.byte_eq, hW.byte _ (.inl ?_), hb₂ _ ?_, hsv j hj] <;>
      simp only [hc, List.length_append] <;> omega
  · rw [hl₂.byte_eq]
    rcases Nat.eq_zero_or_pos ws.length with h0 | h0
    · rw [show a + (v.length : Int) = c by simp only [hc, List.length_append]; omega, hc₃]
    · exact hz _ (by simp only [hc, List.length_append]; omega)
        (by simp only [hc, List.length_append]; omega)
  · rw [hl₂.byte_eq, hc₃]
  · rw [splitCommaLoop, if_neg (by rw [hcomma]; decide), if_neg (by rw [hcomma]; decide),
      if_neg hmax]
    have ht : trimTrailingWhitespace (((m.read c).read c).write c 0) c (f₀ + 1) = m₃ :=
      trimTrailingWhitespace_of_nul _ _ _ (Function.update_same _ _ _)
    have hac : array.getD index 0 ≠ c := by
      rw [hlast, hc, List.length_append]; omega
    simp only [ht, if_neg hac, hl₁]

/-- **The loop of `split_comma_list`**, started at an element of a value as `split_keyvalue`
leaves it, with enough fuel. -/
theorem splitCommaLoop_spec (fuel₀ fuel : Nat) (u : List UInt8) (m : LineBuf) (a : Int)
    (index : Nat) (array : List Int) (k : Nat) (hv : KeyValueAt m.byte a u k)
    (hlen : array.length = index + 1) (hlast : array.getD index 0 = a)
    (hidx : index < maxListArray) (hf : u.length < fuel) (hf₀ : u.length + k < fuel₀) :
    SplitOutcome m a u index array (splitCommaLoop fuel₀ fuel m a index array) := by
  induction fuel using Nat.strong_induction_on generalizing u m a index array k with
  | _ fuel ih =>
  by_cases hc : (44 : UInt8) ∈ u
  swap
  · exact splitCommaLoop_last fuel₀ fuel u m a index array k hv hc hlen hlast hidx hf
  obtain ⟨f, t, rfl, hf44⟩ := exists_eq_append_comma hc
  have hs := hv.cstring.1
  rw [stored_append, stored_cons] at hs
  have hlu : (f ++ 44 :: t).length = f.length + 1 + t.length := by simp; omega
  obtain ⟨m₁, hm₁, hscan⟩ := splitCommaLoop_scan fuel₀ index array f (fuel - f.length) m a
    (fun c hc => ⟨fun h => hv.no_nul (by simp [← h, hc]), fun h => hf44 (h ▸ hc)⟩) hs.1
  obtain ⟨g, hg⟩ : ∃ g, fuel - f.length = g + 1 := ⟨fuel - f.length - 1, by omega⟩
  rw [Nat.sub_add_cancel (by omega), hg] at hscan
  rw [hscan]
  have hb₁ := hm₁.byte_eq
  have hcomma : m₁.byte (a + f.length) = 44 := by rw [hb₁]; exact hs.2.1
  have hfields := splitOn_comma_append hf44 t
  by_cases hmax : maxListArray ≤ index + 1
  · -- the list is full
    rw [splitCommaLoop, if_neg (by rw [hcomma]; decide), if_neg (by rw [hcomma]; decide),
      if_pos hmax]
    refine .of_error rfl (.inl ?_)
    rw [hfields, List.length_cons]
    have := List.length_pos.2 (show t.splitOn 44 ≠ [] from List.splitOnP_ne_nil _ t)
    omega
  obtain rfl | hfne := em (f = [])
  · -- an empty element
    rw [splitCommaLoop, if_neg (by rw [hcomma]; decide), if_neg (by rw [hcomma]; decide),
      if_neg hmax]
    simp only [show a + (([] : List UInt8).length : Int) = a by simp, hlast, ite_true]
    exact .of_error rfl (.inr (by rw [hfields]; exact List.mem_cons_self _ _))
  -- a non-empty element `v ++ ws`, `ws` its trailing blanks, then the blanks `ws2` and `t'`
  have hfhead := hv.head
  rw [List.head_append_of_ne_nil hfne] at hfhead
  obtain ⟨v, ws, rfl, htrim, hws, hvne, hvl⟩ := trimWs_split hfne hfhead
  have ht := (List.takeWhile_append_dropWhile isSpace t).symm
  set ws2 := t.takeWhile isSpace
  set t' := t.dropWhile isSpace
  have hws2 : ∀ c ∈ ws2, isSpace c = true := fun c hc => List.mem_takeWhile_imp hc
  have hst := hs.2.2
  rw [ht, stored_append] at hst
  have htl : t.length = ws2.length + t'.length := by rw [ht, List.length_append]
  set a' := a + ((v ++ ws).length : Int) + 1 + ws2.length with ha'
  have hnul : m.byte (a' + t'.length) = 0 := by
    rw [show a' + t'.length = a + (v ++ ws ++ 44 :: t).length by omega]; exact hv.cstring.2
  have hcomma' : ∀ (hn : isSpace (m₁.byte a') = false), ∃ m', _ := fun hn =>
    splitCommaLoop_comma fuel₀ g m₁ a index array hvne hvl hws hws2
      (by rw [hb₁, stored_append, stored_cons]; exact ⟨hs.1, hs.2.1, hst.1⟩) hn hlast hmax
      (by omega)
  obtain ht'0 | ht'ne := em (t' = [])
  · -- the last element is blank
    have hz : m.byte a' = 0 := by rw [show a' = a' + t'.length by rw [ht'0]; simp, hnul]
    obtain ⟨m', hW, -, -, heq⟩ := hcomma' (by rw [hb₁, hz]; decide)
    rw [heq, if_pos (by rw [hW.byte _ (.inr (by omega)), hb₁, hz])]
    refine .of_error rfl (.inr ?_)
    rw [hfields, show t = ws2 by rw [ht, ht'0, List.append_nil],
      splitOn_comma_of_not_mem fun h => isSpace_ne_comma (hws2 _ h) rfl]
    exact List.mem_cons_of_mem _ (by simp [trimWs_eq_nil_iff.2 hws2])
  -- the next element starts at `a'`
  have hhead : m.byte a' = t'.head ht'ne := by
    have h0 := hst.2 0 (List.length_pos.2 ht'ne)
    rwa [Int.natCast_zero, Int.add_zero, ← List.head_eq_getElem] at h0
  obtain ⟨m', hW, hcs, hc0, heq⟩ :=
    hcomma' (by rw [hb₁, hhead]; exact List.head_dropWhile_not isSpace t ht'ne)
  have hbm' : ∀ x, a + ((v ++ ws).length : Int) + 1 ≤ x → m'.byte x = m.byte x :=
    fun x hx => (hW.byte x (.inr hx)).trans (by rw [hb₁])
  rw [heq, if_neg (by
    rw [hbm' _ (by omega), hhead]
    exact fun h => hv.no_nul (by rw [ht, ← h]; simp [List.head_mem]))]
  have hkv : KeyValueAt (m'.read a').byte a' t' ws2.length :=
    KeyValueAt.next (by rw [← ht]; exact hv) hws2 ht'ne (List.head_dropWhile_not isSpace t ht'ne)
      hbm' hc0
  have hih := ih g (by omega) t' (m'.read a') a' (index + 1) (array ++ [a']) ws2.length hkv
    (by simp [hlen])
    (by rw [List.getD_eq_getElem?_getD, List.getElem?_append_right (by omega), hlen]; simp)
    (by omega) (by omega) (by omega)
  -- the fields of the whole list: the trimmed element, then those of `t'`
  have hF : ((v ++ ws ++ 44 :: t).splitOn 44).map trimWs = v :: (t'.splitOn 44).map trimWs := by
    rw [hfields, List.map_cons, htrim, ht, fields_blank_append hws2]
  have hvw : (v ++ ws).length = v.length + ws.length := List.length_append v ws
  exact .cons hih hF hvne hlen hlast hcs (by omega)
    (((hm₁ _ _).trans (hW.mono (Int.le_refl a) (by omega))).trans (ReadOnly.read m' a' _ _))
    (by omega)

/-- **`split_comma_list` on a value as `split_keyvalue` returns it.**  It fails exactly when the
value has more than `MAX_LIST_ARRAY` comma-separated fields or a field that is empty or all
whitespace.  Otherwise it returns one more than the number of commas and the positions of the
fields, in order, each stripped of its whitespace at both ends, and it has written only bytes of
the value. -/
theorem split_comma_list_fields (m : LineBuf) (p : Int) (s : List UInt8) (k fuel : Nat)
    (hv : KeyValueAt m.byte p s k) (hfuel : s.length + k < fuel) :
    ((∃ e, (splitCommaList m p fuel).1 = .error e) ↔
      (maxListArray < (s.splitOn 44).length ∨ ∃ f ∈ s.splitOn 44, ∀ c ∈ f, isSpace c = true)) ∧
    ∀ n array, (splitCommaList m p fuel).1 = .ok (n, array) →
      n = s.count 44 + 1 ∧
      List.Forall₂ (CString (splitCommaList m p fuel).2.byte) array ((s.splitOn 44).map trimWs) ∧
      WritesIn p (p + s.length) m (splitCommaList m p fuel).2 := by
  have h := splitCommaLoop_spec fuel fuel s m p 0 [p] k hv rfl rfl (by decide) (by omega) hfuel
  unfold splitCommaList
  refine ⟨?_, fun n array hok => ⟨?_, by simpa using h.elements n array hok, h.writes n array hok⟩⟩
  · rw [h.fails, Nat.zero_add]
    refine or_congr_right ⟨fun hm => ?_, fun ⟨f, hf, hs⟩ => ?_⟩
    · obtain ⟨f, hf, he⟩ := List.mem_map.1 hm
      exact ⟨f, hf, trimWs_eq_nil_iff.1 he⟩
    · exact List.mem_map.2 ⟨f, hf, trimWs_eq_nil_iff.2 hs⟩
  · rw [h.count n array hok, length_splitOn_comma]; omega

/-- The value `a,b` at offset `0`, right after the NUL that replaced the `=`. -/
def listValueBuf : LineBuf :=
  ⟨fun x => if x = 0 then 97 else if x = 1 then 44 else if x = 2 then 98 else 0, 3, []⟩

theorem split_comma_list_fields_ab :
    KeyValueAt listValueBuf.byte 0 [97, 44, 98] 0 ∧ [97, 44, 98].length + 0 < 8 ∧
    (((∃ e, (splitCommaList listValueBuf 0 8).1 = .error e) ↔
      (maxListArray < (([97, 44, 98] : List UInt8).splitOn 44).length ∨
        ∃ f ∈ ([97, 44, 98] : List UInt8).splitOn 44, ∀ c ∈ f, isSpace c = true)) ∧
    ∀ n array, (splitCommaList listValueBuf 0 8).1 = .ok (n, array) →
      n = ([97, 44, 98] : List UInt8).count 44 + 1 ∧
      List.Forall₂ (CString (splitCommaList listValueBuf 0 8).2.byte) array
        ((([97, 44, 98] : List UInt8).splitOn 44).map trimWs) ∧
      WritesIn 0 (0 + ([97, 44, 98] : List UInt8).length) listValueBuf
        (splitCommaList listValueBuf 0 8).2) :=
  have hv : KeyValueAt listValueBuf.byte 0 [97, 44, 98] 0 :=
    ⟨by decide, by decide, by decide, by decide, by decide, by decide, by decide⟩
  ⟨hv, by decide, split_comma_list_fields listValueBuf 0 [97, 44, 98] 0 8 hv (by decide)⟩

end McastBridge
