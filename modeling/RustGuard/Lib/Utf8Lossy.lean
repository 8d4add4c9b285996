/-
Lossy UTF-8 decoding, as `String::from_utf8_lossy` does it: valid UTF-8
is taken as it is, and every maximal piece that starts like a character
and is not one, or that cannot start one, becomes one U+FFFD.

The decoder is a machine over bytes. Between characters it holds
nothing; inside one it holds the value so far, how many bytes are owed,
and the range the next of them must lie in, which is the whole table of
the well-formed sequences. A byte out of range closes the piece with a
U+FFFD and is then looked at again as a first byte.

Three facts are taken from here. A text comes back from its own bytes
(`fromUtf8Lossy_utf8`). An ASCII byte is never part of anything longer:
a newline is in the decoded text exactly when the byte is among the
bytes (`newline_mem_fromUtf8Lossy`). And the text has no more characters
than there are bytes (`length_fromUtf8Lossy_le`), since every piece that
is replaced is at least one.
-/
import RustGuard.Lib.Json

namespace Lib.Utf8Lossy

-- ========================================================= the decoder

/-- Inside a character. -/
structure Pending where
  /-- The bits read so far. -/
  value : Nat
  /-- How many bytes are still to come. -/
  owed : Nat
  /-- The least and the greatest byte the next may be. -/
  lo : Nat
  hi : Nat
  deriving DecidableEq, Repr

/-- `char::REPLACEMENT_CHARACTER`. -/
def replacement : Char := Char.ofNat 0xFFFD

/-- What the first byte of a longer character leaves owed. -/
def lead (b : UInt8) : Option Pending :=
  let n := b.toNat
  if 0xC2 ≤ n ∧ n ≤ 0xDF then some ⟨n - 0xC0, 1, 0x80, 0xBF⟩
  else if n = 0xE0 then some ⟨0x0, 2, 0xA0, 0xBF⟩
  else if 0xE1 ≤ n ∧ n ≤ 0xEC then some ⟨n - 0xE0, 2, 0x80, 0xBF⟩
  else if n = 0xED then some ⟨0xD, 2, 0x80, 0x9F⟩
  else if 0xEE ≤ n ∧ n ≤ 0xEF then some ⟨n - 0xE0, 2, 0x80, 0xBF⟩
  else if n = 0xF0 then some ⟨0x0, 3, 0x90, 0xBF⟩
  else if 0xF1 ≤ n ∧ n ≤ 0xF3 then some ⟨n - 0xF0, 3, 0x80, 0xBF⟩
  else if n = 0xF4 then some ⟨0x4, 3, 0x80, 0x8F⟩
  else none

/-- A byte between characters. -/
def between (b : UInt8) : List Char × Option Pending :=
  if b.toNat < 0x80 then ([Char.ofNat b.toNat], none)
  else match lead b with
    | some p => ([], some p)
    | none => ([replacement], none)

/-- A byte inside a character. -/
def inside (p : Pending) (b : UInt8) : List Char × Option Pending :=
  if p.lo ≤ b.toNat ∧ b.toNat ≤ p.hi then
    let value := 64 * p.value + b.toNat % 64
    if p.owed = 1 then ([Char.ofNat value], none)
    else ([], some ⟨value, p.owed - 1, 0x80, 0xBF⟩)
  else
    let (out, next) := between b
    (replacement :: out, next)

/-- One byte. -/
def step : Option Pending → UInt8 → List Char × Option Pending
  | none, b => between b
  | some p, b => inside p b

/-- All bytes; an unfinished character at the end is replaced too. -/
def decode : Option Pending → List UInt8 → List Char
  | none, [] => []
  | some _, [] => [replacement]
  | s, b :: rest => (step s b).1 ++ decode (step s b).2 rest

/-- `String::from_utf8_lossy`. -/
def fromUtf8Lossy (bytes : List UInt8) : String :=
  String.ofList (decode none bytes)

-- ============================================================ newlines

/-- Whatever completes the character, its value is past ASCII, and no
ASCII byte completes it. -/
structure Pending.Wide (p : Pending) : Prop where
  owed_pos : 1 ≤ p.owed
  lo_ge : 0x80 ≤ p.lo
  hi_le : p.hi ≤ 0xBF
  value_ge : 0x80 ≤ 64 ^ (p.owed - 1) * (64 * p.value + (p.lo - 0x80))

/-- Every first byte leaves it so. -/
theorem lead_wide {b : UInt8} {p : Pending} (h : lead b = some p) :
    p.Wide := by
  unfold lead at h
  simp only at h
  split_ifs at h
  all_goals
    obtain rfl := Option.some.inj h
    constructor <;> simp only <;> omega

/-- Only ten is the newline. -/
private theorem ofNat_ne_newline {n : Nat} (h : n ≠ 10) :
    Char.ofNat n ≠ '\n' := by
  have hval : (Char.ofNat n).toNat = n ∨ (Char.ofNat n).toNat = 0 := by
    by_cases hv : n.isValidChar
    · rw [Char.ofNat, dif_pos hv]
      exact Or.inl rfl
    · rw [Char.ofNat, dif_neg hv]
      exact Or.inr rfl
  intro heq
  rw [heq] at hval
  rcases hval with hval | hval
  · exact h hval.symm
  · exact absurd hval (by decide)

private theorem replacement_ne_newline : replacement ≠ '\n' :=
  ofNat_ne_newline (by decide)

/-- A byte between characters gives a newline exactly if it is one. -/
theorem between_newline (b : UInt8) :
    ('\n' ∈ (between b).1 ↔ b = 0x0a) ∧ ∀ p ∈ (between b).2, p.Wide := by
  unfold between
  split
  · rename_i hascii
    refine ⟨?_, by simp⟩
    rw [List.mem_singleton]
    constructor
    · intro h
      by_contra hne
      refine ofNat_ne_newline (fun h10 => hne ?_) h.symm
      exact UInt8.toNat_inj.mp h10
    · rintro rfl
      rfl
  · rename_i hwide
    have hne : b ≠ 0x0a := by
      rintro rfl
      exact hwide (by decide)
    split
    · rename_i p hlead
      refine ⟨by simp [hne], ?_⟩
      intro q hq
      obtain rfl := Option.mem_some_iff.mp hq
      exact lead_wide hlead
    · refine ⟨?_, by simp⟩
      simp [hne, replacement_ne_newline.symm]

/-- Nor does a byte inside one change that. -/
theorem inside_newline {p : Pending} (hp : p.Wide) (b : UInt8) :
    ('\n' ∈ (inside p b).1 ↔ b = 0x0a) ∧ ∀ q ∈ (inside p b).2, q.Wide := by
  obtain ⟨howed, hlo, hhi, hvalue⟩ := hp
  unfold inside
  split
  · rename_i hrange
    have hne : b ≠ 0x0a := by
      rintro rfl
      exact absurd (Nat.le_trans hlo hrange.1) (by decide)
    -- the low six bits of a continuation byte are what it adds
    have hbits : p.lo - 0x80 ≤ b.toNat % 64 := by omega
    have hge : 0x80 ≤ 64 ^ (p.owed - 1) * (64 * p.value + b.toNat % 64) :=
      Nat.le_trans hvalue (Nat.mul_le_mul_left _ (by omega))
    simp only
    split
    · rename_i hone
      rw [hone] at hge
      refine ⟨?_, by simp⟩
      have hpast : 64 * p.value + b.toNat % 64 ≠ 10 := by
        intro h10
        rw [h10] at hge
        exact absurd hge (by decide)
      simp [hne, (ofNat_ne_newline hpast).symm]
    · rename_i hmore
      refine ⟨by simp [hne], ?_⟩
      intro q hq
      obtain rfl := Option.mem_some_iff.mp hq
      refine ⟨by simp only; omega, Nat.le_refl _, Nat.le_refl _, ?_⟩
      have hpow : 64 ^ (p.owed - 1) = 64 ^ (p.owed - 1 - 1) * 64 := by
        rw [← Nat.pow_succ]
        congr 1
        omega
      rw [hpow, Nat.mul_assoc] at hge
      simpa using hge
  · obtain ⟨hout, hnext⟩ := between_newline b
    refine ⟨?_, hnext⟩
    rw [← hout, List.mem_cons]
    exact or_iff_right replacement_ne_newline.symm

/-- From any state the decoder can be in, the newlines of the text are
those of the bytes. -/
theorem newline_mem_decode {s : Option Pending} (hs : ∀ p ∈ s, p.Wide)
    (bytes : List UInt8) : '\n' ∈ decode s bytes ↔ 0x0a ∈ bytes := by
  induction bytes generalizing s with
  | nil =>
      cases s with
      | none => simp [decode]
      | some p => simp [decode, replacement_ne_newline.symm]
  | cons b rest ih =>
      have hstep : ('\n' ∈ (step s b).1 ↔ b = 0x0a)
          ∧ ∀ p ∈ (step s b).2, p.Wide := by
        cases s with
        | none => exact between_newline b
        | some p => exact inside_newline (hs p rfl) b
      obtain ⟨hout, hnext⟩ := hstep
      have hdecode : decode s (b :: rest)
          = (step s b).1 ++ decode (step s b).2 rest := by
        cases s <;> rfl
      rw [hdecode, List.mem_append, hout, ih hnext, List.mem_cons]
      exact or_congr_left eq_comm

/-- Decoding neither adds a newline nor loses one. -/
theorem newline_mem_fromUtf8Lossy (bytes : List UInt8) :
    '\n' ∈ (fromUtf8Lossy bytes).toList ↔ 0x0a ∈ bytes := by
  rw [fromUtf8Lossy, String.toList_ofList]
  exact newline_mem_decode (by simp) bytes

-- ============================================================== length

/-- How many characters the bytes read so far may still add. -/
def owing (s : Option Pending) : Nat := if s.isSome then 1 else 0

theorem length_between_le (b : UInt8) :
    (between b).1.length + owing (between b).2 ≤ 1 := by
  unfold between
  split
  · simp [owing]
  · split <;> simp [owing]

/-- A byte adds one character at most, now or later. -/
theorem length_step_le (s : Option Pending) (b : UInt8) :
    (step s b).1.length + owing (step s b).2 ≤ owing s + 1 := by
  cases s with
  | none => exact Nat.le_trans (length_between_le b) (by simp)
  | some p =>
      have hbetween := length_between_le b
      show (inside p b).1.length + owing (inside p b).2 ≤ 1 + 1
      unfold inside
      split
      · simp only
        split <;> simp [owing]
      · simp only [List.length_cons]
        omega

/-- There are never more characters than bytes. -/
theorem length_decode_le (s : Option Pending) (bytes : List UInt8) :
    (decode s bytes).length ≤ bytes.length + owing s := by
  induction bytes generalizing s with
  | nil => cases s <;> simp [decode, owing]
  | cons b rest ih =>
      have hstep := length_step_le s b
      have hrest := ih (step s b).2
      have hdecode : decode s (b :: rest)
          = (step s b).1 ++ decode (step s b).2 rest := by
        cases s <;> rfl
      rw [hdecode, List.length_append, List.length_cons]
      omega

theorem length_fromUtf8Lossy_le (bytes : List UInt8) :
    (fromUtf8Lossy bytes).length ≤ bytes.length := by
  rw [fromUtf8Lossy, String.length_ofList]
  exact length_decode_le none bytes

-- ========================================================= valid UTF-8

private theorem toNat_ofNat {n : Nat} (hn : n < 256) :
    (UInt8.ofNat n).toNat = n :=
  UInt8.toNat_ofNat_of_lt' hn

/-- The last byte of a character. -/
private theorem decode_last {p : Pending} {n : Nat} (hn : n < 256)
    (hone : p.owed = 1) (hlo : p.lo ≤ n) (hhi : n ≤ p.hi)
    (rest : List UInt8) :
    decode (some p) (UInt8.ofNat n :: rest)
      = Char.ofNat (64 * p.value + n % 64) :: decode none rest := by
  rw [decode, step, inside, toNat_ofNat hn, if_pos ⟨hlo, hhi⟩]
  simp [hone]

/-- A byte in the middle of one. -/
private theorem decode_more {p : Pending} {n : Nat} (hn : n < 256)
    (hmore : p.owed ≠ 1) (hlo : p.lo ≤ n) (hhi : n ≤ p.hi)
    (rest : List UInt8) :
    decode (some p) (UInt8.ofNat n :: rest)
      = decode (some ⟨64 * p.value + n % 64, p.owed - 1, 0x80, 0xBF⟩)
          rest := by
  rw [decode, step, inside, toNat_ofNat hn, if_pos ⟨hlo, hhi⟩]
  simp [hmore]

/-- The first byte of a longer one. -/
private theorem decode_lead {p : Pending} {n : Nat} (hn : n < 256)
    (hwide : 0x80 ≤ n) (hlead : lead (UInt8.ofNat n) = some p)
    (rest : List UInt8) :
    decode none (UInt8.ofNat n :: rest) = decode (some p) rest := by
  rw [decode, step, between, toNat_ofNat hn, if_neg (by omega), hlead]
  rfl

/-- The first byte of a character of two. -/
private theorem lead_two {v : Nat} (hge : 0x80 ≤ v) (hle : v ≤ 0x7ff) :
    lead (UInt8.ofNat (v / 64 % 32 + 0xc0))
      = some ⟨v / 64, 1, 0x80, 0xBF⟩ := by
  unfold lead
  rw [toNat_ofNat (by omega), if_pos (by omega),
    show v / 64 % 32 + 0xc0 - 0xC0 = v / 64 by omega]

/-- Of three: a value below 0x800 or a surrogate is kept out by the
range of the second byte. -/
private theorem lead_three {v : Nat} (hge : 0x800 ≤ v) (hle : v ≤ 0xffff)
    (hsurrogate : ¬ (0xd800 ≤ v ∧ v ≤ 0xdfff)) :
    ∃ lo hi, lead (UInt8.ofNat (v / 4096 % 16 + 0xe0))
        = some ⟨v / 4096, 2, lo, hi⟩
      ∧ lo ≤ v / 64 % 64 + 0x80 ∧ v / 64 % 64 + 0x80 ≤ hi := by
  have hnat : (UInt8.ofNat (v / 4096 % 16 + 0xe0)).toNat
      = v / 4096 % 16 + 0xe0 := toNat_ofNat (by omega)
  have hval : v / 4096 % 16 + 0xe0 - 0xe0 = v / 4096 := by omega
  unfold lead
  simp only [hnat, hval]
  rw [if_neg (by omega)]
  split_ifs with he0 he1 hed hee hf0 hf1 hf4
  · exact ⟨_, _, by rw [show v / 4096 = 0 by omega], by omega, by omega⟩
  · exact ⟨_, _, rfl, by omega, by omega⟩
  · exact ⟨_, _, by rw [show v / 4096 = 0xD by omega], by omega, by omega⟩
  · exact ⟨_, _, rfl, by omega, by omega⟩
  all_goals omega

/-- Of four. -/
private theorem lead_four {v : Nat} (hge : 0x10000 ≤ v)
    (hle : v ≤ 0x10ffff) :
    ∃ lo hi, lead (UInt8.ofNat (v / 262144 % 8 + 0xf0))
        = some ⟨v / 262144, 3, lo, hi⟩
      ∧ lo ≤ v / 4096 % 64 + 0x80 ∧ v / 4096 % 64 + 0x80 ≤ hi := by
  have hnat : (UInt8.ofNat (v / 262144 % 8 + 0xf0)).toNat
      = v / 262144 % 8 + 0xf0 := toNat_ofNat (by omega)
  have hval : v / 262144 % 8 + 0xf0 - 0xf0 = v / 262144 := by omega
  unfold lead
  simp only [hnat, hval]
  rw [if_neg (by omega), if_neg (by omega), if_neg (by omega),
    if_neg (by omega), if_neg (by omega)]
  split_ifs with hf0 hf1 hf4
  · exact ⟨_, _, by rw [show v / 262144 = 0 by omega], by omega, by omega⟩
  · exact ⟨_, _, rfl, by omega, by omega⟩
  · exact ⟨_, _, by rw [show v / 262144 = 4 by omega], by omega, by omega⟩
  · omega

/-- A character comes back from its own bytes. -/
theorem decode_utf8EncodeChar (c : Char) (rest : List UInt8) :
    decode none (String.utf8EncodeChar c ++ rest) = c :: decode none rest := by
  have hc : Char.ofNat c.val.toNat = c := Char.ofNat_toNat c
  have hvalid : c.val.toNat < 0xd800
      ∨ (0xdfff < c.val.toNat ∧ c.val.toNat < 0x110000) := c.valid
  unfold String.utf8EncodeChar
  generalize c.val.toNat = v at hc hvalid
  simp only
  split_ifs with h1 h2 h3
  · have hnat : (UInt8.ofNat v).toNat = v :=
      toNat_ofNat (Nat.lt_of_le_of_lt h1 (by decide))
    rw [List.singleton_append, decode, step, between, hnat,
      if_pos (by omega), hc]
    rfl
  · simp only [List.cons_append, List.nil_append]
    rw [decode_lead (by omega) (by omega) (lead_two (by omega) h2),
      decode_last (by omega) rfl (by simp only; omega) (by simp only; omega)]
    simp only
    rw [show 64 * (v / 64) + (v % 64 + 128) % 64 = v by omega, hc]
  · obtain ⟨lo, hi, hlead, hlo, hhi⟩ :=
      lead_three (by omega) h3 (by omega)
    simp only [List.cons_append, List.nil_append]
    rw [decode_lead (by omega) (by omega) hlead,
      decode_more (by omega) (by simp) hlo hhi,
      decode_last (by omega) rfl (by simp only; omega) (by simp only; omega)]
    simp only
    rw [show 64 * (64 * (v / 4096) + (v / 64 % 64 + 128) % 64)
      + (v % 64 + 128) % 64 = v by omega, hc]
  · obtain ⟨lo, hi, hlead, hlo, hhi⟩ := lead_four (v := v) (by omega) (by omega)
    simp only [List.cons_append, List.nil_append]
    rw [decode_lead (by omega) (by omega) hlead,
      decode_more (by omega) (by simp) hlo hhi,
      decode_more (by omega) (by simp) (by simp only; omega)
        (by simp only; omega),
      decode_last (by omega) rfl (by simp only; omega) (by simp only; omega)]
    simp only
    rw [show 64 * (64 * (64 * (v / 262144) + (v / 4096 % 64 + 128) % 64)
      + (v / 64 % 64 + 128) % 64) + (v % 64 + 128) % 64 = v by omega, hc]

/-- Valid UTF-8 is left unchanged. -/
theorem fromUtf8Lossy_utf8 (s : String) : fromUtf8Lossy (Json.utf8 s) = s := by
  have hbytes : Json.utf8 s = s.toList.flatMap String.utf8EncodeChar := by
    unfold Json.utf8
    rw [String.toUTF8_eq_toByteArray, ← String.utf8Encode_toList,
      List.utf8Encode, List.toList_data_toByteArray]
  have hdecode : ∀ cs : List Char,
      decode none (cs.flatMap String.utf8EncodeChar) = cs := by
    intro cs
    induction cs with
    | nil => rfl
    | cons c cs ih =>
        rw [List.flatMap_cons, decode_utf8EncodeChar, ih]
  rw [fromUtf8Lossy, hbytes, hdecode, String.ofList_toList]

end Lib.Utf8Lossy
