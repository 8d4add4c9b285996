/-
IPv4 addresses as the Rust standard library has them: four octets, the
dotted text of `Display` and `FromStr`, and the `u32` with the first
octet in the most significant byte.

The parser is transcribed from the documented behaviour of
`Ipv4Addr::from_str`: exactly four decimal groups of one to three
digits, separated by single dots, no leading zero, no value over 255,
nothing before or behind, at most fifteen bytes in all. It is strict on
purpose (a leading zero used to mean octal); every address reads back
from its own text (`fromStr_toText`), so no two share one
(`toText_injective`), and from no other (`fromStr_eq_some_iff`).

`toU32` and `ofU32` are inverse, so an address and its key are the same
thing under two names (`toU32_injective`).
-/
import Mathlib.Tactic
import RustGuard.Lib.Bytes

namespace Lib

/-- Four octets, most significant first. -/
structure Ipv4Addr where
  a : UInt8
  b : UInt8
  c : UInt8
  d : UInt8
  deriving DecidableEq, Repr

namespace Ipv4Addr

-- ============================================================ the word

/-- `u32::from(ip)`. -/
def toU32 (ip : Ipv4Addr) : UInt32 := u32FromBeBytes ip.a ip.b ip.c ip.d

/-- `Ipv4Addr::from(n)`. -/
def ofU32 (n : UInt32) : Ipv4Addr :=
  ⟨u32Byte n 0, u32Byte n 1, u32Byte n 2, u32Byte n 3⟩

@[simp] theorem ofU32_toU32 (ip : Ipv4Addr) : ofU32 ip.toU32 = ip := by
  obtain ⟨ha, hb, hc, hd⟩ := u32Byte_fromBeBytes ip.a ip.b ip.c ip.d
  rw [ofU32, toU32, ha, hb, hc, hd]

@[simp] theorem toU32_ofU32 (n : UInt32) : (ofU32 n).toU32 = n :=
  u32FromBeBytes_byte n

theorem toU32_injective : Function.Injective toU32 :=
  Function.LeftInverse.injective ofU32_toU32

theorem ofU32_injective : Function.Injective ofU32 :=
  Function.LeftInverse.injective toU32_ofU32

theorem eq_ofU32_iff {ip : Ipv4Addr} {n : UInt32} :
    ip = ofU32 n ↔ n = ip.toU32 := by
  constructor
  · rintro rfl
    rw [toU32_ofU32]
  · rintro rfl
    rw [ofU32_toU32]

-- ============================================================ the text

/-- `Display`: the four octets in decimal, dots between. -/
def toText (ip : Ipv4Addr) : String :=
  Nat.repr ip.a.toNat ++ "." ++ Nat.repr ip.b.toNat ++ "."
    ++ Nat.repr ip.c.toNat ++ "." ++ Nat.repr ip.d.toNat

/-- The digit loop of `read_number`: the value and the number of digits
read so far, and the text left; a fourth digit fails. -/
def readDigits (result digitCount : Nat) :
    List Char → Option (Nat × Nat × List Char)
  | [] => some (result, digitCount, [])
  | ch :: rest =>
      if ch.isDigit then
        if digitCount + 1 > 3 then none
        else readDigits (10 * result + (ch.toNat - '0'.toNat))
          (digitCount + 1) rest
      else some (result, digitCount, ch :: rest)

/-- `read_number(10, Some(3), false)` into a `u8`. -/
def readNumber (text : List Char) : Option (UInt8 × List Char) := do
  let (result, digitCount, rest) ← readDigits 0 0 text
  if digitCount = 0 then none
  else if text.head? = some '0' ∧ 1 < digitCount then none
  else if result < 256 then some (UInt8.ofNat result, rest)
  else none

/-- `read_given_char('.')`. -/
def readDot : List Char → Option (List Char)
  | '.' :: rest => some rest
  | _ => none

/-- `read_ipv4_addr`: four numbers, a dot before every one but the
first. -/
def readIpv4Addr (text : List Char) : Option (Ipv4Addr × List Char) := do
  let (a, text) ← readNumber text
  let (b, text) ← readDot text >>= readNumber
  let (c, text) ← readDot text >>= readNumber
  let (d, text) ← readDot text >>= readNumber
  return (⟨a, b, c, d⟩, text)

/-- `Ipv4Addr::from_str`: the whole text must be the address. -/
def fromStr (s : String) : Option Ipv4Addr :=
  if s.utf8ByteSize > 15 then none
  else match readIpv4Addr s.toList with
    | some (ip, []) => some ip
    | _ => none

-- ====================================================== the round trip

/-- The digit loop eats a run of at most three digits and stops at the
first character that is none. -/
theorem readDigits_append {ds rest : List Char} {result n : Nat}
    (hds : ∀ ch ∈ ds, ch.isDigit = true) (hlen : n + ds.length ≤ 3)
    (hrest : ∀ ch ∈ rest.head?, ch.isDigit = false) :
    readDigits result n (ds ++ rest)
      = some (Nat.ofDigitChars 10 ds result, n + ds.length, rest) := by
  induction ds generalizing result n with
  | nil =>
      cases rest with
      | nil => rfl
      | cons ch rest =>
          have hch := hrest ch rfl
          simp [readDigits, hch]
  | cons ch ds ih =>
      rw [List.length_cons] at hlen
      have hch : ch.isDigit = true := hds ch (List.mem_cons_self ..)
      rw [List.cons_append, readDigits, if_pos hch,
        if_neg (by omega),
        ih (fun x hx => hds x (List.mem_cons_of_mem _ hx)) (by omega),
        Nat.ofDigitChars_cons, List.length_cons]
      congr 3
      omega

/-- Only the octet zero is written with a leading zero. -/
private theorem repr_octet_head :
    ∀ n : Fin 256, (Nat.toDigits 10 n).head? = some '0' →
      (Nat.toDigits 10 n).length ≤ 1 := by
  decide +kernel

/-- An octet reads back from its own text, up to the next character that
is no digit. -/
theorem readNumber_repr (n : UInt8) (rest : List Char)
    (hrest : ∀ ch ∈ rest.head?, ch.isDigit = false) :
    readNumber ((Nat.repr n.toNat).toList ++ rest) = some (n, rest) := by
  have hlt := n.toNat_lt
  have hlen : (Nat.toDigits 10 n.toNat).length ≤ 3 := by
    rw [Nat.length_toDigits_le_iff (by omega) (by omega)]
    omega
  have hpos : 0 < (Nat.toDigits 10 n.toNat).length :=
    Nat.length_toDigits_pos
  have hdig : ∀ ch ∈ Nat.toDigits 10 n.toNat, ch.isDigit = true :=
    fun ch hch => Nat.isDigit_of_mem_toDigits (by omega) (by omega) hch
  have hread : readDigits 0 0 (Nat.toDigits 10 n.toNat ++ rest) = _ :=
    readDigits_append hdig (by omega) hrest
  have hhead : (Nat.toDigits 10 n.toNat ++ rest).head?
      = (Nat.toDigits 10 n.toNat).head? := by
    rw [List.head?_append_of_ne_nil _ Nat.toDigits_ne_nil]
  have hzero := repr_octet_head ⟨n.toNat, hlt⟩
  rw [Nat.toList_repr, readNumber, hread, hhead]
  simp only [Option.bind_eq_bind, Option.bind_some,
    Nat.ofDigitChars_ten_toDigits, Nat.zero_add]
  rw [if_neg (by omega), if_neg (fun h => by
    have := hzero h.1
    simp only at this
    omega), if_pos (by omega), UInt8.ofNat_toNat]

/-- A dot is no digit, so a number stops at it. -/
private theorem dot_not_digit (rest : List Char) :
    ∀ ch ∈ ('.' :: rest).head?, ch.isDigit = false := by
  intro ch hch
  obtain rfl : '.' = ch := by simpa using hch
  rfl

/-- The text of an address is at most fifteen bytes long. -/
theorem utf8ByteSize_toText (ip : Ipv4Addr) :
    ip.toText.utf8ByteSize ≤ 15 := by
  have hoctet : ∀ n : UInt8, (Nat.repr n.toNat).utf8ByteSize ≤ 3 := by
    intro n
    have hall : ∀ k : Fin 256, (Nat.repr k).utf8ByteSize ≤ 3 := by
      decide +kernel
    exact hall ⟨n.toNat, n.toNat_lt⟩
  have ha := hoctet ip.a
  have hb := hoctet ip.b
  have hc := hoctet ip.c
  have hd := hoctet ip.d
  have hdot : ".".utf8ByteSize = 1 := rfl
  simp only [toText, String.utf8ByteSize_append, hdot]
  omega

/-- Every address reads back from its own text. -/
@[simp] theorem fromStr_toText (ip : Ipv4Addr) :
    fromStr ip.toText = some ip := by
  have hlist : ip.toText.toList
      = (Nat.repr ip.a.toNat).toList ++ '.' ::
        ((Nat.repr ip.b.toNat).toList ++ '.' ::
        ((Nat.repr ip.c.toNat).toList ++ '.' ::
        ((Nat.repr ip.d.toNat).toList ++ []))) := by
    simp [toText, String.toList_append]
  have hread : readIpv4Addr ip.toText.toList = some (ip, []) := by
    rw [hlist, readIpv4Addr, readNumber_repr _ _ (dot_not_digit _)]
    simp only [Option.bind_eq_bind, Option.bind_some, readDot,
      readNumber_repr _ _ (dot_not_digit _)]
    rw [readNumber_repr _ _ (by simp)]
    rfl
  have hsize := utf8ByteSize_toText ip
  rw [fromStr, if_neg (by omega), hread]

-- ========================================================= the one text

/-- What the digit loop has read is digits, and it has added them up. -/
theorem readDigits_some {text rest : List Char} {result n result' n' : Nat}
    (h : readDigits result n text = some (result', n', rest)) :
    ∃ ds, text = ds ++ rest ∧ (∀ ch ∈ ds, ch.isDigit = true)
      ∧ n' = n + ds.length ∧ result' = Nat.ofDigitChars 10 ds result := by
  induction text generalizing result n with
  | nil =>
      obtain ⟨rfl, rfl, rfl⟩ : result = result' ∧ n = n' ∧ [] = rest := by
        simpa [readDigits] using h
      exact ⟨[], rfl, nofun, rfl, rfl⟩
  | cons ch text ih =>
      rw [readDigits] at h
      split at h
      case isFalse hch =>
        obtain ⟨rfl, rfl, rfl⟩ : result = result' ∧ n = n'
            ∧ ch :: text = rest := by
          simpa using h
        exact ⟨[], rfl, nofun, rfl, rfl⟩
      case isTrue hch =>
        split at h
        case isTrue => cases h
        case isFalse =>
          obtain ⟨ds, rfl, hds, rfl, rfl⟩ := ih h
          refine ⟨ch :: ds, rfl, ?_, ?_, ?_⟩
          · intro x hx
            rcases List.mem_cons.mp hx with rfl | hx
            · exact hch
            · exact hds x hx
          · rw [List.length_cons]
            omega
          · rw [Nat.ofDigitChars_cons]

/-- A digit is the digit of its value. -/
theorem digitChar_value {ch : Char} (h : ch.isDigit = true) :
    ch.toNat - '0'.toNat < 10
      ∧ Nat.digitChar (ch.toNat - '0'.toNat) = ch := by
  obtain ⟨hle, hge⟩ := Char.isDigit_iff_toNat.mp h
  have hzero : '0'.toNat = 48 := rfl
  have hnine : '9'.toNat = 57 := rfl
  refine ⟨by omega, ?_⟩
  have hall : ∀ n : Fin 10, Nat.digitChar n = Char.ofNat (48 + n) := by
    decide
  have hch := hall ⟨ch.toNat - 48, by omega⟩
  have hval : 48 + (ch.toNat - 48) = ch.toNat := by omega
  rw [hzero]
  simp only [hval, Char.ofNat_toNat] at hch
  exact hch

/-- Without a leading zero there is one way to write a number. -/
theorem toDigits_ofDigitChars {ds : List Char}
    (hds : ∀ ch ∈ ds, ch.isDigit = true) (hne : ds ≠ [])
    (hzero : ds.head? = some '0' → ds.length ≤ 1) :
    Nat.toDigits 10 (Nat.ofDigitChars 10 ds 0) = ds := by
  induction ds using List.reverseRecOn with
  | nil => exact absurd rfl hne
  | append_singleton ds ch ih =>
      obtain ⟨hlt, hchar⟩ := digitChar_value (hds ch (by simp))
      rw [Nat.ofDigitChars_append, Nat.ofDigitChars_cons,
        Nat.ofDigitChars_nil]
      by_cases hnil : ds = []
      · subst hnil
        rw [Nat.ofDigitChars_nil, Nat.mul_zero, Nat.zero_add,
          Nat.toDigits_of_lt_base hlt, hchar]
        rfl
      · have hhead : ds.head? ≠ some '0' := by
          intro hhead
          have hlen := hzero (by
            rw [List.head?_append_of_ne_nil _ hnil, hhead])
          have hpos := List.length_pos_iff.mpr hnil
          rw [List.length_append, List.length_singleton] at hlen
          omega
        have hdigits := ih (fun x hx => hds x (List.mem_append_left _ hx))
          hnil fun h => absurd h hhead
        have hpos : 0 < Nat.ofDigitChars 10 ds 0 := by
          refine Nat.pos_of_ne_zero fun hval => hhead ?_
          rw [← hdigits, hval, Nat.toDigits_zero]
          rfl
        rw [← Nat.toDigits_append_toDigits (by omega) hpos hlt, hdigits,
          Nat.toDigits_of_lt_base hlt, hchar]

/-- What reads as an octet is the text of the octet. -/
theorem readNumber_some {text rest : List Char} {n : UInt8}
    (h : readNumber text = some (n, rest)) :
    text = (Nat.repr n.toNat).toList ++ rest := by
  unfold readNumber at h
  obtain ⟨⟨result, digitCount, rest'⟩, hread, h⟩ :=
    Option.bind_eq_some_iff.mp h
  obtain ⟨ds, rfl, hds, rfl, rfl⟩ := readDigits_some hread
  simp only [Nat.zero_add] at h
  split at h
  case isTrue => cases h
  case isFalse hpos =>
    split at h
    case isTrue => cases h
    case isFalse hlead =>
      split at h
      case isFalse => cases h
      case isTrue hlt =>
        obtain ⟨rfl, rfl⟩ : UInt8.ofNat _ = n ∧ rest' = rest := by
          simpa using h
        have hne : ds ≠ [] := fun hnil => hpos (by rw [hnil]; rfl)
        have hzero : ds.head? = some '0' → ds.length ≤ 1 := by
          intro hhead
          by_contra hlen
          refine hlead ⟨?_, by omega⟩
          rw [List.head?_append_of_ne_nil _ hne, hhead]
        rw [UInt8.toNat_ofNat_of_lt' hlt, Nat.toList_repr,
          toDigits_ofDigitChars hds hne hzero]

/-- What reads as a dot is a dot. -/
theorem readDot_some {text rest : List Char}
    (h : readDot text = some rest) : text = '.' :: rest := by
  unfold readDot at h
  split at h
  case h_1 => rw [Option.some.inj h]
  case h_2 => cases h

/-- A dot and an octet. -/
theorem readDot_readNumber_some {text rest : List Char} {n : UInt8}
    (h : (readDot text >>= readNumber) = some (n, rest)) :
    text = '.' :: ((Nat.repr n.toNat).toList ++ rest) := by
  obtain ⟨text', hdot, hnum⟩ := Option.bind_eq_some_iff.mp h
  rw [readDot_some hdot, readNumber_some hnum]

/-- The four octets of an address, dots between. -/
theorem readIpv4Addr_some {text rest : List Char} {ip : Ipv4Addr}
    (h : readIpv4Addr text = some (ip, rest)) :
    text = (Nat.repr ip.a.toNat).toList ++ '.' ::
      ((Nat.repr ip.b.toNat).toList ++ '.' ::
      ((Nat.repr ip.c.toNat).toList ++ '.' ::
      ((Nat.repr ip.d.toNat).toList ++ rest))) := by
  unfold readIpv4Addr at h
  obtain ⟨⟨a, text1⟩, ha, h⟩ := Option.bind_eq_some_iff.mp h
  obtain ⟨⟨b, text2⟩, hb, h⟩ := Option.bind_eq_some_iff.mp h
  obtain ⟨⟨c, text3⟩, hc, h⟩ := Option.bind_eq_some_iff.mp h
  obtain ⟨⟨d, text4⟩, hd, h⟩ := Option.bind_eq_some_iff.mp h
  obtain ⟨rfl, rfl⟩ : (⟨a, b, c, d⟩ : Ipv4Addr) = ip ∧ text4 = rest :=
    Prod.mk.inj (Option.some.inj h)
  rw [readNumber_some ha, readDot_readNumber_some hb,
    readDot_readNumber_some hc, readDot_readNumber_some hd]

/-- What reads as an address is the text of the address, so an address
has one text only. -/
theorem fromStr_eq_some_iff {s : String} {ip : Ipv4Addr} :
    fromStr s = some ip ↔ s = ip.toText := by
  constructor
  · intro h
    unfold fromStr at h
    split at h
    case isTrue => cases h
    case isFalse =>
      cases hread : readIpv4Addr s.toList with
      | none =>
          rw [hread] at h
          cases h
      | some read =>
          obtain ⟨ip', rest⟩ := read
          rw [hread] at h
          cases rest with
          | cons ch rest => cases h
          | nil =>
              obtain rfl : ip' = ip := Option.some.inj h
              rw [← String.toList_inj, readIpv4Addr_some hread]
              simp [toText, String.toList_append]
  · rintro rfl
    exact fromStr_toText ip

/-- Digits and dots. -/
theorem mem_toText {ip : Ipv4Addr} {ch : Char}
    (hch : ch ∈ ip.toText.toList) : ch.isDigit = true ∨ ch = '.' := by
  have hrepr : ∀ n : Nat, ch ∈ (Nat.repr n).toList → ch.isDigit = true := by
    intro n hn
    rw [Nat.toList_repr] at hn
    exact Nat.isDigit_of_mem_toDigits (by omega) (by omega) hn
  simp only [toText, String.toList_append, List.mem_append] at hch
  have hdot : ch ∈ ".".toList → ch = '.' := by simp
  rcases hch with (((((h | h) | h) | h) | h) | h) | h
  · exact Or.inl (hrepr _ h)
  · exact Or.inr (hdot h)
  · exact Or.inl (hrepr _ h)
  · exact Or.inr (hdot h)
  · exact Or.inl (hrepr _ h)
  · exact Or.inr (hdot h)
  · exact Or.inl (hrepr _ h)

theorem toText_injective : Function.Injective toText := by
  intro ip ip' h
  have := congrArg fromStr h
  simpa using this

end Ipv4Addr

end Lib
