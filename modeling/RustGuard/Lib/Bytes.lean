/-
Big-endian words, words in host byte order, and length-prefixed frames
over byte lists.

A frame is a body behind the big-endian `u32` of its length. The writer
(`putFrame`) casts the length to 32 bits, as a writer does; the reader
(`takeFrame`) waits for four bytes, then for as many as they announce,
and looks at nothing behind them. `takeFrame_putFrame` is the round
trip, with the one condition a cast leaves behind: the body is shorter
than `2^32` bytes.

A reader that is fed in pieces needs one more fact, and it is the reason
`takeFrame` is worth a name: a complete frame stays the same frame when
more bytes arrive (`takeFrame_append`), and an incomplete one announces
nothing yet.
-/
import Mathlib.Tactic

namespace Lib

-- ==================================================== big-endian words

/-- `u16::from_be_bytes`. -/
def u16FromBeBytes (hi lo : UInt8) : UInt16 :=
  UInt16.ofNat (hi.toNat * 2 ^ 8 + lo.toNat)

/-- `u32::from_be_bytes`. -/
def u32FromBeBytes (a b c d : UInt8) : UInt32 :=
  UInt32.ofNat (a.toNat * 2 ^ 24 + b.toNat * 2 ^ 16 + c.toNat * 2 ^ 8
    + d.toNat)

/-- `u32::to_be_bytes`, byte `i` of four. -/
def u32Byte (n : UInt32) (i : Nat) : UInt8 :=
  UInt8.ofNat (n.toNat / 2 ^ (8 * (3 - i)))

/-- A word of two octets spells them. -/
theorem u16FromBeBytes_inj {hi lo hi' lo' : UInt8} :
    u16FromBeBytes hi lo = u16FromBeBytes hi' lo' ↔ hi = hi' ∧ lo = lo' := by
  have h1 := hi.toNat_lt
  have h2 := lo.toNat_lt
  have h1' := hi'.toNat_lt
  have h2' := lo'.toNat_lt
  rw [u16FromBeBytes, u16FromBeBytes, ← UInt16.toNat_inj,
    UInt16.toNat_ofNat', UInt16.toNat_ofNat', Nat.mod_eq_of_lt (by omega),
    Nat.mod_eq_of_lt (by omega), ← UInt8.toNat_inj, ← UInt8.toNat_inj]
  omega

/-- The value four octets spell. -/
theorem toNat_u32FromBeBytes (a b c d : UInt8) :
    (u32FromBeBytes a b c d).toNat
      = a.toNat * 2 ^ 24 + b.toNat * 2 ^ 16 + c.toNat * 2 ^ 8 + d.toNat := by
  have ha := a.toNat_lt
  have hb := b.toNat_lt
  have hc := c.toNat_lt
  have hd := d.toNat_lt
  rw [u32FromBeBytes, UInt32.toNat_ofNat']
  exact Nat.mod_eq_of_lt (by omega)

/-- Octets come back from the word they spell. -/
theorem u32Byte_fromBeBytes (a b c d : UInt8) :
    u32Byte (u32FromBeBytes a b c d) 0 = a
      ∧ u32Byte (u32FromBeBytes a b c d) 1 = b
      ∧ u32Byte (u32FromBeBytes a b c d) 2 = c
      ∧ u32Byte (u32FromBeBytes a b c d) 3 = d := by
  have ha := a.toNat_lt
  have hb := b.toNat_lt
  have hc := c.toNat_lt
  have hd := d.toNat_lt
  simp only [u32Byte, toNat_u32FromBeBytes]
  refine ⟨?_, ?_, ?_, ?_⟩ <;>
    · rw [← UInt8.toNat_inj, UInt8.toNat_ofNat']
      omega

/-- A word comes back from its octets. -/
theorem u32FromBeBytes_byte (n : UInt32) :
    u32FromBeBytes (u32Byte n 0) (u32Byte n 1) (u32Byte n 2) (u32Byte n 3)
      = n := by
  have hn := n.toNat_lt
  rw [← UInt32.toNat_inj, toNat_u32FromBeBytes]
  simp only [u32Byte, UInt8.toNat_ofNat']
  omega

/-- `u32::to_be_bytes`. -/
def u32ToBeBytes (n : UInt32) : List UInt8 :=
  [u32Byte n 0, u32Byte n 1, u32Byte n 2, u32Byte n 3]

-- ==================================================== host byte order

/-- How the host lays a word out in memory. -/
inductive Endian
  | little
  | big
  deriving DecidableEq, Repr

/-- `u32::to_ne_bytes`: the four bytes as they lie in memory. -/
def u32ToNeBytes (e : Endian) (n : UInt32) : Vector UInt8 4 :=
  match e with
  | .big => #v[u32Byte n 0, u32Byte n 1, u32Byte n 2, u32Byte n 3]
  | .little => #v[u32Byte n 3, u32Byte n 2, u32Byte n 1, u32Byte n 0]

/-- `u16::to_ne_bytes`. -/
def u16ToNeBytes (e : Endian) (n : UInt16) : Vector UInt8 2 :=
  match e with
  | .big => #v[UInt8.ofNat (n.toNat / 2 ^ 8), UInt8.ofNat n.toNat]
  | .little => #v[UInt8.ofNat n.toNat, UInt8.ofNat (n.toNat / 2 ^ 8)]

/-- `u16::swap_bytes`. -/
def u16SwapBytes (n : UInt16) : UInt16 :=
  UInt16.ofNat (n.toNat % 2 ^ 8 * 2 ^ 8 + n.toNat / 2 ^ 8)

/-- `u16::from_be`. -/
def u16FromBe (e : Endian) (n : UInt16) : UInt16 :=
  match e with
  | .big => n
  | .little => u16SwapBytes n

/-- `from_be` reads the two bytes in memory most significant first. -/
theorem u16FromBe_eq (e : Endian) (n : UInt16) :
    u16FromBe e n
      = u16FromBeBytes ((u16ToNeBytes e n).get 0)
        ((u16ToNeBytes e n).get 1) := by
  have hn := n.toNat_lt
  cases e with
  | big =>
      change n = u16FromBeBytes (UInt8.ofNat (n.toNat / 2 ^ 8))
        (UInt8.ofNat n.toNat)
      rw [← UInt16.toNat_inj]
      simp only [u16FromBeBytes, UInt8.toNat_ofNat', UInt16.toNat_ofNat']
      omega
  | little =>
      change u16SwapBytes n = u16FromBeBytes (UInt8.ofNat n.toNat)
        (UInt8.ofNat (n.toNat / 2 ^ 8))
      have hhigh : n.toNat / 2 ^ 8 % 2 ^ 8 = n.toNat / 2 ^ 8 :=
        Nat.mod_eq_of_lt (by omega)
      simp only [u16FromBeBytes, u16SwapBytes, UInt8.toNat_ofNat', hhigh]

-- ============================================================== frames

/-- `write_u32` and `write_all`: the length, cast to 32 bits, then the
body. -/
def putFrame (body : List UInt8) : List UInt8 :=
  let len := UInt32.ofNat body.length
  u32Byte len 0 :: u32Byte len 1 :: u32Byte len 2 :: u32Byte len 3 :: body

/-- `read_u32` and `read_exact`: the body of the first frame, and what
is behind it; `none` while the frame is not all there. -/
def takeFrame : List UInt8 → Option (List UInt8 × List UInt8)
  | a :: b :: c :: d :: rest =>
      let len := (u32FromBeBytes a b c d).toNat
      if len ≤ rest.length then some (rest.take len, rest.drop len)
      else none
  | _ => none

/-- A frame is its length word and its body. -/
theorem putFrame_eq (body : List UInt8) :
    putFrame body = u32ToBeBytes (UInt32.ofNat body.length) ++ body := rfl

/-- The reader gives back what the writer put, whatever follows. -/
theorem takeFrame_putFrame {body : List UInt8} (rest : List UInt8)
    (hlen : body.length < 2 ^ 32) :
    takeFrame (putFrame body ++ rest) = some (body, rest) := by
  have hcast : (UInt32.ofNat body.length).toNat = body.length := by
    rw [UInt32.toNat_ofNat']
    exact Nat.mod_eq_of_lt hlen
  simp only [putFrame, List.cons_append, takeFrame, u32FromBeBytes_byte,
    hcast]
  rw [if_pos (by simp), List.take_left, List.drop_left]

/-- Four bytes, then as many as they announce. -/
theorem takeFrame_cons (a b c d : UInt8) {rest : List UInt8}
    (h : (u32FromBeBytes a b c d).toNat ≤ rest.length) :
    takeFrame (a :: b :: c :: d :: rest)
      = some (rest.take (u32FromBeBytes a b c d).toNat,
          rest.drop (u32FromBeBytes a b c d).toNat) := by
  rw [takeFrame, if_pos h]

/-- A complete frame is settled: bytes that arrive later only extend
what is behind it. -/
theorem takeFrame_append {bs body rest : List UInt8} (more : List UInt8)
    (h : takeFrame bs = some (body, rest)) :
    takeFrame (bs ++ more) = some (body, rest ++ more) := by
  match bs with
  | [] | [_] | [_, _] | [_, _, _] => simp [takeFrame] at h
  | a :: b :: c :: d :: tail =>
      simp only [takeFrame] at h
      split at h
      case isFalse => cases h
      case isTrue hle =>
        injection h with h
        injection h with hbody hrest
        simp only [List.cons_append, takeFrame]
        rw [if_pos (by rw [List.length_append]; omega),
          List.take_append_of_le_length hle,
          List.drop_append_of_le_length hle, hbody, hrest]

end Lib
