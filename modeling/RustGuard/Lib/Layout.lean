/-
Structs in memory: the layout C prescribes, and the bytes of words on
either kind of host, over any list of fields.

A field goes to the next offset its alignment allows, and the struct
ends at a multiple of its largest alignment. What lies between the
fields is padding, and nobody says what is in it: the writer
(`bytesOf`) takes it from a function, so that a fact about a struct in
memory is a fact about every padding.

The reader (`fieldsOf`) slices the fields out at the same offsets. It
gives back what the writer put, whatever the padding
(`fieldsOf_bytesOf`), and the writer's bytes are as many as the struct
has (`length_bytesOf`). Nor are there other structs than those: any
bytes of the right number are their own fields with their own padding
(`eq_bytesOf`). A word comes back from its bytes on the host that laid
them out (`ofNeBytes_neBytes`), and the bytes from the word.
-/
import Mathlib.Tactic
import RustGuard.Lib.Bytes

namespace Lib.Layout

-- ========================================================== the offsets

/-- A field: its size, and what its offset must be a multiple of. -/
structure Field where
  size : Nat
  align : Nat
  align_pos : 0 < align := by decide
  deriving DecidableEq, Repr

/-- The next multiple of `align`. -/
def alignUp (n align : Nat) : Nat := (n + (align - 1)) / align * align

theorem le_alignUp (n : Nat) {align : Nat} (h : 0 < align) :
    n ≤ alignUp n align := by
  have hmod := Nat.mod_lt (n + (align - 1)) h
  have hdiv := Nat.div_add_mod' (n + (align - 1)) align
  unfold alignUp
  omega

/-- Where the fields lie, when `pos` is the first byte that is free. -/
def offsets (pos : Nat) : List Field → List Nat
  | [] => []
  | f :: fs =>
      alignUp pos f.align :: offsets (alignUp pos f.align + f.size) fs

/-- The first byte behind the fields. -/
def endOf (pos : Nat) : List Field → Nat
  | [] => pos
  | f :: fs => endOf (alignUp pos f.align + f.size) fs

/-- The alignment of the struct. -/
def structAlign (fs : List Field) : Nat := (fs.map Field.align).foldl max 1

/-- `size_of` the struct. -/
def structSize (fs : List Field) : Nat :=
  alignUp (endOf 0 fs) (structAlign fs)

theorem structAlign_pos (fs : List Field) : 0 < structAlign fs := by
  have hgen : ∀ (as : List Nat) (n : Nat), 0 < n → 0 < as.foldl max n := by
    intro as
    induction as with
    | nil => exact fun n hn => hn
    | cons a as ih => exact fun n hn => ih _ (lt_max_of_lt_left hn)
  exact hgen _ 1 Nat.one_pos

-- ============================================================ the bytes

/-- Padding, up to an offset. -/
def padding (pad : Nat → UInt8) (pos upTo : Nat) : List UInt8 :=
  (List.range' pos (upTo - pos)).map pad

theorem length_padding (pad : Nat → UInt8) (pos upTo : Nat) :
    (padding pad pos upTo).length = upTo - pos := by
  rw [padding, List.length_map, List.length_range']

/-- A field with the bytes it holds. -/
structure Value extends Field where
  bytes : List UInt8
  length_bytes : bytes.length = size

/-- The fields, each behind its padding. -/
def place (pad : Nat → UInt8) (pos : Nat) : List Value → List UInt8
  | [] => []
  | v :: vs =>
      padding pad pos (alignUp pos v.align) ++ v.bytes
        ++ place pad (alignUp pos v.align + v.size) vs

/-- The struct in memory. -/
def bytesOf (pad : Nat → UInt8) (vs : List Value) : List UInt8 :=
  let fs := vs.map Value.toField
  place pad 0 vs ++ padding pad (endOf 0 fs) (structSize fs)

/-- `len` bytes, from an offset on. -/
def slice (off len : Nat) (bytes : List UInt8) : List UInt8 :=
  (bytes.drop off).take len

/-- The bytes of the fields of a struct in memory. -/
def fieldsOf (fs : List Field) (bytes : List UInt8) : List (List UInt8) :=
  List.zipWith (fun off f => slice off f.size bytes) (offsets 0 fs) fs

-- ======================================================== the round trip

theorem length_place (pad : Nat → UInt8) (pos : Nat) (vs : List Value) :
    pos + (place pad pos vs).length = endOf pos (vs.map Value.toField) := by
  induction vs generalizing pos with
  | nil => rfl
  | cons v vs ih =>
      have hle := le_alignUp pos v.align_pos
      rw [List.map_cons, endOf, ← ih, place, List.length_append,
        List.length_append, length_padding, v.length_bytes]
      omega

/-- A struct has as many bytes as its size says. -/
theorem length_bytesOf (pad : Nat → UInt8) (vs : List Value) :
    (bytesOf pad vs).length = structSize (vs.map Value.toField) := by
  have hplace := length_place pad 0 vs
  have hle := le_alignUp (endOf 0 (vs.map Value.toField))
    (structAlign_pos (vs.map Value.toField))
  rw [bytesOf, List.length_append, length_padding]
  unfold structSize
  omega

/-- A slice in the middle. -/
theorem slice_append {before bytes behind : List UInt8} {off len : Nat}
    (hoff : before.length = off) (hlen : bytes.length = len) :
    slice off len (before ++ bytes ++ behind) = bytes := by
  subst hoff hlen
  rw [slice, List.append_assoc, List.drop_left, List.take_left]

/-- The slices at the offsets are what was placed there, wherever in
memory the placing began. -/
theorem slices_place (pad : Nat → UInt8) (vs : List Value)
    (before behind : List UInt8) :
    List.zipWith
        (fun off (f : Field) => slice off f.size
          (before ++ place pad before.length vs ++ behind))
        (offsets before.length (vs.map Value.toField))
        (vs.map Value.toField)
      = vs.map Value.bytes := by
  -- on the fields; what is placed already moves into `before`
  induction vs generalizing before with
  | nil => rfl
  | cons v vs ih =>
      have hle := le_alignUp before.length v.align_pos
      have hpad : (before ++ padding pad before.length
          (alignUp before.length v.align)).length
          = alignUp before.length v.align := by
        rw [List.length_append, length_padding]
        omega
      have hnext : (before ++ padding pad before.length
          (alignUp before.length v.align) ++ v.bytes).length
          = alignUp before.length v.align + v.size := by
        rw [List.length_append, hpad, v.length_bytes]
      have hwhole : before ++ place pad before.length (v :: vs) ++ behind
          = (before ++ padding pad before.length
              (alignUp before.length v.align) ++ v.bytes)
            ++ place pad (alignUp before.length v.align + v.size) vs
            ++ behind := by
        simp only [place, List.append_assoc]
      rw [List.map_cons, offsets, List.zipWith_cons_cons, List.map_cons,
        hwhole]
      congr 1
      · rw [List.append_assoc]
        exact slice_append hpad v.length_bytes
      · rw [← hnext]
        exact ih _

/-- The reader gives back what the writer put. -/
theorem fieldsOf_bytesOf (pad : Nat → UInt8) (vs : List Value) :
    fieldsOf (vs.map Value.toField) (bytesOf pad vs)
      = vs.map Value.bytes :=
  slices_place pad vs [] _

-- ================================================ any bytes are a struct

/-- Two slices that meet are one. -/
theorem slice_append_slice (bytes : List UInt8) {pos mid upTo : Nat}
    (hmid : pos ≤ mid) (hupTo : mid ≤ upTo) :
    slice pos (mid - pos) bytes ++ slice mid (upTo - mid) bytes
      = slice pos (upTo - pos) bytes := by
  obtain ⟨len, rfl⟩ := Nat.exists_eq_add_of_le hmid
  obtain ⟨len', rfl⟩ := Nat.exists_eq_add_of_le hupTo
  have hlen : pos + len + len' - pos = len + len' := by omega
  rw [Nat.add_sub_cancel_left, Nat.add_sub_cancel_left, hlen, slice, slice,
    slice, List.take_add, List.drop_drop]

theorem length_slice {bytes : List UInt8} {off len : Nat}
    (h : off + len ≤ bytes.length) : (slice off len bytes).length = len := by
  rw [slice, List.length_take, List.length_drop]
  omega

theorem le_endOf (pos : Nat) (fs : List Field) : pos ≤ endOf pos fs := by
  induction fs generalizing pos with
  | nil => exact Nat.le_refl pos
  | cons f fs ih =>
      calc pos ≤ alignUp pos f.align := le_alignUp pos f.align_pos
        _ ≤ alignUp pos f.align + f.size := Nat.le_add_right _ _
        _ ≤ endOf pos (f :: fs) := ih _

/-- What lies at an offset, taken for padding. -/
def padOf (bytes : List UInt8) (i : Nat) : UInt8 := bytes.getD i 0

theorem padding_padOf {bytes : List UInt8} {pos upTo : Nat}
    (h : upTo ≤ bytes.length) :
    padding (padOf bytes) pos upTo = slice pos (upTo - pos) bytes := by
  apply List.ext_getElem
  · rw [length_padding, slice, List.length_take, List.length_drop]
    omega
  · intro i hi _
    rw [length_padding] at hi
    simp only [padding, slice, padOf, List.getElem_map, List.getElem_range',
      List.getElem_take, List.getElem_drop, Nat.one_mul]
    rw [List.getD_eq_getElem?_getD, List.getElem?_eq_getElem,
      Option.getD_some]

/-- Fields that are slices of the bytes, placed with the rest of them as
padding, are the bytes. -/
theorem place_padOf {bytes : List UInt8} {vs : List Value} {pos : Nat}
    (hend : endOf pos (vs.map Value.toField) ≤ bytes.length)
    (hread : List.zipWith
        (fun off (f : Field) => slice off f.size bytes)
        (offsets pos (vs.map Value.toField)) (vs.map Value.toField)
      = vs.map Value.bytes) :
    place (padOf bytes) pos vs
      = slice pos (endOf pos (vs.map Value.toField) - pos) bytes := by
  induction vs generalizing pos with
  | nil => simp [place, slice, endOf]
  | cons v vs ih =>
      rw [List.map_cons, offsets, List.zipWith_cons_cons, List.map_cons,
        List.cons.injEq] at hread
      obtain ⟨hbytes, hrest⟩ := hread
      rw [List.map_cons, endOf] at hend
      have hal := le_alignUp pos v.align_pos
      have hle := le_endOf (alignUp pos v.align + v.size)
        (vs.map Value.toField)
      have hfield : slice (alignUp pos v.align) v.size bytes
          = slice (alignUp pos v.align)
            (alignUp pos v.align + v.size - alignUp pos v.align) bytes := by
        rw [Nat.add_sub_cancel_left]
      rw [place, ih hend hrest, ← hbytes, padding_padOf (by omega), hfield,
        slice_append_slice bytes hal (by omega),
        slice_append_slice bytes (by omega) hle, List.map_cons, endOf]

/-- Whatever the fields of a struct are read as, the struct is these
fields and some padding. -/
theorem eq_bytesOf {bytes : List UInt8} {vs : List Value}
    (hlen : bytes.length = structSize (vs.map Value.toField))
    (hread : fieldsOf (vs.map Value.toField) bytes = vs.map Value.bytes) :
    bytes = bytesOf (padOf bytes) vs := by
  have hend : endOf 0 (vs.map Value.toField) ≤ bytes.length := by
    rw [hlen]
    exact le_alignUp _ (structAlign_pos _)
  rw [bytesOf, place_padOf hend hread, ← hlen,
    padding_padOf (Nat.le_refl _),
    slice_append_slice bytes (Nat.zero_le _) hend]
  simp [slice]

-- ============================================================= the words

/-- The low `w` bytes of a number, the least significant first. -/
def leBytes : Nat → Nat → List UInt8
  | 0, _ => []
  | w + 1, n => UInt8.ofNat n :: leBytes w (n / 2 ^ 8)

/-- The number they spell. -/
def ofLeBytes : List UInt8 → Nat
  | [] => 0
  | b :: bs => b.toNat + 2 ^ 8 * ofLeBytes bs

/-- A word of `w` bytes as the host lays it out. -/
def neBytes (e : Endian) (w n : Nat) : List UInt8 :=
  match e with
  | .little => leBytes w n
  | .big => (leBytes w n).reverse

/-- A word in memory, as the host reads it. -/
def ofNeBytes (e : Endian) (bytes : List UInt8) : Nat :=
  match e with
  | .little => ofLeBytes bytes
  | .big => ofLeBytes bytes.reverse

theorem length_leBytes (w n : Nat) : (leBytes w n).length = w := by
  induction w generalizing n with
  | zero => rfl
  | succ w ih => rw [leBytes, List.length_cons, ih]

theorem length_neBytes (e : Endian) (w n : Nat) :
    (neBytes e w n).length = w := by
  cases e with
  | little => exact length_leBytes w n
  | big => exact List.length_reverse.trans (length_leBytes w n)

theorem ofLeBytes_leBytes {w n : Nat} (h : n < 2 ^ (8 * w)) :
    ofLeBytes (leBytes w n) = n := by
  induction w generalizing n with
  | zero =>
      rw [Nat.mul_zero, pow_zero, Nat.lt_one_iff] at h
      exact h.symm
  | succ w ih =>
      have hhigh : n / 2 ^ 8 < 2 ^ (8 * w) := by
        rw [Nat.div_lt_iff_lt_mul (by decide), ← pow_add]
        exact h
      rw [leBytes, ofLeBytes, ih hhigh, UInt8.toNat_ofNat', Nat.add_comm]
      exact Nat.div_add_mod n (2 ^ 8)

/-- A word that fits comes back, on either kind of host. -/
theorem ofNeBytes_neBytes (e : Endian) {w n : Nat} (h : n < 2 ^ (8 * w)) :
    ofNeBytes e (neBytes e w n) = n := by
  cases e with
  | little => exact ofLeBytes_leBytes h
  | big =>
      rw [ofNeBytes, neBytes, List.reverse_reverse]
      exact ofLeBytes_leBytes h

theorem leBytes_ofLeBytes (bytes : List UInt8) :
    leBytes bytes.length (ofLeBytes bytes) = bytes := by
  induction bytes with
  | nil => rfl
  | cons b bs ih =>
      have hb := b.toNat_lt
      rw [List.length_cons, leBytes, ofLeBytes]
      have hhigh : (b.toNat + 2 ^ 8 * ofLeBytes bs) / 2 ^ 8
          = ofLeBytes bs := by omega
      rw [hhigh, ih]
      congr 1
      apply UInt8.toNat_inj.mp
      rw [UInt8.toNat_ofNat']
      omega

theorem ofLeBytes_lt (bytes : List UInt8) :
    ofLeBytes bytes < 2 ^ (8 * bytes.length) := by
  induction bytes with
  | nil => simp [ofLeBytes]
  | cons b bs ih =>
      have hb := b.toNat_lt
      rw [ofLeBytes, List.length_cons, Nat.mul_succ, Nat.pow_add]
      omega

/-- Bytes come back from the word they are. -/
theorem neBytes_ofNeBytes (e : Endian) (bytes : List UInt8) :
    neBytes e bytes.length (ofNeBytes e bytes) = bytes := by
  cases e with
  | little => exact leBytes_ofLeBytes bytes
  | big =>
      have h := leBytes_ofLeBytes bytes.reverse
      rw [List.length_reverse] at h
      rw [neBytes, ofNeBytes, h, List.reverse_reverse]

theorem ofNeBytes_lt (e : Endian) (bytes : List UInt8) :
    ofNeBytes e bytes < 2 ^ (8 * bytes.length) := by
  cases e with
  | little => exact ofLeBytes_lt bytes
  | big =>
      have h := ofLeBytes_lt bytes.reverse
      rwa [List.length_reverse] at h
end Lib.Layout
