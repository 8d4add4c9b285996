/-
A ring of records between any number of writers and one reader: the
contract of a kernel ring buffer.

# The contract

- a record takes eight bytes for its header and is rounded up to a
  multiple of eight (`recordSize`);
- the writers are never as much as the whole ring ahead of the reader.
  That is a field of `RingBuf`, so no operation can break it, and a
  record that would break it is refused and leaves the ring alone;
- records come out in the order they went in. The reader looks at the
  oldest one (`next`) and gives its room back when it is done with it
  (`consume`), so a record that is being looked at still takes up room.
-/
import RustGuard.Lib.Layout

namespace Lib

/-- The bytes a record takes up. -/
def recordSize (payload : List UInt8) : Nat :=
  Layout.alignUp (payload.length + 8) 8

/-- The unread records, oldest first. -/
structure RingBuf (byteSize : Nat) where
  records : List (List UInt8)
  bounded : (records.map recordSize).sum < byteSize

namespace RingBuf

variable {byteSize : Nat}

/-- A ring nobody has written to. -/
def empty (h : 0 < byteSize) : RingBuf byteSize := ⟨[], h⟩

/-- `output(payload, 0)`: the error of a ring without room is
`-EAGAIN`. -/
def output (r : RingBuf byteSize) (payload : List UInt8) :
    RingBuf byteSize × Except Int64 Unit :=
  if h : ((r.records ++ [payload]).map recordSize).sum < byteSize then
    (⟨r.records ++ [payload], h⟩, .ok ())
  else (r, .error (-11))

/-- `next()`: the oldest record. -/
def next (r : RingBuf byteSize) : Option (List UInt8) := r.records.head?

/-- The oldest record is done with. -/
def consume (r : RingBuf byteSize) : RingBuf byteSize where
  records := r.records.tail
  bounded := by
    have hle : (r.records.tail.map recordSize).sum
        ≤ (r.records.map recordSize).sum :=
      ((List.tail_sublist _).map recordSize).sum_le_sum fun _ _ =>
        Nat.zero_le _
    exact Nat.lt_of_le_of_lt hle r.bounded

/-- A record is taken as a whole or not at all. -/
theorem output_cases (r : RingBuf byteSize) (payload : List UInt8) :
    ((r.output payload).2 = .ok ()
      ∧ (r.output payload).1.records = r.records ++ [payload])
    ∨ ((r.output payload).2 = .error (-11)
      ∧ (r.output payload).1 = r) := by
  unfold output
  split
  · exact Or.inl ⟨rfl, rfl⟩
  · exact Or.inr ⟨rfl, rfl⟩

/-- What records of one size take up together. -/
theorem sum_recordSize {records : List (List UInt8)} {size : Nat}
    (h : ∀ record ∈ records, recordSize record = size) :
    (records.map recordSize).sum = records.length * size := by
  have hconst : records.map recordSize
      = List.replicate records.length size := by
    refine List.eq_replicate_iff.mpr ⟨List.length_map .., ?_⟩
    intro n hn
    obtain ⟨record, hrecord, rfl⟩ := List.mem_map.mp hn
    exact h record hrecord
  rw [hconst, List.sum_replicate, smul_eq_mul]

/-- Records of one size are as many as fit the ring. -/
theorem length_mul_lt {r : RingBuf byteSize} {size : Nat}
    (h : ∀ record ∈ r.records, recordSize record = size) :
    r.records.length * size < byteSize := by
  rw [← sum_recordSize h]
  exact r.bounded

/-- One more of them is refused exactly when it would not fit. -/
theorem output_ok_iff {r : RingBuf byteSize} {payload : List UInt8}
    (h : ∀ record ∈ r.records, recordSize record = recordSize payload) :
    (r.output payload).2 = .ok ()
      ↔ (r.records.length + 1) * recordSize payload < byteSize := by
  have hall : ∀ record ∈ r.records ++ [payload],
      recordSize record = recordSize payload := by
    intro record hrecord
    rcases List.mem_append.mp hrecord with hold | hnew
    · exact h record hold
    · rw [List.mem_singleton.mp hnew]
  have hsum := sum_recordSize hall
  rw [List.length_append, List.length_singleton] at hsum
  rw [← hsum, output]
  split
  · rename_i hfits
    exact iff_of_true rfl hfits
  · rename_i hfull
    exact iff_of_false nofun hfull

end RingBuf

end Lib
