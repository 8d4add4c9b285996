/-
A hash map with a fixed number of entries: the contract of a kernel
hash map, over any key and value types.

# The contract

- a key has at most one entry, and the map never holds more than `cap`
  of them. Both facts are fields of `BoundedMap`, so no operation can
  return a map that breaks them;
- `insert` replaces the value of a present key whatever the load, adds
  an absent key while there is room, and otherwise fails and leaves the
  map alone (`get?_insert`);
- `remove` fails exactly on an absent key, and leaves the map alone
  there too.

Every operation returns the map after the call TOGETHER with the result
the caller is given, because a caller may look at the one and ignore the
other.

Entries are an `AList`, newest first. A real table walks its buckets in
an order of its own, so nothing below speaks of the order of `keys`.
-/
import Mathlib.Data.List.AList
import Mathlib.Data.Set.Card
import Mathlib.Tactic

namespace Lib

universe u v

/-- Why an operation on the map failed. -/
inductive MapError
  | full
  | keyNotFound
  deriving DecidableEq, Repr

/-- A finite map with at most `cap` entries. -/
structure BoundedMap (K : Type u) (V : Type v) (cap : Nat) where
  alist : AList fun _ : K => V
  bounded : alist.keys.length ≤ cap

namespace BoundedMap

variable {K : Type u} {V : Type v} {cap : Nat}

/-- The map as it is created: no entries. -/
def empty : BoundedMap K V cap := ⟨∅, Nat.zero_le _⟩

/-- The keys of the map, each once. -/
def keys (m : BoundedMap K V cap) : List K := m.alist.keys

/-- How many entries the map holds. -/
def size (m : BoundedMap K V cap) : Nat := m.keys.length

@[simp] theorem size_empty : (empty : BoundedMap K V cap).size = 0 := rfl

@[simp] theorem keys_empty : (empty : BoundedMap K V cap).keys = [] := rfl

/-- The capacity bound, in terms of `size`. -/
theorem size_le (m : BoundedMap K V cap) : m.size ≤ cap := m.bounded

theorem keys_nodup (m : BoundedMap K V cap) : m.keys.Nodup :=
  m.alist.keys_nodup

variable [DecidableEq K]

/-- The value stored under a key. -/
def get? (m : BoundedMap K V cap) (k : K) : Option V := m.alist.lookup k

/-- Store `v` under `k`: replace a present key, add an absent one while
there is room. -/
def insert (m : BoundedMap K V cap) (k : K) (v : V) :
    BoundedMap K V cap × Except MapError Unit :=
  if h : (m.alist.insert k v).keys.length ≤ cap then
    (⟨m.alist.insert k v, h⟩, .ok ())
  else (m, .error .full)

/-- Drop the entry of `k`. -/
def remove (m : BoundedMap K V cap) (k : K) :
    BoundedMap K V cap × Except MapError Unit :=
  if k ∈ m.alist then
    (⟨m.alist.erase k, by
      have hle := (List.erase_sublist (a := k) (l := m.alist.keys)).length_le
      rw [AList.keys_erase]
      exact hle.trans m.bounded⟩, .ok ())
  else (m, .error .keyNotFound)

/-- Write through a pointer to the value of `k`: a present value is
updated in place, an absent key has nothing to point to. -/
def modify (m : BoundedMap K V cap) (k : K) (f : V → V) :
    BoundedMap K V cap :=
  match m.get? k with
  | some v => ⟨m.alist.replace k (f v), by
      rw [AList.keys_replace]
      exact m.bounded⟩
  | none => m

/-- The map with every entry removed that fails `p`. -/
def filter (m : BoundedMap K V cap) (p : V → Bool) : BoundedMap K V cap where
  alist := ⟨m.alist.entries.filter fun e => p e.2,
    m.alist.nodupKeys.sublist List.filter_sublist⟩
  bounded :=
    ((List.filter_sublist (l := m.alist.entries)).map Sigma.fst).length_le.trans
      m.bounded

-- ================================================= keys and lookups

/-- A key is listed exactly when it has a value. -/
theorem mem_keys (m : BoundedMap K V cap) (k : K) :
    k ∈ m.keys ↔ (m.get? k).isSome := by
  rw [get?, AList.lookup_isSome]
  exact AList.mem_keys.symm

@[simp] theorem get?_empty (k : K) :
    (empty : BoundedMap K V cap).get? k = none := rfl

/-- A map whose keys another map also has is no larger. -/
theorem size_le_of_dom {cap' : Nat} {m : BoundedMap K V cap}
    {m' : BoundedMap K V cap'}
    (h : ∀ k, (m.get? k).isSome → (m'.get? k).isSome) :
    m.size ≤ m'.size := by
  refine (List.Nodup.subperm m.keys_nodup ?_).length_le
  intro k hk
  rw [mem_keys] at hk ⊢
  exact h k hk

/-- A key that only the larger map has leaves room in the smaller. -/
theorem size_lt_of_dom {m m' : BoundedMap K V cap} {k : K}
    (h : ∀ k, (m.get? k).isSome → (m'.get? k).isSome)
    (hk : m.get? k = none) (hk' : (m'.get? k).isSome) :
    m.size < m'.size := by
  have hnot : k ∉ m.keys := by
    rw [mem_keys, hk]
    simp
  have hsub : (k :: m.keys).Subperm m'.keys := by
    refine List.Nodup.subperm (List.nodup_cons.mpr ⟨hnot, m.keys_nodup⟩) ?_
    intro x hx
    rw [mem_keys]
    rcases List.mem_cons.mp hx with rfl | hx
    · exact hk'
    · exact h x ((mem_keys m x).mp hx)
  exact hsub.length_le

/-- The number of entries is the number of keys that have a value. -/
theorem ncard_dom (m : BoundedMap K V cap) :
    {k | (m.get? k).isSome}.ncard = m.size := by
  have hset : {k | (m.get? k).isSome} = (↑m.keys.toFinset : Set K) := by
    ext k
    simp [mem_keys]
  rw [hset, Set.ncard_coe_finset, List.toFinset_card_of_nodup m.keys_nodup]
  rfl

-- ============================================================= insert

/-- The load after an insert of `k` that goes through. -/
private theorem length_keys_insert (m : BoundedMap K V cap) (k : K) (v : V) :
    (m.alist.insert k v).keys.length
      = if (m.get? k).isSome then m.size else m.size + 1 := by
  rw [AList.keys_insert, List.length_cons]
  by_cases hk : k ∈ m.keys
  · have hpos := List.length_pos_of_mem hk
    rw [if_pos ((mem_keys m k).mp hk),
      List.length_erase_of_mem (a := k) (l := m.alist.keys) hk]
    show m.keys.length - 1 + 1 = m.keys.length
    omega
  · rw [if_neg (fun h => hk ((mem_keys m k).mpr h)),
      List.erase_of_not_mem (a := k) (l := m.alist.keys) hk]
    rfl

/-- The room an insert of `k` needs: none for a present key, one entry
for an absent one. -/
def Fits (m : BoundedMap K V cap) (k : K) : Prop :=
  (m.get? k).isSome ∨ m.size < cap

instance (m : BoundedMap K V cap) (k : K) : Decidable (m.Fits k) :=
  inferInstanceAs (Decidable ((m.get? k).isSome ∨ m.size < cap))

private theorem fits_iff_length (m : BoundedMap K V cap) (k : K) (v : V) :
    m.Fits k ↔ (m.alist.insert k v).keys.length ≤ cap := by
  rw [length_keys_insert, Fits]
  have hle := m.size_le
  split
  case isTrue h => simp [h, hle]
  case isFalse h => simp [h]

/-- What a key reads after an insert, whether it went through or not. -/
theorem get?_insert (m : BoundedMap K V cap) (k : K) (v : V) (k' : K) :
    (m.insert k v).1.get? k'
      = if k' = k ∧ m.Fits k then some v else m.get? k' := by
  by_cases hfit : m.Fits k
  · have hlen := (fits_iff_length m k v).mp hfit
    rw [insert, dif_pos hlen]
    by_cases hk : k' = k
    · subst hk
      rw [if_pos ⟨rfl, hfit⟩]
      exact AList.lookup_insert m.alist
    · rw [if_neg (fun h => hk h.1)]
      exact AList.lookup_insert_ne hk
  · have hlen := (fits_iff_length m k v).not.mp hfit
    rw [insert, dif_neg hlen, if_neg (fun h => hfit h.2)]

/-- A full map refuses a new key and stays as it is. -/
theorem insert_of_not_fits {m : BoundedMap K V cap} {k : K} (v : V)
    (h : ¬ m.Fits k) : (m.insert k v).1 = m := by
  rw [insert, dif_neg ((fits_iff_length m k v).not.mp h)]

/-- The load after an insert. -/
theorem size_insert (m : BoundedMap K V cap) (k : K) (v : V) :
    (m.insert k v).1.size
      = if m.get? k = none ∧ m.size < cap then m.size + 1 else m.size := by
  by_cases hfit : m.Fits k
  · have hlen := (fits_iff_length m k v).mp hfit
    have hsize : (m.insert k v).1.size
        = (m.alist.insert k v).keys.length := by
      rw [insert, dif_pos hlen]
      rfl
    rw [hsize, length_keys_insert]
    rcases hfit with hk | hroom
    · rw [if_pos hk, if_neg (fun h => by simp [h.1] at hk)]
    · cases hk : m.get? k with
      | none => simp [hroom]
      | some w => simp
  · rw [insert_of_not_fits v hfit,
      if_neg (fun h => hfit (Or.inr h.2))]

-- ============================================================= remove

/-- What a key reads after a remove. -/
theorem get?_remove (m : BoundedMap K V cap) (k k' : K) :
    (m.remove k).1.get? k' = if k' = k then none else m.get? k' := by
  unfold remove
  split
  case isTrue h =>
    by_cases hk : k' = k
    · subst hk
      rw [if_pos rfl]
      exact AList.lookup_erase k' m.alist
    · rw [if_neg hk]
      exact AList.lookup_erase_ne hk
  case isFalse h =>
    by_cases hk : k' = k
    · subst hk
      rw [if_pos rfl]
      exact AList.lookup_eq_none.mpr h
    · rw [if_neg hk]

-- ================================================== modify and filter

/-- Writing through the pointer of an absent key does nothing. -/
theorem modify_of_none {m : BoundedMap K V cap} {k : K} (f : V → V)
    (h : m.get? k = none) : m.modify k f = m := by
  unfold modify
  rw [h]

/-- What a key reads once the entries failing `p` are gone. -/
theorem get?_filter (m : BoundedMap K V cap) (p : V → Bool) (k : K) :
    (m.filter p).get? k = (m.get? k).filter p := by
  ext v
  have hmem : ∀ (a : AList fun _ : K => V) (v : V),
      a.lookup k = some v ↔ (⟨k, v⟩ : Sigma fun _ => V) ∈ a.entries :=
    fun a v => AList.mem_lookup_iff
  simp only [Option.filter_eq_some_iff, get?, hmem]
  simp [filter, List.mem_filter]

end BoundedMap

end Lib
