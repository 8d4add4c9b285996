/-
Sequences of writes to a map with a fixed number of entries.

A write stores a value under a key, or none (`write`). Into a map without
a limit, writes to different keys never meet, and what a key holds in the
end is what was last written to it (`latest`). The limit is the one place
where they do meet, and this module says exactly where:

- a write to a key makes the one before it to the same key undone
  (`write_write`), limit or no limit;
- two writes to different keys can be swapped, unless one of them takes
  the last entry the other needs, or frees it (`Crowds`, `swap_get?`,
  `not_crowds_of_swap`);
- if no more keys than entries are ever stored, the limit is never met
  (`writes_latest`);
- if no key is ever removed, the first keys that come get the entries,
  and keep them (`writes_firsts`).
-/
import RustGuard.Lib.BoundedMap

namespace Lib

universe u v

variable {K : Type u} {V : Type v}

section Sequences

variable [DecidableEq K]

/-- What was last written to each key. -/
def latest (ws : List (K × Option V)) : K → Option V :=
  ws.foldl (fun f w => Function.update f w.1 w.2) fun _ => none

/-- The keys of a list in the order they first come up. -/
def firsts (ks : List K) : List K :=
  ks.foldl (fun seen k => if k ∈ seen then seen else seen ++ [k]) []

theorem latest_concat (ws : List (K × Option V)) (w : K × Option V) :
    latest (ws ++ [w]) = Function.update (latest ws) w.1 w.2 :=
  List.foldl_concat ..

theorem firsts_concat (ks : List K) (k : K) :
    firsts (ks ++ [k])
      = if k ∈ firsts ks then firsts ks else firsts ks ++ [k] :=
  List.foldl_concat ..

theorem mem_firsts {ks : List K} {k : K} : k ∈ firsts ks ↔ k ∈ ks := by
  induction ks using List.reverseRecOn with
  | nil => rfl
  | append_singleton ks k' ih =>
      rw [firsts_concat, List.mem_append, List.mem_singleton]
      split
      case isTrue hseen =>
        rw [ih]
        refine ⟨Or.inl, fun h => ?_⟩
        rcases h with hk | rfl
        · exact hk
        · exact ih.mp hseen
      case isFalse =>
        rw [List.mem_append, List.mem_singleton, ih]

theorem firsts_map {L : Type*} [DecidableEq L] {f : K → L}
    (hf : Function.Injective f) (ks : List K) :
    firsts (ks.map f) = (firsts ks).map f := by
  induction ks using List.reverseRecOn with
  | nil => rfl
  | append_singleton ks k ih =>
      rw [List.map_append, List.map_singleton, firsts_concat, firsts_concat,
        ih]
      have hmem := List.mem_map_of_injective hf (a := k) (l := firsts ks)
      by_cases hk : k ∈ firsts ks
      · rw [if_pos hk, if_pos (hmem.mpr hk)]
      · rw [if_neg hk, if_neg fun h => hk (hmem.mp h), List.map_append,
          List.map_singleton]

/-- Who came first stays first. -/
theorem firsts_prefix (ks ks' : List K) :
    firsts ks <+: firsts (ks ++ ks') := by
  induction ks' using List.reverseRecOn with
  | nil => rw [List.append_nil]
  | append_singleton ks' k ih =>
      rw [← List.append_assoc, firsts_concat]
      split
      · exact ih
      · exact ih.trans (List.prefix_append ..)

/-- Only the writes to a key matter to it. -/
theorem latest_filter (ws : List (K × Option V)) (k : K) :
    latest (ws.filter (·.1 = k)) k = latest ws k := by
  induction ws using List.reverseRecOn with
  | nil => rfl
  | append_singleton ws w ih =>
      rw [List.filter_append, latest_concat]
      by_cases hk : w.1 = k
      · subst hk
        rw [List.filter_singleton, decide_eq_true rfl, cond_true,
          latest_concat, Function.update_self, Function.update_self]
      · rw [List.filter_singleton, decide_eq_false hk, cond_false,
          List.append_nil, ih, Function.update_of_ne (Ne.symm hk)]

/-- Where every write stores something, every key written to has a
value. -/
theorem latest_isSome {ws : List (K × Option V)}
    (hws : ∀ w ∈ ws, w.2.isSome) {k : K} (hk : k ∈ ws.map Prod.fst) :
    (latest ws k).isSome := by
  induction ws using List.reverseRecOn with
  | nil => cases hk
  | append_singleton ws w ih =>
      rw [latest_concat]
      by_cases hkw : k = w.1
      · rw [hkw, Function.update_self]
        exact hws w (by simp)
      · rw [Function.update_of_ne hkw]
        refine ih (fun w hw => hws w (List.mem_append_left _ hw)) ?_
        simpa [hkw] using hk

end Sequences

namespace BoundedMap

variable {cap : Nat} [DecidableEq K]

/-- Store a value under a key, or none. -/
def write (m : BoundedMap K V cap) (w : K × Option V) : BoundedMap K V cap :=
  match w.2 with
  | some v => (m.insert w.1 v).1
  | none => (m.remove w.1).1

/-- One write after the other. -/
def writes (m : BoundedMap K V cap) (ws : List (K × Option V)) :
    BoundedMap K V cap :=
  ws.foldl write m

/-- The write has an effect: it removes, or there is room. -/
def Accepts (m : BoundedMap K V cap) (w : K × Option V) : Prop :=
  w.2 = none ∨ m.Fits w.1

instance (m : BoundedMap K V cap) (w : K × Option V) :
    Decidable (m.Accepts w) :=
  inferInstanceAs (Decidable (w.2 = none ∨ m.Fits w.1))

section Write

variable {m m' : BoundedMap K V cap}

/-- What a key reads after a write. -/
theorem get?_write (m : BoundedMap K V cap) (w : K × Option V) (k : K) :
    (m.write w).get? k
      = if k = w.1 ∧ m.Accepts w then w.2 else m.get? k := by
  obtain ⟨key, value⟩ := w
  cases value with
  | some v => simp [write, Accepts, get?_insert]
  | none => simp [write, Accepts, get?_remove]

theorem get?_write_self {w : K × Option V} (h : m.Accepts w) :
    (m.write w).get? w.1 = w.2 := by
  rw [get?_write, if_pos ⟨rfl, h⟩]

theorem get?_write_of_ne (m : BoundedMap K V cap) {w : K × Option V} {k : K}
    (h : k ≠ w.1) : (m.write w).get? k = m.get? k := by
  rw [get?_write, if_neg fun hk => h hk.1]

/-- A key that is not there and has no room stays away. -/
theorem get?_of_not_fits {k : K} (h : ¬ m.Fits k) : m.get? k = none := by
  rw [Fits, not_or] at h
  exact Option.not_isSome_iff_eq_none.mp h.1

/-- The load after a write of a value. -/
theorem size_write_some (m : BoundedMap K V cap) (k : K) (v : V) :
    (m.write (k, some v)).size
      = if m.get? k = none ∧ m.size < cap then m.size + 1 else m.size :=
  size_insert m k v

/-- The load after a write of none. -/
theorem size_write_none (m : BoundedMap K V cap) (k : K) :
    (m.write (k, none)).size
      = if (m.get? k).isSome then m.size - 1 else m.size := by
  show (m.remove k).1.size = _
  by_cases hk : k ∈ m.keys
  · rw [if_pos ((mem_keys m k).mp hk), remove,
      if_pos (AList.mem_keys.mpr hk)]
    show (m.alist.erase k).keys.length = m.alist.keys.length - 1
    rw [AList.keys_erase, List.length_erase_of_mem (AList.mem_keys.mpr hk)]
  · rw [if_neg fun h => hk ((mem_keys m k).mpr h), remove,
      if_neg fun h => hk (AList.mem_keys.mp h)]

/-- An entry means the map is not empty. -/
theorem size_pos {k : K} (h : (m.get? k).isSome) : 0 < m.size :=
  List.length_pos_of_mem ((mem_keys m k).mpr h)

/-- The key written to has room afterwards if it had some before. -/
theorem fits_write_self (m : BoundedMap K V cap) (k : K) (o : Option V) :
    (m.write (k, o)).Fits k ↔ m.Fits k := by
  have hle := m.size_le
  cases o with
  | some v =>
      by_cases hfit : m.Fits k
      · have hget : (m.write (k, some v)).get? k = some v :=
          get?_write_self (w := (k, some v)) (Or.inr hfit)
        refine iff_of_true (Or.inl ?_) hfit
        rw [hget]
        rfl
      · have hsame : m.write (k, some v) = m := insert_of_not_fits v hfit
        rw [hsame]
  | none =>
      have hgone : (m.write (k, none)).get? k = none :=
        get?_write_self (w := (k, none)) (Or.inl rfl)
      rw [Fits, Fits, hgone, size_write_none]
      cases hget : m.get? k with
      | none => simp
      | some v =>
          have hpos : 0 < m.size := size_pos (k := k) (by rw [hget]; rfl)
          simp only [Option.isSome_some, if_true]
          refine iff_of_true (Or.inr ?_) (Or.inl trivial)
          omega

/-- A write to a key undoes the one before it. -/
theorem write_write (m : BoundedMap K V cap) (k : K) (o o' : Option V)
    (k' : K) :
    ((m.write (k, o)).write (k, o')).get? k' = (m.write (k, o')).get? k' := by
  have hacc : (m.write (k, o)).Accepts (k, o') ↔ m.Accepts (k, o') :=
    or_congr_right (fits_write_self m k o)
  by_cases hk : k' = k
  · subst hk
    rw [get?_write, get?_write m (k', o')]
    by_cases h : m.Accepts (k', o')
    · rw [if_pos ⟨rfl, hacc.mpr h⟩, if_pos ⟨rfl, h⟩]
    · rw [if_neg fun hc => h (hacc.mp hc.2), if_neg fun hc => h hc.2]
      -- a write that has no effect finds no entry, before and after
      have hnone : m.get? k' = none :=
        get?_of_not_fits fun hfit => h (Or.inr hfit)
      have hnone' : (m.write (k', o)).get? k' = none :=
        get?_of_not_fits fun hfit =>
          h (Or.inr ((fits_write_self m k' o).mp hfit))
      rw [hnone, hnone']
  · rw [get?_write_of_ne _ hk, get?_write_of_ne _ hk, get?_write_of_ne _ hk]

-- ========================================================= swapped writes

/-- The first write takes the last entry the second needs, or frees it:
the second stores under a new key, and the first stores under another
with one entry left, or removes one from a full map. -/
def Crowds (m : BoundedMap K V cap) (w w' : K × Option V) : Prop :=
  w'.2.isSome ∧ m.get? w'.1 = none
    ∧ (w.2.isSome ∧ m.get? w.1 = none ∧ m.size + 1 = cap
      ∨ w.2 = none ∧ (m.get? w.1).isSome ∧ m.size = cap)

/-- It is what makes the difference. -/
theorem accepts_write_iff {w w' : K × Option V} (hne : w.1 ≠ w'.1) :
    ((m.write w).Accepts w' ↔ m.Accepts w') ↔ ¬ m.Crowds w w' := by
  have hle := m.size_le
  obtain ⟨k, o⟩ := w
  obtain ⟨k', o'⟩ := w'
  have hget : (m.write (k, o)).get? k' = m.get? k' :=
    get?_write_of_ne m (Ne.symm hne)
  rw [Accepts, Accepts, Fits, Fits, hget, Crowds]
  cases o' with
  | none => simp
  | some v' =>
      cases hk' : m.get? k' with
      | some => simp
      | none =>
          cases o with
          | some v =>
              rw [size_write_some]
              cases hk : m.get? k with
              | some => simp
              | none =>
                  simp only [reduceCtorEq, Option.isSome_none,
                    Option.isSome_some, Bool.false_eq_true, false_or,
                    true_and, false_and, or_false]
                  split <;> omega
          | none =>
              rw [size_write_none]
              cases hk : m.get? k with
              | none => simp
              | some =>
                  have hpos : 0 < m.size :=
                    size_pos (k := k) (by rw [hk]; rfl)
                  simp only [reduceCtorEq, Option.isSome_none,
                    Option.isSome_some, Bool.false_eq_true, false_or,
                    true_and, false_and, if_true]
                  omega

/-- A write that has an effect in both of two maps or in neither leaves
the key alike. -/
theorem get?_write_congr {w : K × Option V}
    (hget : m'.get? w.1 = m.get? w.1) (hacc : m'.Accepts w ↔ m.Accepts w) :
    (m'.write w).get? w.1 = (m.write w).get? w.1 := by
  simp only [get?_write, hget, hacc]

/-- One that has an effect in one of them only shows whether the key is
there. -/
theorem accepts_congr {w : K × Option V}
    (hdom : ((m'.write w).get? w.1).isSome = ((m.write w).get? w.1).isSome) :
    m'.Accepts w ↔ m.Accepts w := by
  have hkey : ∀ {m : BoundedMap K V cap}, ¬ m.Accepts w →
      m.get? w.1 = none ∧ w.2.isSome := by
    intro m hno
    rw [Accepts, not_or] at hno
    exact ⟨get?_of_not_fits hno.2, Option.isSome_iff_ne_none.mpr hno.1⟩
  by_cases h : m.Accepts w
  · by_cases h' : m'.Accepts w
    · exact iff_of_true h' h
    · obtain ⟨hnone, hsome⟩ := hkey h'
      simp [get?_write, h, h', hnone, hsome] at hdom
  · by_cases h' : m'.Accepts w
    · obtain ⟨hnone, hsome⟩ := hkey h
      simp [get?_write, h, h', hnone, hsome] at hdom
    · exact iff_of_false h' h

section Swap

variable {w w' : K × Option V} (hne : w.1 ≠ w'.1)

include hne

/-- Two writes to different keys leave the same map in either order, if
neither takes or frees the last entry the other needs. -/
theorem swap_get? (h : ¬ (m.Crowds w w' ∨ m.Crowds w' w)) (k : K) :
    ((m.write w).write w').get? k = ((m.write w').write w).get? k := by
  rw [not_or, ← accepts_write_iff hne,
    ← accepts_write_iff (Ne.symm hne)] at h
  by_cases hk : k = w.1
  · rw [hk, get?_write_of_ne _ hne,
      get?_write_congr (get?_write_of_ne m hne) h.2]
  · by_cases hk' : k = w'.1
    · rw [hk', get?_write_of_ne _ (Ne.symm hne),
        get?_write_congr (get?_write_of_ne m (Ne.symm hne)) h.1]
    · rw [get?_write_of_ne _ hk', get?_write_of_ne _ hk,
        get?_write_of_ne _ hk, get?_write_of_ne _ hk']

/-- If one does, not even the keys are the same. -/
theorem not_crowds_of_swap
    (h : ∀ k, (((m.write w).write w').get? k).isSome
      = (((m.write w').write w).get? k).isSome) :
    ¬ (m.Crowds w w' ∨ m.Crowds w' w) := by
  rw [not_or, ← accepts_write_iff hne, ← accepts_write_iff (Ne.symm hne)]
  constructor
  · refine accepts_congr ?_
    rw [h w'.1, get?_write_of_ne _ (Ne.symm hne)]
  · refine accepts_congr ?_
    rw [← h w.1, get?_write_of_ne _ hne]

end Swap

end Write

-- ====================================================== many writes

section Writes

theorem writes_concat (m : BoundedMap K V cap) (ws : List (K × Option V))
    (w : K × Option V) : m.writes (ws ++ [w]) = (m.writes ws).write w :=
  List.foldl_concat ..

/-- A map whose keys are all among `S` has room for another of `S`. -/
theorem fits_of_subset {m : BoundedMap K V cap} {S : Finset K}
    (hcard : S.card ≤ cap) (hsub : ∀ k, (m.get? k).isSome → k ∈ S) {k : K}
    (hk : k ∈ S) : m.Fits k := by
  by_cases hget : (m.get? k).isSome
  · exact Or.inl hget
  · refine Or.inr ?_
    have hnot : k ∉ m.keys := fun hmem => hget ((mem_keys m k).mp hmem)
    have hss : m.keys.toFinset ⊂ S := by
      refine Finset.ssubset_iff_subset_ne.mpr ⟨fun k' hk' => ?_, ?_⟩
      · exact hsub k' ((mem_keys m k').mp (List.mem_toFinset.mp hk'))
      · rintro rfl
        exact hnot (List.mem_toFinset.mp hk)
    have hlt := Finset.card_lt_card hss
    rw [List.toFinset_card_of_nodup m.keys_nodup] at hlt
    exact hlt.trans_le hcard

/-- As long as no more keys than entries are ever stored, a key holds
what was last written to it. -/
theorem writes_latest {ws : List (K × Option V)} {S : Finset K}
    (hcard : S.card ≤ cap) (hws : ∀ w ∈ ws, w.2.isSome → w.1 ∈ S) (k : K) :
    ((empty : BoundedMap K V cap).writes ws).get? k = latest ws k := by
  have hboth : (∀ k, ((empty : BoundedMap K V cap).writes ws).get? k
        = latest ws k)
      ∧ ∀ k, (latest ws k).isSome → k ∈ S := by
    induction ws using List.reverseRecOn with
    | nil => exact ⟨fun _ => rfl, fun _ h => nomatch h⟩
    | append_singleton ws w ih =>
        obtain ⟨hget, hsub⟩ := ih fun w hw =>
          hws w (List.mem_append_left _ hw)
        have hw := hws w (by simp)
        have hacc : ((empty : BoundedMap K V cap).writes ws).Accepts w := by
          cases hval : w.2 with
          | none => exact Or.inl hval
          | some v =>
              refine Or.inr (fits_of_subset hcard ?_ (hw (by rw [hval]; rfl)))
              intro k hk
              rw [hget k] at hk
              exact hsub k hk
        refine ⟨fun k => ?_, fun k hk => ?_⟩
        · rw [writes_concat, get?_write, latest_concat]
          by_cases hk : k = w.1
          · rw [if_pos ⟨hk, hacc⟩, hk, Function.update_self]
          · rw [if_neg fun h => hk h.1, Function.update_of_ne hk, hget k]
        · rw [latest_concat] at hk
          by_cases hkw : k = w.1
          · rw [hkw, Function.update_self] at hk
            rw [hkw]
            exact hw hk
          · rw [Function.update_of_ne hkw] at hk
            exact hsub k hk
  exact hboth.1 k

/-- The map holds the first keys of `F` it has room for, with the values
of `f`. -/
structure HoldsFirsts (m : BoundedMap K V cap) (F : List K)
    (f : K → Option V) : Prop where
  get? : ∀ k, m.get? k = if k ∈ F.take cap then f k else none
  size : m.size = min cap F.length

section HoldsFirsts

variable {m : BoundedMap K V cap} {F : List K} {f : K → Option V} {k : K}
  {v : V}

/-- A key that is in: its value is replaced. -/
theorem HoldsFirsts.replace (h : m.HoldsFirsts F f) (hin : k ∈ F.take cap)
    (hf : (f k).isSome) :
    (m.write (k, some v)).HoldsFirsts F (Function.update f k (some v)) := by
  have hsome : (m.get? k).isSome := by
    rw [h.get?, if_pos hin]
    exact hf
  refine ⟨fun k' => ?_, ?_⟩
  · by_cases hk : k' = k
    · subst hk
      rw [get?_write, if_pos ⟨rfl, Or.inr (Or.inl hsome)⟩, if_pos hin,
        Function.update_self]
    · rw [get?_write_of_ne m hk, Function.update_of_ne hk, h.get?]
  · rw [size_write_some, if_neg, h.size]
    rintro ⟨hnone, -⟩
    rw [hnone] at hsome
    cases hsome

/-- A new key while there is room: it gets in. -/
theorem HoldsFirsts.add (h : m.HoldsFirsts F f) (hin : k ∉ F)
    (hroom : F.length < cap) :
    (m.write (k, some v)).HoldsFirsts (F ++ [k])
      (Function.update f k (some v)) := by
  have hfit : m.size < cap := by
    rw [h.size]
    omega
  have hall : F.take cap = F := List.take_of_length_le hroom.le
  have hall' : (F ++ [k]).take cap = F ++ [k] :=
    List.take_of_length_le (by simpa using hroom)
  have hget := h.get?
  rw [hall] at hget
  have hnone : m.get? k = none := by rw [hget, if_neg hin]
  refine ⟨fun k' => ?_, ?_⟩
  · rw [hall']
    by_cases hk : k' = k
    · subst hk
      rw [get?_write, if_pos ⟨rfl, Or.inr (Or.inr hfit)⟩, if_pos (by simp),
        Function.update_self]
    · rw [get?_write_of_ne m hk, Function.update_of_ne hk, hget]
      simp [hk]
  · rw [size_write_some, if_pos ⟨hnone, hfit⟩, h.size, List.length_append,
      List.length_singleton]
    omega

/-- A key that is not in, when there is no room: it stays out. -/
theorem HoldsFirsts.refuse (h : m.HoldsFirsts F f) (hin : k ∉ F.take cap)
    (hfull : cap ≤ F.length) {F' : List K} (hF' : F'.take cap = F.take cap)
    (hlen : F.length ≤ F'.length) :
    (m.write (k, some v)).HoldsFirsts F' (Function.update f k (some v)) := by
  have hsize : m.size = cap := by
    rw [h.size]
    omega
  have hnone : m.get? k = none := by rw [h.get?, if_neg hin]
  have hno : ¬ m.Fits k := by
    rintro (hsome | hroom)
    · rw [hnone] at hsome
      cases hsome
    · omega
  have hsame : m.write (k, some v) = m := insert_of_not_fits v hno
  rw [hsame]
  refine ⟨fun k' => ?_, by omega⟩
  rw [hF', h.get?]
  by_cases hk : k' = k
  · subst hk
    rw [if_neg hin, if_neg hin]
  · rw [Function.update_of_ne hk]

end HoldsFirsts

/-- If nothing is ever removed, the first keys that come get the entries,
and what was last written to them is what they hold. -/
theorem writes_firsts {ws : List (K × Option V)}
    (hws : ∀ w ∈ ws, w.2.isSome) :
    ((empty : BoundedMap K V cap).writes ws).HoldsFirsts
      (firsts (ws.map Prod.fst)) (latest ws) := by
  induction ws using List.reverseRecOn with
  | nil => exact ⟨fun k => by simp [writes, firsts], by simp [writes, firsts]⟩
  | append_singleton ws w ih =>
      have hbefore : ∀ w ∈ ws, w.2.isSome := fun w hw =>
        hws w (List.mem_append_left _ hw)
      have h := ih hbefore
      have hheld : ∀ k ∈ firsts (ws.map Prod.fst), (latest ws k).isSome :=
        fun k hk => latest_isSome hbefore (mem_firsts.mp hk)
      obtain ⟨k, value⟩ := w
      obtain ⟨v, rfl⟩ := Option.isSome_iff_exists.mp
        (hws (k, value) (by simp))
      rw [writes_concat, List.map_append, List.map_singleton, firsts_concat,
        latest_concat]
      dsimp only
      generalize firsts (ws.map Prod.fst) = F at h hheld ⊢
      by_cases hin : k ∈ F.take cap
      · have hmem : k ∈ F := List.mem_of_mem_take hin
        rw [if_pos hmem]
        exact h.replace hin (hheld k hmem)
      · rcases Nat.lt_or_ge F.length cap with hroom | hfull
        · have hnew : k ∉ F := by
            rw [List.take_of_length_le hroom.le] at hin
            exact hin
          rw [if_neg hnew]
          exact h.add hnew hroom
        · refine h.refuse hin hfull ?_ ?_
          · split
            · rfl
            · exact List.take_append_of_le_length hfull
          · split <;> simp

end Writes

end BoundedMap

end Lib
