/-
The process cache over whole runs: what a call returns is the latest
read for that process, never thirty seconds old, and the link is read as
seldom as that allows.

The cache itself remembers little, one name and one instant a process.
What it must be compared with is the history, every read ever made, so
the invariant speaks of the trace: an entry is the LAST read of its
process in the trace so far (`Remembers`). Time does not enter into it.
Time enters once, at the end: instants do not decrease, so when the last
read is too old, they all are.

`exe` touches the entry of one process and looks at no other, so the
calls for a process go the way they would go alone (`trace_filter`).
-/
import RustGuard.Monitor

namespace RustGuard

open Lib

-- ============================================================ the trace

/-- Calls with what they were answered, from a given cache. -/
def traceFrom (cache : ProcessCache) (calls : List ExeCall) :
    List (ExeCall × ExeAnswer) :=
  calls.zip (Machine.outputs ProcessCache.exe cache calls)

/-- From the empty cache. -/
def trace (calls : List ExeCall) : List (ExeCall × ExeAnswer) :=
  traceFrom .default calls

/-- The reads made for a process, in order. -/
def reads (pid : UInt32) (tr : List (ExeCall × ExeAnswer)) : List ExeCall :=
  (tr.filter fun entry => entry.1.pid = pid ∧ entry.2.read = true).map
    Prod.fst

/-- Instants do not decrease: a call takes its time, and the next comes
after it. -/
structure Ordered (calls : List ExeCall) : Prop where
  within : ∀ call ∈ calls, call.now ≤ call.stored
  between : calls.Pairwise fun call later => call.stored ≤ later.now

theorem Ordered.of_append {calls later : List ExeCall}
    (h : Ordered (calls ++ later)) : Ordered calls where
  within call hcall := h.within call (List.mem_append_left _ hcall)
  between := h.between.sublist (List.sublist_append_left ..)

theorem traceFrom_cons (cache : ProcessCache) (call : ExeCall)
    (calls : List ExeCall) :
    traceFrom cache (call :: calls)
      = (call, (cache.exe call).2) :: traceFrom (cache.exe call).1 calls :=
  rfl

theorem traceFrom_append (cache : ProcessCache) (calls later : List ExeCall) :
    traceFrom cache (calls ++ later)
      = traceFrom cache calls
        ++ traceFrom (Machine.runState ProcessCache.exe cache calls) later := by
  unfold traceFrom
  rw [Machine.outputs_append,
    List.zip_append (Machine.length_outputs ..).symm]

theorem map_fst_traceFrom (cache : ProcessCache) (calls : List ExeCall) :
    (traceFrom cache calls).map Prod.fst = calls :=
  List.map_fst_zip (Machine.length_outputs ..).ge

theorem reads_append (pid : UInt32) (tr tr' : List (ExeCall × ExeAnswer)) :
    reads pid (tr ++ tr') = reads pid tr ++ reads pid tr' := by
  unfold reads
  rw [List.filter_append, List.map_append]

/-- The reads of a run are some of its calls, in the same order. -/
theorem reads_sublist (pid : UInt32) (calls : List ExeCall) :
    (reads pid (trace calls)).Sublist calls := by
  have hsub := (List.filter_sublist (p := fun entry : ExeCall × ExeAnswer =>
    entry.1.pid = pid ∧ entry.2.read = true) (l := trace calls)).map Prod.fst
  rwa [trace, map_fst_traceFrom] at hsub

-- ========================================================= one call

section Call

variable {cache : ProcessCache} {call : ExeCall}

@[simp] theorem cache_insert (pid pid' : UInt32) (entry : String × Nat) :
    (cache.insert pid entry).cache pid'
      = if pid' = pid then some entry else cache.cache pid' := rfl

/-- A call is answered from the entry of its process when that is less
than thirty seconds old, and reads the link otherwise. -/
theorem exe_cases (cache : ProcessCache) (call : ExeCall) :
    (∃ exe ts, cache.cache call.pid = some (exe, ts)
      ∧ call.now < ts + cacheTtl
      ∧ cache.exe call = (cache, ⟨exe, false⟩))
    ∨ ((∀ exe ts, cache.cache call.pid = some (exe, ts) →
        ts + cacheTtl ≤ call.now)
      ∧ cache.exe call
        = (cache.insert call.pid (call.found, call.stored),
          ⟨call.found, true⟩)) := by
  have hpos : 0 < cacheTtl := by decide
  unfold ProcessCache.exe
  cases hentry : cache.cache call.pid with
  | none => exact Or.inr ⟨by simp, rfl⟩
  | some entry =>
      obtain ⟨exe, ts⟩ := entry
      by_cases hfresh : call.now - ts < cacheTtl
      · refine Or.inl ⟨exe, ts, rfl, by omega, ?_⟩
        simp [Option.filter, hfresh]
      · refine Or.inr ⟨?_, ?_⟩
        · intro exe' ts' h
          obtain ⟨-, rfl⟩ := Prod.mk.inj (Option.some.inj h)
          omega
        · simp [Option.filter, hfresh]

/-- Other processes keep their entries. -/
theorem exe_other {pid : UInt32} (hpid : pid ≠ call.pid) :
    (cache.exe call).1.cache pid = cache.cache pid := by
  rcases exe_cases cache call with ⟨exe, ts, -, -, heq⟩ | ⟨-, heq⟩
  · rw [heq]
  · rw [heq, cache_insert, if_neg hpid]

/-- A call looks at the entry of its process only. -/
theorem exe_congr {cache' : ProcessCache}
    (h : cache.cache call.pid = cache'.cache call.pid) :
    (cache.exe call).2 = (cache'.exe call).2
      ∧ (cache.exe call).1.cache call.pid
        = (cache'.exe call).1.cache call.pid := by
  unfold ProcessCache.exe
  rw [← h]
  simp only
  split
  · exact ⟨rfl, h⟩
  · simp

end Call

-- =========================================================== isolation

/-- The calls for one process are answered as though they were alone. -/
theorem trace_filter (pid : UInt32) (calls : List ExeCall) :
    (trace calls).filter (·.1.pid = pid)
      = trace (calls.filter (·.pid = pid)) := by
  -- two caches that agree on the process, one of them seeing all calls
  have hgen : ∀ cache cache' : ProcessCache, cache.cache pid = cache'.cache pid →
      (traceFrom cache calls).filter (·.1.pid = pid)
        = traceFrom cache' (calls.filter (·.pid = pid)) := by
    induction calls with
    | nil =>
        intro cache cache' _
        rfl
    | cons call calls ih =>
        intro cache cache' hagree
        rw [traceFrom_cons]
        by_cases hpid : call.pid = pid
        · subst hpid
          obtain ⟨hanswer, hnext⟩ := exe_congr hagree
          rw [List.filter_cons_of_pos (by simp),
            List.filter_cons_of_pos (by simp), traceFrom_cons, hanswer,
            ih _ _ hnext]
        · rw [List.filter_cons_of_neg (by simpa using hpid),
            List.filter_cons_of_neg (by simpa using hpid)]
          refine ih _ _ ?_
          rw [exe_other (fun h => hpid h.symm), hagree]
  exact hgen _ _ rfl

-- ========================================================= the history

/-- An entry is the last read of its process, and there is none before
the first. -/
def Remembers (cache : ProcessCache) (tr : List (ExeCall × ExeAnswer)) :
    Prop :=
  ∀ pid, cache.cache pid
    = (reads pid tr).getLast?.map fun read => (read.found, read.stored)

/-- One call keeps it so. -/
theorem Remembers.exe {cache : ProcessCache}
    {tr : List (ExeCall × ExeAnswer)} (h : Remembers cache tr)
    (call : ExeCall) :
    Remembers (cache.exe call).1 (tr ++ [(call, (cache.exe call).2)]) := by
  intro pid
  rw [reads_append]
  rcases exe_cases cache call with ⟨exe, ts, -, -, heq⟩ | ⟨-, heq⟩
  · rw [heq, h pid]
    simp [reads]
  · rw [heq, cache_insert]
    by_cases hpid : pid = call.pid
    · simp [reads, hpid]
    · rw [if_neg hpid, h pid]
      simp [reads, Ne.symm hpid]

/-- So does a run. -/
theorem remembers_run (calls : List ExeCall) :
    Remembers (Machine.runState ProcessCache.exe .default calls)
      (trace calls) := by
  induction calls using List.reverseRecOn with
  | nil =>
      intro pid
      rfl
  | append_singleton calls call ih =>
      have htrace : trace (calls ++ [call]) = trace calls
          ++ [(call, ((Machine.runState ProcessCache.exe .default
            calls).exe call).2)] := traceFrom_append .default calls [call]
      rw [Machine.runState_append, htrace]
      exact ih.exe call

/-- In an ordered run the last read of a process was stored last. -/
theorem stored_le_last {calls : List ExeCall} (hord : Ordered calls)
    {pid : UInt32} {last : ExeCall}
    (hlast : (reads pid (trace calls)).getLast? = some last) :
    ∀ read ∈ reads pid (trace calls), read.stored ≤ last.stored := by
  have hsub := reads_sublist pid calls
  obtain ⟨earlier, heq⟩ := List.getLast?_eq_some_iff.mp hlast
  have hpair := hord.between.sublist hsub
  have hmem : last ∈ calls := hsub.subset (by rw [heq]; simp)
  rw [heq] at hpair ⊢
  intro read hread
  rcases List.mem_append.mp hread with hread | hread
  · have hle := (List.pairwise_append.mp hpair).2.2 read hread last (by simp)
    exact Nat.le_trans hle (hord.within last hmem)
  · rw [List.mem_singleton.mp hread]

-- ========================================================= whole runs

/-- What is promised of one call, given those before it: it reads the
link exactly when every earlier read for the process was stored thirty
seconds ago or more; and it returns what the latest read for the process
found, which is its own or was stored less than thirty seconds before. -/
structure Served (before : List ExeCall) (call : ExeCall)
    (answer : ExeAnswer) : Prop where
  read_iff : answer.read = true
    ↔ ∀ read ∈ reads call.pid (trace before),
      read.stored + cacheTtl ≤ call.now
  latest : ∃ read,
    (reads call.pid (trace before ++ [(call, answer)])).getLast? = some read
    ∧ answer.exe = read.found
    ∧ ((answer.read = true ∧ read = call)
      ∨ (answer.read = false ∧ call.now < read.stored + cacheTtl))

/-- The call behind a run. -/
theorem served_exe {before : List ExeCall} {call : ExeCall}
    (hord : Ordered (before ++ [call])) :
    Served before call
      ((Machine.runState ProcessCache.exe .default before).exe call).2 := by
  have hbefore : Ordered before := hord.of_append
  have hentry := remembers_run before call.pid
  generalize Machine.runState ProcessCache.exe .default before = cache
    at hentry ⊢
  rcases exe_cases cache call with
    ⟨exe, ts, hsome, hfresh, heq⟩ | ⟨hold, heq⟩
  · rw [hsome] at hentry
    obtain ⟨read, hread, hvalue⟩ := Option.map_eq_some_iff.mp hentry.symm
    obtain ⟨rfl, rfl⟩ := Prod.mk.inj hvalue
    rw [heq]
    constructor
    · refine iff_of_false (by simp) ?_
      intro hall
      have := hall read (List.mem_of_getLast? hread)
      omega
    · refine ⟨read, ?_, rfl, Or.inr ⟨rfl, hfresh⟩⟩
      rw [reads_append]
      simpa [reads] using hread
  · rw [heq]
    constructor
    · refine iff_of_true rfl ?_
      intro read hread
      -- the entry is the last read, and it is too old
      obtain ⟨last, hlast⟩ := Option.isSome_iff_exists.mp
        (List.getLast?_isSome.mpr (List.ne_nil_of_mem hread))
      have hlastOld := hold last.found last.stored (by
        rw [hentry, hlast]
        rfl)
      have := stored_le_last hbefore hlast read hread
      omega
    · refine ⟨call, ?_, rfl, Or.inl ⟨rfl, rfl⟩⟩
      rw [reads_append]
      simp [reads]

/-- Over every run: every call is served so, and what the calls for one
process are answered does not depend on the calls for the others. -/
theorem exe_bounded_stale {calls : List ExeCall} (hord : Ordered calls) :
    (∀ before call after, calls = before ++ call :: after →
      ∃ answer, (trace calls)[before.length]? = some (call, answer)
        ∧ Served before call answer)
    ∧ (∀ pid, (trace calls).filter (·.1.pid = pid)
      = trace (calls.filter (·.pid = pid))) := by
  refine ⟨?_, fun pid => trace_filter pid calls⟩
  intro before call after hcalls
  have hcut : calls = (before ++ [call]) ++ after := by simp [hcalls]
  have hord' : Ordered (before ++ [call]) := by
    rw [hcut] at hord
    exact hord.of_append
  refine ⟨_, ?_, served_exe hord'⟩
  have hlen : (traceFrom .default before).length = before.length := by
    rw [← List.length_map Prod.fst, map_fst_traceFrom]
  rw [hcalls, trace, traceFrom_append, traceFrom_cons,
    List.getElem?_append_right (by omega), hlen, Nat.sub_self]
  rfl

/-- Process 7 is asked for four times and process 8 once: the third call
for 7 comes a nanosecond before the thirty seconds are over, the fourth
when they are. -/
def boundaryCalls : List ExeCall :=
  [⟨7, 0, some "/usr/bin/a", 1⟩, ⟨8, 2, none, 3⟩,
    ⟨7, 4, some "/usr/bin/b", 5⟩,
    ⟨7, 30000000000, some "/usr/bin/c", 30000000000⟩,
    ⟨7, 30000000001, some "/usr/bin/d", 30000000002⟩]

theorem exe_bounded_stale_boundary :
    ∃ answer, (trace boundaryCalls)[4]?
        = some (⟨7, 30000000001, some "/usr/bin/d", 30000000002⟩, answer)
      ∧ Served (boundaryCalls.take 4)
        ⟨7, 30000000001, some "/usr/bin/d", 30000000002⟩ answer :=
  (@exe_bounded_stale boundaryCalls ⟨by decide, by decide⟩).1
    (boundaryCalls.take 4) _ [] rfl

end RustGuard
