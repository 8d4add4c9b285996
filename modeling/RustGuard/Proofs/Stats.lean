/-
Who creates the counter? Nobody.

The XDP program adds to `STATS[0]` through a pointer it gets only if the
entry is there; the daemon takes the map and reads `STATS[0]`, and never
writes it. Loading the object creates the map with no entries. So along
every run the map stays empty (`stats_run`), the increment is never
executed, and the answer to `Stats` is "No stats" to the end of time.

That answer is right as long as nothing has been dropped.
`stats_counts_iff` says so with the ledger: up to the first complete
frame that arrives under a ban in force, and not after it.
-/
import RustGuard.Proofs.Enforcement

namespace RustGuard

open Lib

-- ======================================================== the empty map

/-- No step creates the entry. -/
theorem stats_step (nt : NetworkTypes) (g : Guard) (e : Event)
    (h : g.stats.get? 0 = none) : (g.step nt e).1.stats.get? 0 = none := by
  cases e with
  | frame ctx ktime =>
      show (rustguard nt g.bannedIps g.stats ktime ctx).2.stats.get? 0 = none
      rw [rustguard_stats]
      split
      · rw [countDrop, BoundedMap.modify_of_none _ h, h]
      · exact h
  | request req utc =>
      show (dispatch g utc req).1.stats.get? 0 = none
      have harm := dispatch_arm g utc req
      generalize dispatch g utc req = r at harm ⊢
      cases harm <;> exact h

/-- There is no counter at any point of any run. -/
theorem stats_run (nt : NetworkTypes) (history : List Event) :
    (Guard.run nt history).stats.get? 0 = none :=
  Machine.runState_inv (Guard.step nt) (stats_step nt) rfl history

/-- What `Stats` answers after any history. -/
theorem dispatch_stats_run (nt : NetworkTypes) (history : List Event)
    (utc : Option Int64) :
    (dispatch (Guard.run nt history) utc .stats).2 = .stats "No stats" := by
  rw [dispatch, stats_run]

-- ============================================================ the count

/-- The frames of a history that the XDP program dropped. -/
def drops (nt : NetworkTypes) (history : List Event) : Nat :=
  (Machine.outputs (Guard.step nt) .init history).count (.verdict .drop)

/-- What the text of a `Stats` answer has to be, after `n` drops. -/
def CountsDrops (text : String) (n : Nat) : Prop :=
  text = "Packets dropped: " ++ Nat.repr (n % 2 ^ 64)
    ∨ (text = "No stats" ∧ n = 0)

/-- "No stats" is the right text only while nothing was dropped. -/
theorem countsDrops_noStats (n : Nat) :
    CountsDrops "No stats" n ↔ n = 0 := by
  refine ⟨?_, fun h => Or.inr ⟨rfl, h⟩⟩
  intro hcounts
  rcases hcounts with htext | ⟨-, h⟩
  · have hlist := congrArg String.toList htext
    rw [String.toList_append] at hlist
    exact absurd (List.cons.inj hlist).1 (by decide)
  · exact h

/-- Nothing was dropped exactly when no complete frame arrived under a
ban in force. -/
theorem drops_eq_zero_iff (nt : NetworkTypes) (history : List Event) :
    drops nt history = 0
      ↔ ∀ pre ctx ktime post, history = pre ++ .frame ctx ktime :: post →
          ctx.Complete → ¬ (Ledger.after pre).Blocks ctx.source ktime := by
  rw [drops, List.count_eq_zero, Machine.mem_outputs]
  constructor
  · intro hno pre ctx ktime post hsplit hc hblocks
    subst hsplit
    refine hno ⟨pre, .frame ctx ktime, post, rfl, ?_⟩
    rcases verdict_run nt pre hc ktime with ⟨hv, -⟩ | ⟨-, hb⟩
    · rw [step_frame_verdict]
      exact congrArg Output.verdict hv
    · exact absurd hblocks hb
  · intro hno hmem
    obtain ⟨pre, e, post, rfl, hdrop⟩ := hmem
    cases e with
    | request req utc => cases hdrop
    | frame ctx ktime =>
        rw [step_frame_verdict, Output.verdict.injEq] at hdrop
        obtain ⟨hc, -⟩ := verdict_drop_iff.mp hdrop
        rcases verdict_run nt pre hc ktime with ⟨-, hb⟩ | ⟨hv, -⟩
        · exact hno pre ctx ktime post rfl hc hb
        · rw [← Guard.run, hv] at hdrop
          cases hdrop

/-- A `Stats` request at any place in any run is answered with the number
of drops before it, if and only if no complete frame before it arrived
under a ban in force. -/
theorem stats_counts_iff (nt : NetworkTypes) (pre post : List Event)
    (utc : Option Int64) :
    (∃ text,
      (Machine.outputs (Guard.step nt) .init
          (pre ++ .request .stats utc :: post))[pre.length]?
        = some (.response (.stats text))
      ∧ CountsDrops text (drops nt pre))
    ↔ ∀ pre' ctx ktime mid, pre = pre' ++ .frame ctx ktime :: mid →
        ctx.Complete → ¬ (Ledger.after pre').Blocks ctx.source ktime := by
  have hanswer : (Machine.outputs (Guard.step nt) .init
      (pre ++ .request .stats utc :: post))[pre.length]?
      = some (.response (.stats "No stats")) := by
    rw [Machine.outputs_at, ← dispatch_stats_run nt pre utc]
    rfl
  rw [← drops_eq_zero_iff nt, ← countsDrops_noStats]
  constructor
  · intro hanswered
    obtain ⟨text, hout, hcounts⟩ := hanswered
    rw [hanswer] at hout
    cases hout
    exact hcounts
  · intro hcounts
    exact ⟨"No stats", hanswer, hcounts⟩

/-- One drop, and still "No stats". -/
theorem one_drop_no_stats :
    Machine.outputs (Guard.step networkTypes) .init
        [.request (.ban "10.0.0.1" none) none,
          .frame (frameFrom ⟨10, 0, 0, 1⟩ 6 54) 7,
          .request .stats none]
      = [.response .ok, .verdict .drop, .response (.stats "No stats")]
    ∧ ¬ CountsDrops "No stats" (drops networkTypes
        [.request (.ban "10.0.0.1" none) none,
          .frame (frameFrom ⟨10, 0, 0, 1⟩ 6 54) 7]) := by
  constructor
  · decide
  · rw [countsDrops_noStats]
    decide

end RustGuard
