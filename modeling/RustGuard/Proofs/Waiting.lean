/-
Who waits for whom.

One loop serves all clients, without a timeout, so a client that connects
and sends nothing holds up everyone behind it for as long as it likes
(`silent_client_blocks`). That is the whole extent of it. The clients
BEHIND someone never matter, nor does what anyone did before; and a
client ahead that has sent its frame, or hung up, only takes its turn.
`answerable_iff` is both directions: the daemon can answer a waiting
client by itself exactly if every client ahead of it is ready.

The one direction is progress, client by client. The other needs no look
at a single step: a client the loop has got past is ready
(`Inv.settled`), being ready is nothing the daemon can bring about, and
who has not been served has been written nothing.

Of a client that is ready nothing more is heard, whatever anyone does
(`ready_moves`); what the loop has served is settled for good.
-/
import RustGuard.Proofs.Serial

namespace RustGuard

open Lib

-- ========================================== who is ready has said it all

section Ready

variable {nt : NetworkTypes} {sj : SerdeJson}
  {clock : Nat → Option Int64} {s t : Loop}

/-- The clients and the network. -/
theorem grows_apply {a : Action} (ha : a.isDaemon = false)
    (happ : s.apply nt sj clock a = some t) : Grows s t := by
  cases stepped_apply happ with
  | accept | acceptErr | readLen | readLenErr | readBody | readBodyErr
      | dispatch | writeLen | writeLenErr | writeBody | writeBodyErr
      | flush => cases ha
  | connect => exact .of_conns (Nat.le_succ _) rfl
  | frame => exact .of_conns (Nat.le_refl _) rfl
  | deliver hc hopen =>
      rename_i c bytes
      refine .of_update bytes (s.conns c).closed rfl fun hshut => ?_
      rw [hopen] at hshut
      cases hshut
  | disconnect hc =>
      refine .of_update [] true ?_ fun _ => ⟨rfl, rfl⟩
      rw [List.append_nil, List.append_nil]

/-- A ready client stays ready, and its frame what it is. -/
def Keeps (s t : Loop) (c : Nat) : Prop :=
  s.Ready c → t.Ready c ∧ body? (t.sent c) = body? (s.sent c)

theorem Grows.keeps (hg : Grows s t) (c : Nat) : Keeps s t c := by
  intro hready
  obtain ⟨more, closed, hconn, hclosed⟩ := hg.conns c
  have hsent : t.sent c = s.sent c ++ more := congrArg Conn.sent hconn
  rcases hready with hsome | hshut
  · obtain ⟨buf, hbuf⟩ := Option.isSome_iff_exists.mp hsome
    have hbuf' := body?_append more hbuf
    rw [← hsent] at hbuf'
    exact ⟨Or.inl (hbuf' ▸ rfl), hbuf'.trans hbuf.symm⟩
  · obtain ⟨rfl, hclosed'⟩ := hclosed hshut
    rw [List.append_nil] at hsent
    rw [hsent]
    refine ⟨Or.inr ?_, rfl⟩
    rw [hconn]
    exact hclosed'

theorem keeps_apply {a : Action} (happ : s.apply nt sj clock a = some t)
    (c : Nat) : Keeps s t c := by
  cases ha : a.isDaemon with
  | false => exact (grows_apply ha happ).keeps c
  | true =>
      have hv := serves_apply ha happ
      intro hready
      rw [Loop.Ready, hv.sent, hv.closed]
      exact ⟨hready, rfl⟩

theorem ready_moves {allowed : Action → Prop}
    (hm : Machine.Moves (Loop.apply nt sj clock) allowed s t) (c : Nat) :
    Keeps s t c := by
  intro hready
  refine Machine.Moves.inv (P := fun t => t.Ready c
    ∧ body? (t.sent c) = body? (s.sent c)) (fun r a t _ happ h => ?_) hm
    ⟨hready, rfl⟩
  obtain ⟨hready', hbody⟩ := keeps_apply happ c h.1
  exact ⟨hready', hbody.trans h.2⟩

/-- Who an action serves, if anyone: the client the loop is at, which
has hung up before its frame was complete, or is dispatched. -/
def ServedBy (s : Loop) (a : Action) (t : Loop) : Prop :=
  s.served ≤ t.served ∧ ∀ c, s.served ≤ c → c < t.served →
    c = s.stream ∧ t.sent = s.sent
    ∧ (body? (s.sent c) = none
      ∨ a = .dispatch ∧ ∃ buf, s.phase = .dispatch buf)

theorem ServedBy.nobody {a : Action} (h : t.served = s.served) :
    ServedBy s a t :=
  ⟨Nat.le_of_eq h.symm, fun _ hle hlt => absurd h (by omega)⟩

theorem ServedBy.stream {a : Action} (hs : s.served = s.stream)
    (ht : t.served = s.stream + 1) (hsent : t.sent = s.sent)
    (hwhy : body? (s.sent s.stream) = none
      ∨ a = .dispatch ∧ ∃ buf, s.phase = .dispatch buf) :
    ServedBy s a t := by
  refine ⟨by omega, fun c hle hlt => ?_⟩
  obtain rfl : c = s.stream := by omega
  exact ⟨rfl, hsent, hwhy⟩

theorem served_apply {a : Action} (h : Inv nt sj clock s)
    (happ : s.apply nt sj clock a = some t) : ServedBy s a t := by
  have hhere := h.here
  cases ha : a.isDaemon with
  | false => exact .nobody (grows_apply ha happ).served
  | true =>
      have hsent := (serves_apply ha happ).sent
      cases stepped_apply happ with
      | connect | deliver | disconnect | frame => cases ha
      | accept hphase | readLen hphase | readBody hphase =>
          refine .nobody (served_of_not_dispatched (s := s) ?_).symm
          rw [hphase]
          rfl
      | acceptErr => exact .nobody rfl
      | writeLen hphase | writeLenErr hphase | writeBody hphase
          | writeBodyErr hphase | flush hphase =>
          refine .nobody (served_of_dispatched (s := s) ?_).symm
          rw [hphase]
          rfl
      | dispatch hphase =>
          refine .stream (served_of_not_dispatched ?_) rfl hsent
            (Or.inr ⟨rfl, _, hphase⟩)
          rw [hphase]
          rfl
      | readLenErr hphase hclosed hshort =>
          rw [hphase] at hhere
          rw [hhere] at hshort
          refine .stream (served_of_not_dispatched ?_) rfl hsent
            (Or.inl (body?_short hshort))
          rw [hphase]
          rfl
      | readBodyErr hphase hclosed hshort =>
          rw [hphase] at hhere
          obtain ⟨a, b, c, d, hsent', rfl⟩ := hhere
          have hbody : body? (s.sent s.stream) = none := by
            show body? (s.conns s.stream).sent = none
            rw [hsent', body?_cons_short a b c d hshort]
          refine .stream (served_of_not_dispatched ?_) rfl hsent
            (Or.inl hbody)
          rw [hphase]
          rfl

end Ready

-- ====================================================== who is answered

/-- The client has its whole response. -/
def Answered (sj : SerdeJson) (s : Loop) (c : Nat) : Prop :=
  ∃ resp, (s.conns c).tx = putFrame (sj.responseToVec resp)

section Waiting

variable {nt : NetworkTypes} {sj : SerdeJson}
  {clock : Nat → Option Int64} {s t : Loop} {c : Nat}

/-- A response has at least a length. -/
theorem not_answered_of_silent (htx : (s.conns c).tx = []) :
    ¬ Answered sj s c := by
  intro hans
  obtain ⟨resp, hresp⟩ := hans
  rw [htx] at hresp
  cases hresp

/-- At the end of the reply to a complete frame. -/
theorem answered_at_flush (h : Inv nt sj clock s) (hphase : s.phase = .flush)
    (hbody : (body? (s.sent s.stream)).isSome) :
    Answered sj s s.stream := by
  obtain ⟨buf, hbuf⟩ := Option.isSome_iff_exists.mp hbody
  have hhere := h.here
  rw [hphase, reply, serve, hbuf] at hhere
  exact ⟨_, hhere⟩

/-- The client the loop is at, or will accept next. -/
theorem answers_stream (h : Inv nt sj clock s)
    (hlt : s.stream < s.connected)
    (hbody : (body? (s.sent s.stream)).isSome) :
    ∃ t, DaemonMoves nt sj clock s t ∧ Answered sj t s.stream := by
  obtain ⟨r, hr, hstream, hbusy⟩ := reaches_stream nt sj clock hlt
  obtain ⟨-, hsent, -⟩ := hr.clients
  rw [← hstream, ← hsent] at hbody
  obtain ⟨t, ht, hstream', hflush⟩ := reaches_flush (hr.inv h) hbusy hbody
  obtain ⟨-, hsent', -⟩ := ht.clients
  rw [← hstream', ← hsent'] at hbody
  rw [← hstream, ← hstream']
  exact ⟨t, hr.trans ht, answered_at_flush (ht.inv (hr.inv h)) hflush hbody⟩

/-- Past a client that is ready. -/
theorem passes_stream (h : Inv nt sj clock s)
    (hlt : s.stream < s.connected) (hready : s.Ready s.stream) :
    ∃ t, DaemonMoves nt sj clock s t ∧ t.stream = s.stream + 1 := by
  obtain ⟨r, hr, hstream, hbusy⟩ := reaches_stream nt sj clock hlt
  obtain ⟨-, hsent, hclosed⟩ := hr.clients
  have hready' : r.Ready r.stream := by
    rw [Loop.Ready, hsent, hclosed, hstream]
    exact hready
  obtain ⟨t, ht, hstream', -⟩ := reaches_accept (hr.inv h) hbusy hready'
  exact ⟨t, hr.trans ht, by omega⟩

/-- A client with only ready clients ahead is answered. -/
theorem answers (h : Inv nt sj clock s) (hc : s.stream ≤ c)
    (hconn : c < s.connected) (hbody : (body? (s.sent c)).isSome)
    (hahead : ∀ b, s.stream ≤ b → b < c → s.Ready b) :
    ∃ t, DaemonMoves nt sj clock s t ∧ Answered sj t c := by
  -- on the number of clients ahead
  induction hn : c - s.stream generalizing s with
  | zero =>
      obtain rfl : c = s.stream := by omega
      exact answers_stream h hconn hbody
  | succ n ih =>
      obtain ⟨r, hr, hstream⟩ := passes_stream h (by omega)
        (hahead s.stream (Nat.le_refl _) (by omega))
      obtain ⟨hconn', hsent, hclosed⟩ := hr.clients
      obtain ⟨t, ht, hans⟩ := ih (hr.inv h) (by omega) (by omega)
        (by rw [hsent]; exact hbody)
        (fun b hb hbc => by
          rw [Loop.Ready, hsent, hclosed]
          exact hahead b (by omega) hbc)
        (by omega)
      exact ⟨t, hr.trans ht, hans⟩

/-- A client behind one that is not ready is not answered, however many
steps the daemon takes. -/
theorem not_answered_behind (h : Inv nt sj clock s) {b : Nat} (hbc : b < c)
    (hb : ¬ s.Ready b) (hm : DaemonMoves nt sj clock s t) :
    ¬ Answered sj t c := by
  have ht := hm.inv h
  obtain ⟨-, hsent, hclosed⟩ := hm.clients
  have hunserved : t.served ≤ b := by
    by_contra hlt
    refine hb ?_
    rw [Loop.Ready, ← hsent, ← hclosed]
    exact ht.settled b (by omega)
  exact not_answered_of_silent (ht.silent c (by omega))

end Waiting

/-- In every reachable state, a client whose connection the loop has not
finished with, and which has delivered a complete frame, can be answered
by steps of the daemon alone if and only if every client ahead of it has
delivered a complete frame or hung up. -/
theorem answerable_iff (nt : NetworkTypes) (sj : SerdeJson)
    (clock : Nat → Option Int64) (s : Loop) (hs : Reachable nt sj clock s)
    (c : Nat) (hc : s.stream ≤ c) (hconn : c < s.connected)
    (hbody : (body? (s.sent c)).isSome) :
    (∃ t, DaemonMoves nt sj clock s t ∧ Answered sj t c)
      ↔ ∀ b, s.stream ≤ b → b < c →
          (body? (s.sent b)).isSome ∨ (s.conns b).closed = true := by
  refine ⟨?_, answers hs.inv hc hconn hbody⟩
  intro hcan b _ hbc
  obtain ⟨t, hm, hans⟩ := hcan
  by_contra hb
  exact not_answered_behind hs.inv hbc hb hm hans

/-- A silent client, and one behind it that has sent a whole request. -/
def silentThenList : List Action :=
  [.connect, .connect, .accept,
    .deliver 1 (putFrame (serdeJson.requestToVec .list))]

theorem answerable_iff_silent_closed :
    ∃ s, Machine.exec (Loop.apply networkTypes serdeJson fun _ => none) .init
        (silentThenList ++ [.disconnect 0]) = some s
      ∧ ∃ t, DaemonMoves networkTypes serdeJson (fun _ => none) s t
        ∧ Answered serdeJson t 1 := by
  have hrun : (Machine.exec
      (Loop.apply networkTypes serdeJson fun _ => none) .init
      (silentThenList ++ [.disconnect 0])).map
        (fun s => (s.stream, s.connected, (body? (s.sent 1)).isSome,
          (s.conns 0).closed))
      = some (0, 2, true, true) := by
    decide
  obtain ⟨s, hs, hfacts⟩ := Option.map_eq_some_iff.mp hrun
  obtain ⟨hstream, hconn, hbody, hclosed⟩ : s.stream = 0 ∧ s.connected = 2
      ∧ (body? (s.sent 1)).isSome = true ∧ (s.conns 0).closed = true := by
    simpa using hfacts
  refine ⟨s, hs, (answerable_iff networkTypes serdeJson (fun _ => none) s
    (.of_exec (fun _ _ => trivial) hs) 1 (by omega) (by omega) hbody).mpr ?_⟩
  intro b _ hb
  obtain rfl : b = 0 := by omega
  exact Or.inr hclosed

/-- While it stays silent, nothing the daemon does gets the other one an
answer. -/
theorem silent_client_blocks :
    ∃ s, Reachable networkTypes serdeJson (fun _ => none) s
      ∧ 1 < s.connected ∧ (body? (s.sent 1)).isSome
      ∧ ¬ Answered serdeJson s 1
      ∧ ∀ t, DaemonMoves networkTypes serdeJson (fun _ => none) s t →
          ¬ Answered serdeJson t 1 := by
  have hrun : (Machine.exec
      (Loop.apply networkTypes serdeJson fun _ => none) .init
      silentThenList).map
        (fun s => (s.connected, (body? (s.sent 1)).isSome,
          (body? (s.sent 0)).isSome, (s.conns 0).closed))
      = some (2, true, false, false) := by
    decide
  obtain ⟨s, hs, hfacts⟩ := Option.map_eq_some_iff.mp hrun
  obtain ⟨hconn, hbody, hno, hopen⟩ : s.connected = 2
      ∧ (body? (s.sent 1)).isSome = true ∧ (body? (s.sent 0)).isSome = false
      ∧ (s.conns 0).closed = false := by
    simpa using hfacts
  have hreach : Reachable networkTypes serdeJson (fun _ => none) s :=
    .of_exec (fun _ _ => trivial) hs
  have hblocked : ¬ s.Ready 0 := by
    rw [Loop.Ready, hno, hopen]
    simp
  have hnever : ∀ t, DaemonMoves networkTypes serdeJson (fun _ => none) s t →
      ¬ Answered serdeJson t 1 :=
    fun t hm => not_answered_behind hreach.inv Nat.one_pos hblocked hm
  exact ⟨s, hreach, by omega, hbody, hnever s (.refl s), hnever⟩

end RustGuard
