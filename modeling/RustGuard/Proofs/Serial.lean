/-
Connections are served one after the other, each as a whole, and the loop
comes round.

The invariant says what is so in every state. What is left is that the
loop gets anywhere: `daemon_step` finds it an enabled step as long as the
client it is at has sent a whole frame or hung up, and every step counts
`Phase.rank` down, so it reaches the end of the reply to a whole frame
(`reaches_flush`) and the next `accept` in any case (`reaches_accept`).
-/
import RustGuard.Proofs.Interleaving

namespace RustGuard

open Lib

section Progress

variable {nt : NetworkTypes} {sj : SerdeJson}
  {clock : Nat → Option Int64} {s t : Loop}

-- ================================================= the daemon by itself

theorem DaemonMoves.head {a : Action} {r : Loop} (ha : a.isDaemon = true)
    (happ : s.apply nt sj clock a = some t)
    (h : DaemonMoves nt sj clock t r) : DaemonMoves nt sj clock s r :=
  Machine.Moves.head a ha happ h

theorem DaemonMoves.trans {r : Loop} (h : DaemonMoves nt sj clock s t)
    (h' : DaemonMoves nt sj clock t r) : DaemonMoves nt sj clock s r :=
  Machine.Moves.trans h h'

/-- The invariant, along steps of the daemon. -/
theorem DaemonMoves.inv (hm : DaemonMoves nt sj clock s t)
    (h : Inv nt sj clock s) : Inv nt sj clock t :=
  Machine.Moves.inv (fun s a t _ happ h => inv_apply s a t happ h) hm h

/-- Steps of the daemon change nothing on the clients' side. -/
theorem DaemonMoves.clients (hm : DaemonMoves nt sj clock s t) :
    t.connected = s.connected ∧ t.sent = s.sent
      ∧ ∀ c, (t.conns c).closed = (s.conns c).closed := by
  refine Machine.Moves.inv (P := fun t => t.connected = s.connected
    ∧ t.sent = s.sent ∧ ∀ c, (t.conns c).closed = (s.conns c).closed)
    (fun r a t ha happ h => ?_) hm ⟨rfl, rfl, fun _ => rfl⟩
  have hv := serves_apply ha happ
  obtain ⟨hconn, hsent, hclosed⟩ := h
  exact ⟨hv.connected.trans hconn, hv.sent.trans hsent,
    fun c => (hv.closed c).trans (hclosed c)⟩

/-- How far the loop is from its end. -/
def Phase.rank : Phase → Nat
  | .accept => 0
  | .flush => 1
  | .writeBody _ => 2
  | .writeLen _ => 3
  | .dispatch _ => 4
  | .readBody _ => 5
  | .readLen => 6

/-- A connection the loop does not have to wait for: its frame is there,
or it has hung up. -/
def Loop.Ready (s : Loop) (c : Nat) : Prop :=
  (body? (s.sent c)).isSome ∨ (s.conns c).closed = true

/-- While the client it is at is ready the loop has a step, and the step
leads on: past the dispatch if the frame is complete, to the next
`accept` at the latest. -/
theorem daemon_step (h : Inv nt sj clock s) (hbusy : s.phase ≠ .accept)
    (hready : s.Ready s.stream) :
    ∃ a, a.isDaemon = true ∧ ∃ t, s.apply nt sj clock a = some t
      ∧ t.phase.rank < s.phase.rank
      ∧ (t.stream = s.stream ∧ t.phase ≠ .accept
        ∨ t.stream = s.stream + 1 ∧ t.phase = .accept
          ∧ (s.phase = .flush ∨ body? (s.sent s.stream) = none)) := by
  have hhere := h.here
  -- a client without a whole frame has hung up
  have hclosed : body? (s.sent s.stream) = none →
      (s.conns s.stream).closed = true := by
    intro hnone
    rcases hready with hsome | hclosed
    · rw [hnone] at hsome
      cases hsome
    · exact hclosed
  cases hphase : s.phase with
  | accept => exact absurd hphase hbusy
  | readLen =>
      rw [hphase] at hhere
      rcases Nat.lt_or_ge (s.conns s.stream).rx.length 4
        with hshort | hwhole
      · have hnone : body? (s.sent s.stream) = none := by
          rw [hhere] at hshort
          exact body?_short hshort
        refine ⟨.readLenErr, rfl, s.next,
          if_pos ⟨hphase, hclosed hnone, hshort⟩, ?_,
          Or.inr ⟨rfl, rfl, Or.inr hnone⟩⟩
        exact Nat.succ_pos 5
      · obtain ⟨a, b, c, d, rest, hrx⟩ : ∃ a b c d rest,
            (s.conns s.stream).rx = a :: b :: c :: d :: rest := by
          match hrx : (s.conns s.stream).rx with
          | [] | [_] | [_, _] | [_, _, _] => simp [hrx] at hwhole
          | a :: b :: c :: d :: rest => exact ⟨a, b, c, d, rest, rfl⟩
        refine ⟨.readLen, rfl, ?_⟩
        simp [Loop.apply, Loop.update, Phase.rank, hphase, hrx]
  | readBody len =>
      rw [hphase] at hhere
      obtain ⟨a, b, c, d, hsent, hlen⟩ := hhere
      rcases Nat.lt_or_ge (s.conns s.stream).rx.length len.toNat
        with hshort | hwhole
      · have hnone : body? (s.sent s.stream) = none := by
          rw [hlen] at hshort
          show body? (s.conns s.stream).sent = none
          rw [hsent, body?_cons_short a b c d hshort]
        refine ⟨.readBodyErr, rfl, s.next, ?_, Nat.succ_pos 4,
          Or.inr ⟨rfl, rfl, Or.inr hnone⟩⟩
        simp only [Loop.apply, hphase]
        exact if_pos ⟨hclosed hnone, hshort⟩
      · refine ⟨.readBody, rfl, ?_⟩
        simp [Loop.apply, Loop.update, Phase.rank, hphase, hwhole]
  | dispatch buf =>
      refine ⟨.dispatch, rfl, ?_⟩
      simp [Loop.apply, Phase.rank, hphase]
  | writeLen respBytes =>
      refine ⟨.writeLen, rfl, ?_⟩
      simp [Loop.apply, Loop.update, Phase.rank, hphase]
  | writeBody respBytes =>
      refine ⟨.writeBody, rfl, ?_⟩
      simp [Loop.apply, Loop.update, Phase.rank, hphase]
  | flush =>
      exact ⟨.flush, rfl, s.next, if_pos hphase, Nat.succ_pos 0,
        Or.inr ⟨rfl, rfl, Or.inl rfl⟩⟩

/-- To the end of the reply, when the frame is complete. -/
theorem reaches_flush (h : Inv nt sj clock s) (hbusy : s.phase ≠ .accept)
    (hbody : (body? (s.sent s.stream)).isSome) :
    ∃ t, DaemonMoves nt sj clock s t ∧ t.stream = s.stream
      ∧ t.phase = .flush := by
  -- on the rank of the phase: every step lowers it
  induction hrank : s.phase.rank using Nat.strong_induction_on
    generalizing s with
  | _ n ih =>
      by_cases hflush : s.phase = .flush
      · exact ⟨s, .refl s, rfl, hflush⟩
      obtain ⟨a, ha, t, happ, hlt, hkeep | ⟨-, -, hlast | hnone⟩⟩ :=
        daemon_step h hbusy (Or.inl hbody)
      · obtain ⟨hstream, hbusy'⟩ := hkeep
        have hsent : t.sent = s.sent := (serves_apply ha happ).sent
        obtain ⟨r, hmoves, hr, hphase⟩ := ih _ (by omega)
          (inv_apply s a t happ h) hbusy' (by rw [hsent, hstream]; exact hbody)
          rfl
        exact ⟨r, .head ha happ hmoves, hr.trans hstream, hphase⟩
      · exact absurd hlast hflush
      · rw [hnone] at hbody
        cases hbody

/-- To the next `accept`, when the client is ready. -/
theorem reaches_accept (h : Inv nt sj clock s) (hbusy : s.phase ≠ .accept)
    (hready : s.Ready s.stream) :
    ∃ t, DaemonMoves nt sj clock s t ∧ t.stream = s.stream + 1
      ∧ t.phase = .accept := by
  induction hrank : s.phase.rank using Nat.strong_induction_on
    generalizing s with
  | _ n ih =>
      obtain ⟨a, ha, t, happ, hlt, hkeep | ⟨hstream, hphase, -⟩⟩ :=
        daemon_step h hbusy hready
      · obtain ⟨hstream, hbusy'⟩ := hkeep
        have hv := serves_apply ha happ
        have hready' : t.Ready t.stream := by
          rw [Loop.Ready, hv.sent, hv.closed, hstream]
          exact hready
        obtain ⟨r, hmoves, hr, hphase⟩ := ih _ (by omega)
          (inv_apply s a t happ h) hbusy' hready' rfl
        exact ⟨r, .head ha happ hmoves, by omega, hphase⟩
      · exact ⟨t, .head ha happ (.refl t), hstream, hphase⟩

variable (nt sj clock) in
/-- Into the loop body, when there is a client. -/
theorem reaches_stream (hlt : s.stream < s.connected) :
    ∃ t, DaemonMoves nt sj clock s t ∧ t.stream = s.stream
      ∧ t.phase ≠ .accept := by
  by_cases hphase : s.phase = .accept
  · exact ⟨{ s with phase := .readLen },
      .head (a := .accept) rfl (if_pos ⟨hphase, hlt⟩) (.refl _), rfl, nofun⟩
  · exact ⟨s, .refl s, rfl, hphase⟩

end Progress

-- ====================================================== the whole story

/-- Bytes behind complete frames change neither the table nor a reply. -/
theorem ideal_append {sj : SerdeJson} {clock : Nat → Option Int64}
    {sent more : Nat → List UInt8}
    (hmore : ∀ c, (body? (sent c)).isSome ∨ more c = []) (n : Nat) :
    tableAfter sj clock (fun c => sent c ++ more c) n
        = tableAfter sj clock sent n
      ∧ reply sj clock (fun c => sent c ++ more c) n
        = reply sj clock sent n := by
  have hbody : ∀ c, body? (sent c ++ more c) = body? (sent c) := by
    intro c
    rcases hmore c with hsome | hnil
    · obtain ⟨buf, hbuf⟩ := Option.isSome_iff_exists.mp hsome
      rw [hbuf]
      exact body?_append (more c) hbuf
    · rw [hnil, List.append_nil]
  exact ⟨tableAfter_congr fun c _ => hbody c, reply_congr fun c _ => hbody c⟩

/-- A connection without a valid request leaves the table as it was. -/
theorem tableAfter_skip {sj : SerdeJson} {clock : Nat → Option Int64}
    {sent : Nat → List UInt8} {c : Nat}
    (h : validRequest sj (sent c) = none) :
    tableAfter sj clock sent (c + 1) = tableAfter sj clock sent c := by
  rw [tableAfter_succ, h]

/-- A write that fails takes nothing back and does nothing again. -/
theorem write_fails {nt : NetworkTypes} {sj : SerdeJson}
    {clock : Nat → Option Int64} {s t : Loop} {n : Nat}
    (h : s.apply nt sj clock (.writeLenErr n) = some t
      ∨ s.apply nt sj clock (.writeBodyErr n) = some t) :
    t.guard = s.guard ∧ t.served = s.served := by
  rcases h with happ | happ
  · cases stepped_apply happ with
    | writeLenErr hphase =>
        have hserved : s.served = s.stream + 1 :=
          served_of_dispatched (by rw [hphase]; rfl)
        exact ⟨rfl, hserved.symm⟩
  · cases stepped_apply happ with
    | writeBodyErr hphase =>
        have hserved : s.served = s.stream + 1 :=
          served_of_dispatched (by rw [hphase]; rfl)
        exact ⟨rfl, hserved.symm⟩

/-- In every state of every interleaving: the table is that of the
requests of the served connections, applied once each in accept order;
what is no valid request, what is behind the first frame, and a write
that fails, have no effect on it; what has been written to a connection
is a part of the reply to its own request from the table of those before
it, and nothing before that request was served; and the loop gets from a
client that has sent a frame or hung up to the next `accept`. -/
theorem accept_loop_serial (nt : NetworkTypes) (sj : SerdeJson)
    (clock : Nat → Option Int64) (s : Loop)
    (hs : Reachable nt sj clock s) :
    s.guard.bannedIps = tableAfter sj clock s.sent s.served
    ∧ (∀ c, validRequest sj (s.sent c) = none →
      tableAfter sj clock s.sent (c + 1) = tableAfter sj clock s.sent c)
    ∧ (∀ more : Nat → List UInt8,
      (∀ c, (body? (s.sent c)).isSome ∨ more c = []) →
      ∀ n, tableAfter sj clock (fun c => s.sent c ++ more c) n
          = tableAfter sj clock s.sent n
        ∧ reply sj clock (fun c => s.sent c ++ more c) n
          = reply sj clock s.sent n)
    ∧ (∀ n t, s.apply nt sj clock (.writeLenErr n) = some t
        ∨ s.apply nt sj clock (.writeBodyErr n) = some t →
      t.guard = s.guard ∧ t.served = s.served)
    ∧ (∀ c, (s.conns c).tx <+: reply sj clock s.sent c
      ∧ (s.served ≤ c → (s.conns c).tx = []))
    ∧ (s.phase ≠ .accept → s.Ready s.stream →
      ∃ t, DaemonMoves nt sj clock s t ∧ t.phase = .accept
        ∧ t.stream = s.stream + 1
        ∧ t.guard.bannedIps
          = tableAfter sj clock s.sent (s.stream + 1)) := by
  have h := hs.inv
  refine ⟨h.table, fun c hc => tableAfter_skip hc,
    fun more hmore => ideal_append hmore, fun n t ht => write_fails ht,
    fun c => ⟨h.written c, h.silent c⟩, fun hbusy hready => ?_⟩
  obtain ⟨t, hmoves, hstream, hphase⟩ := reaches_accept h hbusy hready
  obtain ⟨-, hsent, -⟩ := hmoves.clients
  have htable := (hmoves.inv h).table
  rw [hsent, served_of_not_dispatched (by rw [hphase]; rfl), hstream]
    at htable
  exact ⟨t, hmoves, hphase, hstream, htable⟩

/-- One client gone inside its length, one served whose reply fails: the
second one's ban is the table. -/
theorem accept_loop_serial_two :
    ∃ s, Reachable networkTypes serdeJson (fun _ => none) s
      ∧ s.served = 2
      ∧ s.guard.bannedIps = tableAfter serdeJson (fun _ => none) s.sent 2
      ∧ (tableAfter serdeJson (fun _ => none) s.sent 1).keys = []
      ∧ s.guard.bannedIps.keys = [0x0a000001] := by
  have hrun : (Machine.exec
      (Loop.apply networkTypes serdeJson fun _ => none) .init
      [.connect, .connect, .deliver 0 [0, 0], .accept, .disconnect 0,
        .deliver 1 (putFrame (serdeJson.requestToVec
          (.ban "10.0.0.1" none)) ++ [7]),
        .readLenErr, .accept, .readLen, .readBody, .dispatch,
        .writeLenErr 2]).map (fun s => (s.served,
          validRequest serdeJson (s.sent 0), s.guard.bannedIps.keys))
      = some (2, none, [0x0a000001]) := by
    decide
  obtain ⟨s, hs, hfacts⟩ := Option.map_eq_some_iff.mp hrun
  obtain ⟨hserved, hfirst, hkeys⟩ : s.served = 2
      ∧ validRequest serdeJson (s.sent 0) = none
      ∧ s.guard.bannedIps.keys = [0x0a000001] := by
    simpa only [Prod.mk.injEq] using hfacts
  have hreach : Reachable networkTypes serdeJson (fun _ => none) s :=
    .of_exec (fun _ _ => trivial) hs
  obtain ⟨htable, hskip, -⟩ := accept_loop_serial networkTypes serdeJson
    (fun _ => none) s hreach
  rw [hserved] at htable
  refine ⟨s, hreach, hserved, htable, ?_, hkeys⟩
  rw [hskip 0 hfirst]
  rfl

end RustGuard
