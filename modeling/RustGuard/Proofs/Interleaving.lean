/-
The accept loop is the ideal daemon, in every interleaving with its
clients.

# The argument

`Inv` says where every byte of every connection is while the loop is at a
given place: not yet accepted, being read, answered in part, done with.
The point of it is `settled`: a connection the loop has got past either
holds a complete frame, which later bytes do not change, or has hung up,
and sends none. So what a served connection asked for is fixed, and the
table and the replies with it.

`Stepped` says once what an enabled action does. The actions are of two
kinds, and `Inv` is shown to survive each kind once: what clients and
frames do (`Grows`) adds bytes the daemon has not looked at; what the
daemon does (`Serves`) touches only the stream it is at. `inv_apply`
sorts the sixteen actions into the two.
-/
import RustGuard.Ideal
import RustGuard.Proofs.Stats

namespace RustGuard

open Lib

/-- All that every client has sent. -/
def Loop.sent (s : Loop) : Nat → List UInt8 := fun c => (s.conns c).sent

/-- The request of the stream has been dispatched. -/
def Phase.dispatched : Phase → Bool
  | .writeLen _ | .writeBody _ | .flush => true
  | _ => false

/-- How many connections have been served: dispatched, or given up. -/
def Loop.served (s : Loop) : Nat :=
  if s.phase.dispatched then s.stream + 1 else s.stream

-- ==================================================== the sixteen steps

/-- One constructor per action: when it is enabled, and the state it
leaves. -/
inductive Stepped (nt : NetworkTypes) (sj : SerdeJson)
    (clock : Nat → Option Int64) (s : Loop) : Action → Loop → Prop
  | connect :
      Stepped nt sj clock s .connect { s with connected := s.connected + 1 }
  | deliver {c : Nat} {bytes : List UInt8} (hc : c < s.connected)
      (hopen : (s.conns c).closed = false) :
      Stepped nt sj clock s (.deliver c bytes)
        (s.update c fun conn => { conn with
          sent := conn.sent ++ bytes
          rx := conn.rx ++ bytes })
  | disconnect {c : Nat} (hc : c < s.connected) :
      Stepped nt sj clock s (.disconnect c)
        (s.update c fun conn => { conn with closed := true })
  | frame {ctx : XdpContext} {ktime : Nat} :
      Stepped nt sj clock s (.frame ctx ktime)
        { s with guard := (s.guard.step nt (.frame ctx ktime)).1 }
  | accept (hphase : s.phase = .accept) (hlt : s.stream < s.connected) :
      Stepped nt sj clock s .accept { s with phase := .readLen }
  | acceptErr (hphase : s.phase = .accept) :
      Stepped nt sj clock s .acceptErr s
  | readLen {a b c d : UInt8} {rest : List UInt8}
      (hphase : s.phase = .readLen)
      (hrx : (s.conns s.stream).rx = a :: b :: c :: d :: rest) :
      Stepped nt sj clock s .readLen
        { s.update s.stream fun conn => { conn with rx := rest } with
          phase := .readBody (u32FromBeBytes a b c d) }
  | readLenErr (hphase : s.phase = .readLen)
      (hclosed : (s.conns s.stream).closed = true)
      (hshort : (s.conns s.stream).rx.length < 4) :
      Stepped nt sj clock s .readLenErr s.next
  | readBody {len : UInt32} (hphase : s.phase = .readBody len)
      (hlen : len.toNat ≤ (s.conns s.stream).rx.length) :
      Stepped nt sj clock s .readBody
        { s.update s.stream fun conn => { conn with
            rx := conn.rx.drop len.toNat } with
          phase := .dispatch ((s.conns s.stream).rx.take len.toNat) }
  | readBodyErr {len : UInt32} (hphase : s.phase = .readBody len)
      (hclosed : (s.conns s.stream).closed = true)
      (hshort : (s.conns s.stream).rx.length < len.toNat) :
      Stepped nt sj clock s .readBodyErr s.next
  | dispatch {buf : List UInt8} (hphase : s.phase = .dispatch buf) :
      Stepped nt sj clock s .dispatch { s with
        guard := (handle sj s.guard (clock s.stream) buf).1
        phase := .writeLen (sj.responseToVec
          (handle sj s.guard (clock s.stream) buf).2) }
  | writeLen {respBytes : List UInt8}
      (hphase : s.phase = .writeLen respBytes) :
      Stepped nt sj clock s .writeLen
        { s.update s.stream fun conn => { conn with
            tx := conn.tx
              ++ u32ToBeBytes (UInt32.ofNat respBytes.length) } with
          phase := .writeBody respBytes }
  | writeLenErr {respBytes : List UInt8} {n : Nat}
      (hphase : s.phase = .writeLen respBytes) :
      Stepped nt sj clock s (.writeLenErr n)
        (s.update s.stream fun conn => { conn with
          tx := conn.tx ++ (u32ToBeBytes
            (UInt32.ofNat respBytes.length)).take n }).next
  | writeBody {respBytes : List UInt8}
      (hphase : s.phase = .writeBody respBytes) :
      Stepped nt sj clock s .writeBody
        { s.update s.stream fun conn => { conn with
            tx := conn.tx ++ respBytes } with
          phase := .flush }
  | writeBodyErr {respBytes : List UInt8} {n : Nat}
      (hphase : s.phase = .writeBody respBytes) :
      Stepped nt sj clock s (.writeBodyErr n)
        (s.update s.stream fun conn => { conn with
          tx := conn.tx ++ respBytes.take n }).next
  | flush (hphase : s.phase = .flush) :
      Stepped nt sj clock s .flush s.next

/-- An action that is enabled is one of them. -/
theorem stepped_apply {nt : NetworkTypes} {sj : SerdeJson}
    {clock : Nat → Option Int64} {s t : Loop} {a : Action}
    (happ : s.apply nt sj clock a = some t) : Stepped nt sj clock s a t := by
  cases a with
  | connect =>
      cases happ
      exact .connect
  | frame ctx ktime =>
      cases happ
      exact .frame
  | deliver c bytes =>
      obtain ⟨hguard, ⟨⟩⟩ := Option.ite_none_right_eq_some.mp happ
      exact .deliver hguard.1 hguard.2
  | disconnect c =>
      obtain ⟨hguard, ⟨⟩⟩ := Option.ite_none_right_eq_some.mp happ
      exact .disconnect hguard
  | accept =>
      obtain ⟨hguard, ⟨⟩⟩ := Option.ite_none_right_eq_some.mp happ
      exact .accept hguard.1 hguard.2
  | acceptErr =>
      obtain ⟨hguard, ⟨⟩⟩ := Option.ite_none_right_eq_some.mp happ
      exact .acceptErr hguard
  | readLenErr =>
      obtain ⟨hguard, ⟨⟩⟩ := Option.ite_none_right_eq_some.mp happ
      exact .readLenErr hguard.1 hguard.2.1 hguard.2.2
  | flush =>
      obtain ⟨hguard, ⟨⟩⟩ := Option.ite_none_right_eq_some.mp happ
      exact .flush hguard
  | readLen =>
      simp only [Loop.apply] at happ
      split at happ
      case h_2 => cases happ
      case h_1 hphase hrx =>
        cases happ
        exact .readLen hphase hrx
  | readBody =>
      simp only [Loop.apply] at happ
      split at happ
      case h_2 => cases happ
      case h_1 len hphase =>
        obtain ⟨hguard, ⟨⟩⟩ := Option.ite_none_right_eq_some.mp happ
        exact .readBody hphase hguard
  | readBodyErr =>
      simp only [Loop.apply] at happ
      split at happ
      case h_2 => cases happ
      case h_1 len hphase =>
        obtain ⟨hguard, ⟨⟩⟩ := Option.ite_none_right_eq_some.mp happ
        exact .readBodyErr hphase hguard.1 hguard.2
  | dispatch =>
      simp only [Loop.apply] at happ
      split at happ
      case h_2 => cases happ
      case h_1 buf hphase =>
        cases happ
        exact .dispatch hphase
  | writeLen =>
      simp only [Loop.apply] at happ
      split at happ
      case h_2 => cases happ
      case h_1 respBytes hphase =>
        cases happ
        exact .writeLen hphase
  | writeLenErr n =>
      simp only [Loop.apply] at happ
      split at happ
      case h_2 => cases happ
      case h_1 respBytes hphase =>
        cases happ
        exact .writeLenErr hphase
  | writeBody =>
      simp only [Loop.apply] at happ
      split at happ
      case h_2 => cases happ
      case h_1 respBytes hphase =>
        cases happ
        exact .writeBody hphase
  | writeBodyErr n =>
      simp only [Loop.apply] at happ
      split at happ
      case h_2 => cases happ
      case h_1 respBytes hphase =>
        cases happ
        exact .writeBodyErr hphase

-- ======================================================= the invariant

/-- Where the bytes of the connection the loop is at are, in each place
of the loop body. -/
def Here (conn : Conn) (owed : List UInt8) : Phase → Prop
  | .accept => conn.rx = conn.sent
  | .readLen => conn.rx = conn.sent
  | .readBody len => ∃ a b c d, conn.sent = a :: b :: c :: d :: conn.rx
      ∧ len = u32FromBeBytes a b c d
  | .dispatch buf => body? conn.sent = some buf
  | .writeLen respBytes => conn.tx = [] ∧ owed = putFrame respBytes
  | .writeBody respBytes =>
      conn.tx = u32ToBeBytes (UInt32.ofNat respBytes.length)
        ∧ owed = putFrame respBytes
  | .flush => conn.tx = owed

/-- What holds of the loop and its connections in every state. -/
structure Inv (nt : NetworkTypes) (sj : SerdeJson)
    (clock : Nat → Option Int64) (s : Loop) : Prop where
  stream_le : s.stream ≤ s.connected
  stream_lt : s.phase ≠ .accept → s.stream < s.connected
  /-- A served connection says nothing new. -/
  settled : ∀ c < s.served,
    (body? (s.sent c)).isSome ∨ (s.conns c).closed = true
  unread : ∀ c, s.stream < c → (s.conns c).rx = (s.conns c).sent
  silent : ∀ c, s.served ≤ c → (s.conns c).tx = []
  written : ∀ c, (s.conns c).tx <+: reply sj clock s.sent c
  here : Here (s.conns s.stream) (reply sj clock s.sent s.stream) s.phase
  table : s.guard.bannedIps = tableAfter sj clock s.sent s.served
  /-- The maps are those of a run of requests and frames. -/
  history : ∃ history, s.guard = Guard.run nt history

theorem update_conns_self (s : Loop) (c : Nat) (f : Conn → Conn) :
    (s.update c f).conns c = f (s.conns c) :=
  Function.update_self ..

theorem update_conns_of_ne {s : Loop} {c c' : Nat} {f : Conn → Conn}
    (h : c' ≠ c) : (s.update c f).conns c' = s.conns c' :=
  Function.update_of_ne h ..

section Step

variable {nt : NetworkTypes} {sj : SerdeJson}
  {clock : Nat → Option Int64} {s : Loop}

/-- The start. -/
theorem inv_init : Inv nt sj clock .init where
  stream_le := Nat.le_refl 0
  stream_lt h := absurd rfl h
  settled c hc := absurd hc (Nat.not_lt_zero c)
  unread _ _ := rfl
  silent _ _ := rfl
  written _ := List.nil_prefix
  here := rfl
  table := rfl
  history := ⟨[], rfl⟩

-- ------------------------------------------------- clients and frames

/-- What the clients and the network can do to the loop between two steps
of the daemon: bytes arrive on connections that are not closed, others
are closed, new ones queue up. -/
structure Grows (s t : Loop) : Prop where
  connected : s.connected ≤ t.connected
  stream : t.stream = s.stream
  phase : t.phase = s.phase
  bannedIps : t.guard.bannedIps = s.guard.bannedIps
  conns : ∀ c, ∃ more closed,
    t.conns c = { s.conns c with
      sent := (s.conns c).sent ++ more
      rx := (s.conns c).rx ++ more
      closed := closed }
    ∧ ((s.conns c).closed = true → more = [] ∧ closed = true)

namespace Grows

variable {t : Loop}

theorem served (hg : Grows s t) : t.served = s.served := by
  rw [Loop.served, Loop.served, hg.phase, hg.stream]

theorem tx (hg : Grows s t) (c : Nat) : (t.conns c).tx = (s.conns c).tx := by
  obtain ⟨more, closed, hc, -⟩ := hg.conns c
  rw [hc]

/-- What a served connection asked for is not touched. -/
theorem body?_eq (hg : Grows s t) (h : Inv nt sj clock s) {c : Nat}
    (hc : c < s.served) : body? (t.sent c) = body? (s.sent c) := by
  obtain ⟨more, closed, hconn, hclosed⟩ := hg.conns c
  show body? (t.conns c).sent = body? (s.conns c).sent
  rw [hconn]
  rcases h.settled c hc with hsome | hshut
  · obtain ⟨buf, hbuf⟩ := Option.isSome_iff_exists.mp hsome
    have hbuf' : body? (s.conns c).sent = some buf := hbuf
    rw [hbuf']
    exact body?_append more hbuf'
  · obtain ⟨rfl, -⟩ := hclosed hshut
    rw [List.append_nil]

theorem reply_eq (hg : Grows s t) (h : Inv nt sj clock s) {c : Nat}
    (hc : c < s.served) :
    reply sj clock t.sent c = reply sj clock s.sent c :=
  reply_congr fun _ hb => hg.body?_eq h (Nat.lt_of_le_of_lt hb hc)

/-- The connection the loop is at: more to read, nothing else. -/
theorem here (hg : Grows s t) (h : Inv nt sj clock s) :
    Here (t.conns t.stream) (reply sj clock t.sent t.stream) t.phase := by
  have hhere := h.here
  have hreply : s.stream < s.served →
      reply sj clock t.sent s.stream = reply sj clock s.sent s.stream :=
    hg.reply_eq h
  obtain ⟨more, closed, hconn, -⟩ := hg.conns s.stream
  rw [hg.stream, hg.phase, hconn]
  unfold Loop.served at hreply
  cases hphase : s.phase with
  | accept | readLen =>
      rw [hphase] at hhere
      exact congrArg (· ++ more) hhere
  | readBody len =>
      rw [hphase] at hhere
      obtain ⟨a, b, c, d, hsent, hlen⟩ := hhere
      exact ⟨a, b, c, d, congrArg (· ++ more) hsent, hlen⟩
  | dispatch buf =>
      rw [hphase] at hhere
      exact body?_append more hhere
  | writeLen respBytes | writeBody respBytes | flush =>
      rw [hphase] at hhere hreply
      rw [hreply (by simp [Phase.dispatched])]
      exact hhere

/-- The invariant survives what the clients and the network do. -/
theorem inv (hg : Grows s t) (h : Inv nt sj clock s)
    (hhist : ∃ history, t.guard = Guard.run nt history) :
    Inv nt sj clock t where
  stream_le := by
    rw [hg.stream]
    exact h.stream_le.trans hg.connected
  stream_lt hp := by
    rw [hg.phase] at hp
    rw [hg.stream]
    exact (h.stream_lt hp).trans_le hg.connected
  settled c hc := by
    rw [hg.served] at hc
    rw [hg.body?_eq h hc]
    obtain ⟨more, closed, hconn, hclosed⟩ := hg.conns c
    refine (h.settled c hc).imp_right fun hshut => ?_
    rw [hconn]
    exact (hclosed hshut).2
  unread c hc := by
    rw [hg.stream] at hc
    obtain ⟨more, closed, hconn, -⟩ := hg.conns c
    rw [hconn]
    exact congrArg (· ++ more) (h.unread c hc)
  silent c hc := by
    rw [hg.served] at hc
    rw [hg.tx]
    exact h.silent c hc
  written c := by
    rw [hg.tx]
    rcases Nat.lt_or_ge c s.served with hc | hc
    · rw [hg.reply_eq h hc]
      exact h.written c
    · rw [h.silent c hc]
      exact List.nil_prefix
  here := hg.here h
  table := by
    rw [hg.bannedIps, hg.served, h.table]
    exact (tableAfter_congr fun c hc => hg.body?_eq h hc).symm
  history := hhist

/-- A change to one connection by its client. -/
theorem of_update {c : Nat} {f : Conn → Conn} (more : List UInt8)
    (closed : Bool)
    (hf : f (s.conns c) = { s.conns c with
      sent := (s.conns c).sent ++ more
      rx := (s.conns c).rx ++ more
      closed := closed })
    (hclosed : (s.conns c).closed = true → more = [] ∧ closed = true) :
    Grows s (s.update c f) where
  connected := Nat.le_refl _
  stream := rfl
  phase := rfl
  bannedIps := rfl
  conns b := by
    by_cases hb : b = c
    · subst hb
      exact ⟨more, closed, by rw [update_conns_self, hf], hclosed⟩
    · refine ⟨[], (s.conns b).closed, ?_, fun hshut => ⟨rfl, hshut⟩⟩
      rw [update_conns_of_ne hb, List.append_nil, List.append_nil]

/-- No connection touched. -/
theorem of_conns {connected : Nat} {guard : Guard}
    (hconn : s.connected ≤ connected)
    (htable : guard.bannedIps = s.guard.bannedIps) :
    Grows s { s with connected, guard } where
  connected := hconn
  stream := rfl
  phase := rfl
  bannedIps := htable
  conns c := by
    refine ⟨[], (s.conns c).closed, ?_, fun hshut => ⟨rfl, hshut⟩⟩
    rw [List.append_nil, List.append_nil]

end Grows

-- ---------------------------------------------------------- the daemon

theorem served_of_dispatched (hs : s.phase.dispatched = true) :
    s.served = s.stream + 1 := if_pos hs

theorem served_of_not_dispatched (hs : s.phase.dispatched = false) :
    s.served = s.stream := if_neg (by simp [hs])

/-- What a step of the daemon can do: read from and write to the stream
it is at, and go on to the next. -/
structure Serves (s t : Loop) : Prop where
  connected : t.connected = s.connected
  sent : t.sent = s.sent
  closed : ∀ c, (t.conns c).closed = (s.conns c).closed
  others : ∀ c, c ≠ s.stream → t.conns c = s.conns c

/-- A change to the stream that is not the client's. -/
theorem Serves.of_update {t : Loop} {conn : Conn}
    (hconns : t.conns = Function.update s.conns s.stream conn)
    (hconn : t.connected = s.connected)
    (hsent : conn.sent = (s.conns s.stream).sent)
    (hclosed : conn.closed = (s.conns s.stream).closed) :
    Serves s t := by
  have hothers : ∀ c, c ≠ s.stream → t.conns c = s.conns c := by
    intro c hc
    rw [hconns, Function.update_of_ne hc]
  refine ⟨hconn, funext fun c => ?_, fun c => ?_, hothers⟩
  · show (t.conns c).sent = (s.conns c).sent
    by_cases hc : c = s.stream
    · rw [hc, hconns, Function.update_self, hsent]
    · rw [hothers c hc]
  · by_cases hc : c = s.stream
    · rw [hc, hconns, Function.update_self, hclosed]
    · rw [hothers c hc]

/-- No change to any connection. -/
theorem Serves.of_conns {t : Loop} (hconns : t.conns = s.conns)
    (hconn : t.connected = s.connected) : Serves s t := by
  have hself : t.conns
      = Function.update s.conns s.stream (s.conns s.stream) := by
    rw [hconns, Function.update_eq_self]
  exact .of_update hself hconn rfl rfl

/-- The invariant survives a step of the daemon, if what the step does to
the stream and to the table is right. -/
theorem Serves.inv {t : Loop} (hv : Serves s t) (h : Inv nt sj clock s)
    (hstream : s.stream ≤ t.stream) (hserved : s.served ≤ t.served)
    (hlt : t.phase ≠ .accept → t.stream < s.connected)
    (hle : t.stream ≤ s.connected)
    (hsettled : ∀ c, s.served ≤ c → c < t.served →
      (body? (s.sent c)).isSome ∨ (s.conns c).closed = true)
    (hsilent : t.served ≤ s.stream → (t.conns s.stream).tx = [])
    (hwritten : (t.conns s.stream).tx <+: reply sj clock s.sent s.stream)
    (hhere : Here (t.conns t.stream) (reply sj clock s.sent t.stream) t.phase)
    (htable : t.guard.bannedIps = tableAfter sj clock s.sent t.served)
    (hhist : ∃ history, t.guard = Guard.run nt history) :
    Inv nt sj clock t where
  stream_le := by
    rw [hv.connected]
    exact hle
  stream_lt hp := by
    rw [hv.connected]
    exact hlt hp
  settled c hc := by
    rw [hv.sent, hv.closed]
    rcases Nat.lt_or_ge c s.served with hlt | hge
    · exact h.settled c hlt
    · exact hsettled c hge hc
  unread c hc := by
    rw [hv.others c (by omega)]
    exact h.unread c (by omega)
  silent c hc := by
    by_cases hcs : c = s.stream
    · rw [hcs] at hc ⊢
      exact hsilent hc
    · rw [hv.others c hcs]
      exact h.silent c (hserved.trans hc)
  written c := by
    rw [hv.sent]
    by_cases hcs : c = s.stream
    · rw [hcs]
      exact hwritten
    · rw [hv.others c hcs]
      exact h.written c
  here := by
    rw [hv.sent]
    exact hhere
  table := by
    rw [hv.sent]
    exact htable
  history := hhist

/-- A step on the way to the dispatch. -/
theorem Serves.inv_read {t : Loop} (hv : Serves s t)
    (h : Inv nt sj clock s) (hs : s.phase.dispatched = false)
    (ht : t.phase.dispatched = false) (hstream : t.stream = s.stream)
    (hguard : t.guard = s.guard) (hlt : s.stream < s.connected)
    {conn : Conn} (hconn : t.conns s.stream = conn)
    (htx : conn.tx = (s.conns s.stream).tx)
    (hhere : Here conn (reply sj clock s.sent s.stream) t.phase) :
    Inv nt sj clock t := by
  have hss := served_of_not_dispatched hs
  have hts := served_of_not_dispatched ht
  have hsilent := h.silent s.stream (Nat.le_of_eq hss)
  have htable := h.table
  have hhist := h.history
  rw [hss] at htable
  refine hv.inv h (by omega) (by omega) (by omega) (by omega)
    (fun c _ _ => absurd hss (by omega)) (fun _ => ?_) ?_ ?_ ?_ ?_
  · rw [hconn, htx, hsilent]
  · rw [hconn, htx]
    exact h.written s.stream
  · rw [hstream, hconn]
    exact hhere
  · rw [hguard, hts, hstream]
    exact htable
  · rw [hguard]
    exact hhist

/-- A step behind the dispatch: more of the reply, or on to the next. -/
theorem Serves.inv_write {t : Loop} (hv : Serves s t)
    (h : Inv nt sj clock s) (hs : s.phase.dispatched = true)
    (hserved : t.served = s.served) (hguard : t.guard = s.guard)
    (hstream : s.stream ≤ t.stream)
    (hlt : t.phase ≠ .accept → t.stream = s.stream)
    (hwritten : (t.conns s.stream).tx <+: reply sj clock s.sent s.stream)
    (hhere : Here (t.conns t.stream) (reply sj clock s.sent t.stream)
      t.phase) :
    Inv nt sj clock t := by
  have hss := served_of_dispatched hs
  have hbusy : s.stream < s.connected := h.stream_lt (by
    intro hphase
    rw [hphase] at hs
    cases hs)
  have hle : t.stream ≤ t.served := by
    unfold Loop.served
    split <;> omega
  refine hv.inv h hstream (Nat.le_of_eq hserved.symm) (fun hp => ?_)
    (by omega) (fun c _ _ => absurd hserved (by omega))
    (fun _ => absurd hserved (by omega)) hwritten hhere ?_ ?_
  · rw [hlt hp]
    exact hbusy
  · rw [hguard, hserved]
    exact h.table
  · rw [hguard]
    exact h.history

/-- Done with a stream: the next one has not been touched. -/
theorem here_next {t : Loop} (h : Inv nt sj clock s) (hv : Serves s t)
    (hstream : t.stream = s.stream + 1) (hphase : t.phase = .accept)
    (owed : List UInt8) : Here (t.conns t.stream) owed t.phase := by
  rw [hphase, hstream]
  show (t.conns (s.stream + 1)).rx = (t.conns (s.stream + 1)).sent
  rw [hv.others _ (by omega)]
  exact h.unread _ (by omega)

/-- More of the reply written, and the stream kept. -/
theorem inv_put (h : Inv nt sj clock s) (hs : s.phase.dispatched = true)
    {t : Loop} (hv : Serves s t) {tx : List UInt8}
    (hconns : t.conns s.stream = { s.conns s.stream with tx := tx })
    (hstream : t.stream = s.stream) (ht : t.phase.dispatched = true)
    (hguard : t.guard = s.guard)
    (htx : tx <+: reply sj clock s.sent s.stream)
    (hhere : Here { s.conns s.stream with tx := tx }
      (reply sj clock s.sent s.stream) t.phase) :
    Inv nt sj clock t := by
  refine hv.inv_write h hs ?_ hguard (Nat.le_of_eq hstream.symm)
    (fun _ => hstream) ?_ ?_
  · rw [served_of_dispatched hs, served_of_dispatched ht, hstream]
  · rw [hconns]
    exact htx
  · rw [hstream, hconns]
    exact hhere

/-- Some of the reply written, and the stream left. -/
theorem inv_leave (h : Inv nt sj clock s) (hs : s.phase.dispatched = true)
    {t : Loop} (hv : Serves s t) (hstream : t.stream = s.stream + 1)
    (ht : t.phase = .accept) (hguard : t.guard = s.guard)
    (htx : (t.conns s.stream).tx <+: reply sj clock s.sent s.stream) :
    Inv nt sj clock t := by
  refine hv.inv_write h hs ?_ hguard (by omega) (fun hp => absurd ht hp) htx
    (here_next h hv hstream ht _)
  rw [served_of_dispatched hs, served_of_not_dispatched (by rw [ht]; rfl),
    hstream]

/-- Giving up on a client that hung up before its frame was complete. -/
theorem inv_skip (h : Inv nt sj clock s) (hs : s.phase.dispatched = false)
    (hbusy : s.phase ≠ .accept) (hbody : body? (s.sent s.stream) = none)
    (hclosed : (s.conns s.stream).closed = true) :
    Inv nt sj clock s.next := by
  have hv : Serves s s.next := .of_conns rfl rfl
  have hss := served_of_not_dispatched hs
  have hts : s.next.served = s.stream + 1 := rfl
  have hlt := h.stream_lt hbusy
  refine hv.inv h (Nat.le_succ _) (by omega) (fun hp => absurd rfl hp) hlt
    (fun c hge hc => ?_) (fun hle => absurd hts (by omega))
    (h.written s.stream) (here_next h hv rfl rfl _) ?_ h.history
  · obtain rfl : c = s.stream := by omega
    exact Or.inr hclosed
  · show s.guard.bannedIps = _
    rw [h.table, hss, hts, tableAfter_succ, validRequest, hbody]
    rfl

/-- The dispatch. -/
theorem inv_dispatch (h : Inv nt sj clock s) {buf : List UInt8}
    (hphase : s.phase = .dispatch buf) {t : Loop} (hv : Serves s t)
    (hconns : t.conns = s.conns) (hstream : t.stream = s.stream)
    (hguard : t.guard = (handle sj s.guard (clock s.stream) buf).1)
    (hnext : t.phase = .writeLen (sj.responseToVec
      (handle sj s.guard (clock s.stream) buf).2)) :
    Inv nt sj clock t := by
  have hss : s.served = s.stream := served_of_not_dispatched (by
    rw [hphase]
    rfl)
  have hts : t.served = s.stream + 1 := by
    rw [served_of_dispatched (by rw [hnext]; rfl), hstream]
  have hbuf : body? (s.sent s.stream) = some buf := by
    have hhere := h.here
    rw [hphase] at hhere
    exact hhere
  have hsilent : (s.conns s.stream).tx = [] :=
    h.silent s.stream (Nat.le_of_eq hss)
  have hlt : s.stream < s.connected := h.stream_lt (by
    rw [hphase]
    exact fun hp => nomatch hp)
  obtain ⟨history, hhist⟩ := h.history
  have hstats : s.guard.stats.get? 0 = none := by
    rw [hhist]
    exact stats_run nt history
  have htable := h.table
  rw [hss] at htable
  obtain ⟨hideal, hreply⟩ := handle_ideal hbuf htable hstats
  refine hv.inv h (by omega) (by omega) (by omega) (by omega)
    (fun c hge hc => ?_) (fun hle => absurd hts (by omega)) ?_ ?_ ?_ ?_
  · obtain rfl : c = s.stream := by omega
    rw [hbuf]
    exact Or.inl rfl
  · rw [hconns, hsilent]
    exact List.nil_prefix
  · rw [hnext, hstream, hconns]
    exact ⟨hsilent, hreply.symm⟩
  · rw [hguard, hts]
    exact hideal
  · -- an undecodable body is no request at all
    rw [hguard, handle]
    cases sj.requestFromSlice buf with
    | error e => exact ⟨history, hhist⟩
    | ok req =>
        refine ⟨history ++ [.request req (clock s.stream)], ?_⟩
        rw [run_request, ← hhist]

end Step

-- ==================================================== whole interleavings

section Run

variable {nt : NetworkTypes} {sj : SerdeJson}
  {clock : Nat → Option Int64}

/-- The daemon works on the stream it is at. -/
theorem serves_apply {s t : Loop} {a : Action} (ha : a.isDaemon = true)
    (happ : s.apply nt sj clock a = some t) : Serves s t := by
  cases stepped_apply happ with
  | connect | deliver | disconnect | frame => cases ha
  | accept | acceptErr | readLenErr | readBodyErr | dispatch | flush =>
      exact .of_conns rfl rfl
  | readLen | readBody | writeLen | writeLenErr | writeBody
      | writeBodyErr =>
      exact .of_update rfl rfl rfl rfl

/-- One action, of anyone. -/
theorem inv_apply (s : Loop) (a : Action) (t : Loop)
    (happ : s.apply nt sj clock a = some t) (h : Inv nt sj clock s) :
    Inv nt sj clock t := by
  have hv : a.isDaemon = true → Serves s t := fun ha => serves_apply ha happ
  have hhere := h.here
  have hbusy := h.stream_lt
  cases stepped_apply happ with
  | connect =>
      have hg : Grows s { s with connected := s.connected + 1 } :=
        .of_conns (Nat.le_succ _) rfl
      exact hg.inv h h.history
  | frame =>
      rename_i ctx ktime
      have hg : Grows s { s with
          guard := (s.guard.step nt (.frame ctx ktime)).1 } :=
        .of_conns (Nat.le_refl _) rfl
      obtain ⟨history, hhist⟩ := h.history
      refine hg.inv h ⟨history ++ [.frame ctx ktime], ?_⟩
      rw [Guard.run, Machine.runState_append, ← Guard.run, ← hhist]
      rfl
  | deliver hc hopen =>
      rename_i c bytes
      refine (Grows.of_update bytes (s.conns c).closed rfl
        fun hshut => ?_).inv h h.history
      rw [hopen] at hshut
      cases hshut
  | disconnect hc =>
      refine (Grows.of_update [] true ?_ fun _ => ⟨rfl, rfl⟩).inv h
        h.history
      rw [List.append_nil, List.append_nil]
  | accept hphase hlt =>
      rw [hphase] at hhere
      refine (hv rfl).inv_read h ?_ rfl rfl rfl hlt rfl rfl hhere
      rw [hphase]
      rfl
  | acceptErr hphase => exact h
  | readLen hphase hrx =>
      rename_i a b c d rest
      rw [hphase] at hhere hbusy
      refine (hv rfl).inv_read h ?_ rfl rfl rfl (hbusy (by simp))
        (Function.update_self ..) rfl ⟨a, b, c, d, ?_, rfl⟩
      · rw [hphase]
        rfl
      · rw [← hrx]
        exact hhere.symm
  | readLenErr hphase hclosed hshort =>
      rw [hphase] at hhere
      refine inv_skip h (by rw [hphase]; rfl) (by rw [hphase]; simp) ?_
        hclosed
      rw [hhere] at hshort
      exact body?_short hshort
  | readBody hphase hlen =>
      rw [hphase] at hhere hbusy
      obtain ⟨a, b, c, d, hsent, rfl⟩ := hhere
      refine (hv rfl).inv_read h ?_ rfl rfl rfl (hbusy (by simp))
        (Function.update_self ..) rfl ?_
      · rw [hphase]
        rfl
      · show body? (s.conns s.stream).sent = _
        rw [hsent, body?_cons a b c d hlen]
  | readBodyErr hphase hclosed hshort =>
      rw [hphase] at hhere
      obtain ⟨a, b, c, d, hsent, rfl⟩ := hhere
      refine inv_skip h (by rw [hphase]; rfl) (by rw [hphase]; simp) ?_
        hclosed
      show body? (s.conns s.stream).sent = none
      rw [hsent, body?_cons_short a b c d hshort]
  | dispatch hphase =>
      exact inv_dispatch h hphase (hv rfl) rfl rfl rfl rfl
  | writeLen hphase =>
      rw [hphase] at hhere
      obtain ⟨htx, howed⟩ := hhere
      refine inv_put h (by rw [hphase]; rfl) (hv rfl)
        (Function.update_self ..) rfl rfl rfl ?_ ⟨?_, howed⟩
      · rw [htx, howed, putFrame_eq]
        exact List.prefix_append ..
      · rw [htx, List.nil_append]
  | writeLenErr hphase =>
      rw [hphase] at hhere
      obtain ⟨htx, howed⟩ := hhere
      refine inv_leave h (by rw [hphase]; rfl) (hv rfl) rfl rfl rfl ?_
      show (Function.update s.conns s.stream _ s.stream).tx <+: _
      rw [Function.update_self, htx, howed, putFrame_eq]
      exact (List.take_prefix ..).trans (List.prefix_append ..)
  | writeBody hphase =>
      rename_i respBytes
      rw [hphase] at hhere
      obtain ⟨htx, howed⟩ := hhere
      have hwhole : (s.conns s.stream).tx ++ respBytes
          = reply sj clock s.sent s.stream := by
        rw [htx, howed, putFrame_eq]
      exact inv_put h (by rw [hphase]; rfl) (hv rfl)
        (Function.update_self ..) rfl rfl rfl (hwhole ▸ List.prefix_rfl)
        hwhole
  | writeBodyErr hphase =>
      rw [hphase] at hhere
      obtain ⟨htx, howed⟩ := hhere
      refine inv_leave h (by rw [hphase]; rfl) (hv rfl) rfl rfl rfl ?_
      show (Function.update s.conns s.stream _ s.stream).tx <+: _
      rw [Function.update_self, htx, howed, putFrame_eq]
      exact (List.prefix_append_right_inj _).mpr (List.take_prefix ..)
  | flush hphase =>
      exact inv_leave h (by rw [hphase]; rfl) (hv rfl) rfl rfl rfl
        (h.written s.stream)

/-- Every reachable state. -/
theorem Reachable.inv {s : Loop} (hs : Reachable nt sj clock s) :
    Inv nt sj clock s :=
  Machine.Moves.inv (fun s a t _ happ h => inv_apply s a t happ h) hs
    inv_init

end Run

end RustGuard
