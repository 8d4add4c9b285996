/-
What the loop does while nobody does anything to it: it comes to rest,
and it does not matter how.

`answerable_iff` says that a waiting client CAN be answered. This module
is about every schedule of the daemon's steps. Seven steps are all a
stream can take (`Loop.work`), so there is a bound on how many there are
before none is left; a rest is the end of the queue or a client that is
not ready (`rest_cases`); and where that is, what the table is there and
what everyone has been written, was settled before the first of the
steps.

An `accept` that fails is the exception. It changes nothing, so it may
come at any place in a schedule and as often as it likes, and a loop
whose `accept` fails for ever never gets anywhere. Such steps are not
counted and not waited for (`Action.works`): a rest is a state in which
the daemon can do nothing but fail to accept. A write may fail too; then
the reply it was part of is cut short, and nothing else is different.
-/
import RustGuard.Proofs.Waiting

namespace RustGuard

open Lib

/-- The steps of the daemon that get it anywhere. -/
def Action.works (a : Action) : Bool := a.isDaemon && a != .acceptErr

/-- A write that fails. -/
def Action.fails : Action → Bool
  | .writeLenErr _ | .writeBodyErr _ => true
  | _ => false

/-- The calls of the loop body that are behind it. -/
def Phase.done : Phase → Nat
  | .accept => 0
  | .readLen => 1
  | .readBody _ => 2
  | .dispatch _ => 3
  | .writeLen _ => 4
  | .writeBody _ => 5
  | .flush => 6

/-- The calls that are left, if no client keeps the loop waiting. -/
def Loop.work (s : Loop) : Nat :=
  7 * (s.connected - s.stream) - s.phase.done

section Rest

variable {nt : NetworkTypes} {sj : SerdeJson}
  {clock : Nat → Option Int64} {s t : Loop}

theorem Action.works_isDaemon {a : Action} (ha : a.works = true) :
    a.isDaemon = true :=
  (Bool.and_eq_true_iff.mp ha).1

-- ==================================================== every step counts

theorem Phase.done_le (p : Phase) : p.done ≤ 6 := by
  cases p with
  | accept | readLen | readBody | dispatch | writeLen | writeBody | flush =>
      simp [Phase.done]

/-- On to the next stream. -/
theorem work_next (hstream : t.stream = s.stream + 1)
    (hphase : t.phase = .accept) (hconn : t.connected = s.connected)
    (hlt : s.stream < s.connected) : t.work < s.work := by
  have hdone := s.phase.done_le
  have hzero : t.phase.done = 0 := by
    rw [hphase]
    rfl
  rw [Loop.work, Loop.work, hzero, hstream, hconn]
  omega

/-- On to the next call. -/
theorem work_call (hstream : t.stream = s.stream)
    (hphase : t.phase.done = s.phase.done + 1)
    (hconn : t.connected = s.connected) (hlt : s.stream < s.connected) :
    t.work < s.work := by
  have hdone := t.phase.done_le
  rw [Loop.work, Loop.work, hphase, hstream, hconn]
  omega

theorem work_apply (s : Loop) (a : Action) (t : Loop) (ha : a.works = true)
    (happ : s.apply nt sj clock a = some t) (h : Inv nt sj clock s) :
    Inv nt sj clock t ∧ t.work < s.work := by
  refine ⟨inv_apply s a t happ h, ?_⟩
  have hbusy := h.stream_lt
  cases stepped_apply happ with
  | connect | deliver | disconnect | frame | acceptErr => cases ha
  | accept hphase hlt =>
      exact work_call rfl (by rw [hphase]; rfl) rfl hlt
  | readLen hphase | readBody hphase | dispatch hphase | writeLen hphase
      | writeBody hphase =>
      refine work_call rfl (by rw [hphase]; rfl) rfl (hbusy ?_)
      rw [hphase]
      exact nofun
  | readLenErr hphase | readBodyErr hphase | writeLenErr hphase
      | writeBodyErr hphase | flush hphase =>
      refine work_next rfl rfl rfl (hbusy ?_)
      rw [hphase]
      exact nofun

-- =============================================================== at rest

/-- Any number of those steps. -/
theorem DaemonMoves.of_works
    (hm : Machine.Moves (Loop.apply nt sj clock) (·.works = true) s t) :
    DaemonMoves nt sj clock s t :=
  hm.mono fun _ => Action.works_isDaemon

/-- What does not get the daemon anywhere leaves it where it is. -/
theorem eq_of_not_works {a : Action} (hd : a.isDaemon = true)
    (hw : a.works = false) (happ : s.apply nt sj clock a = some t) :
    t = s := by
  cases stepped_apply happ with
  | acceptErr => rfl
  | connect | deliver | disconnect | frame => cases hd
  | accept | readLen | readLenErr | readBody | readBodyErr | dispatch
      | writeLen | writeLenErr | writeBody | writeBodyErr | flush => cases hw

/-- The loop rests at the end of the queue, or with a client that is not
ready. -/
theorem rest_cases (h : Inv nt sj clock s)
    (hrest : Machine.AtRest (Loop.apply nt sj clock) (·.works = true) s) :
    s.served = s.stream
      ∧ (s.stream = s.connected ∨ ¬ s.Ready s.stream) := by
  by_cases hphase : s.phase = .accept
  · refine ⟨served_of_not_dispatched (by rw [hphase]; rfl), Or.inl ?_⟩
    by_contra hne
    have happ : s.apply nt sj clock .accept = none := hrest .accept rfl
    have hlt := Nat.lt_of_le_of_ne h.stream_le hne
    rw [Loop.apply, if_pos ⟨hphase, hlt⟩] at happ
    cases happ
  · have hwaits : ¬ s.Ready s.stream := by
      intro hready
      obtain ⟨a, ha, t, happ, hlt, -⟩ := daemon_step h hphase hready
      have hworks : a.works = true := by
        refine Bool.and_eq_true_iff.mpr ⟨ha, bne_iff_ne.mpr ?_⟩
        rintro rfl
        cases stepped_apply happ with
        | acceptErr hacc => exact hphase hacc
      rw [hrest a hworks] at happ
      cases happ
    refine ⟨served_of_not_dispatched (Bool.eq_false_iff.mpr ?_),
      Or.inr hwaits⟩
    -- who has been dispatched had sent a whole frame
    intro hdispatched
    refine hwaits (h.settled s.stream ?_)
    rw [served_of_dispatched hdispatched]
    exact Nat.lt_succ_self _

/-- Where the queue is held up is one place. -/
theorem held_up_unique {m n : Nat} (hm : ∀ b < m, s.Ready b)
    (hm' : m = s.connected ∨ ¬ s.Ready m) (hn : ∀ b < n, s.Ready b)
    (hn' : n = s.connected ∨ ¬ s.Ready n) (hmle : m ≤ s.connected)
    (hnle : n ≤ s.connected) : m = n := by
  rcases Nat.lt_trichotomy m n with hlt | heq | hgt
  · rcases hm' with hend | hwaits
    · omega
    · exact absurd (hn m hlt) hwaits
  · exact heq
  · rcases hn' with hend | hwaits
    · omega
    · exact absurd (hm n hgt) hwaits

-- ============================================================ the replies

/-- No frame, no reply. -/
theorem reply_eq_nil {sent : Nat → List UInt8} {c : Nat}
    (h : body? (sent c) = none) : reply sj clock sent c = [] := by
  rw [reply, serve, h]

/-- Every stream from `m` on that has been left has been written its
whole reply. -/
def Complete (sj : SerdeJson) (clock : Nat → Option Int64) (m : Nat)
    (s : Loop) : Prop :=
  ∀ c, m ≤ c → c < s.stream → (s.conns c).tx = reply sj clock s.sent c

/-- A step that is not a failing write leaves no reply half written. -/
theorem complete_apply {m : Nat} {a : Action} (ha : a.works = true)
    (hfails : a.fails = false) (happ : s.apply nt sj clock a = some t)
    (h : Inv nt sj clock s) (hc : Complete sj clock m s) :
    Complete sj clock m t := by
  have hv := serves_apply (Action.works_isDaemon ha) happ
  have hkept : ∀ c, m ≤ c → c < s.stream →
      (t.conns c).tx = reply sj clock t.sent c := by
    intro c hmc hcs
    rw [hv.others c (Nat.ne_of_lt hcs), hv.sent]
    exact hc c hmc hcs
  have hhere := h.here
  have hwritten := h.written s.stream
  intro c hmc hct
  cases stepped_apply happ with
  | connect | deliver | disconnect | frame | acceptErr => cases ha
  | writeLenErr | writeBodyErr => cases hfails
  | accept | readLen | readBody | dispatch | writeLen | writeBody =>
      exact hkept c hmc hct
  | readLenErr hphase hclosed hshort =>
      rcases Nat.lt_succ_iff_lt_or_eq.mp hct with hlt | rfl
      · exact hkept c hmc hlt
      · rw [hphase] at hhere
        rw [hhere] at hshort
        have hnil : reply sj clock s.sent s.stream = [] :=
          reply_eq_nil (body?_short hshort)
        rw [hnil] at hwritten
        exact (List.prefix_nil.mp hwritten).trans hnil.symm
  | readBodyErr hphase hclosed hshort =>
      rcases Nat.lt_succ_iff_lt_or_eq.mp hct with hlt | rfl
      · exact hkept c hmc hlt
      · rw [hphase] at hhere
        obtain ⟨a, b, c, d, hsent, rfl⟩ := hhere
        have hbody : body? (s.sent s.stream) = none := by
          show body? (s.conns s.stream).sent = none
          rw [hsent, body?_cons_short a b c d hshort]
        have hnil : reply sj clock s.sent s.stream = [] :=
          reply_eq_nil hbody
        rw [hnil] at hwritten
        exact (List.prefix_nil.mp hwritten).trans hnil.symm
  | flush hphase =>
      rcases Nat.lt_succ_iff_lt_or_eq.mp hct with hlt | rfl
      · exact hkept c hmc hlt
      · rw [hphase] at hhere
        exact hhere

theorem complete_exec {m : Nat} {as : List Action}
    (hworks : ∀ a ∈ as, a.works = true) (hfails : ∀ a ∈ as, a.fails = false)
    (hexec : Machine.exec (Loop.apply nt sj clock) s as = some t)
    (h : Inv nt sj clock s) (hc : Complete sj clock m s) :
    Complete sj clock m t := by
  induction as generalizing s with
  | nil =>
      obtain rfl : s = t := Option.some.inj hexec
      exact hc
  | cons a as ih =>
      obtain ⟨r, hr, hrest⟩ := Option.bind_eq_some_iff.mp hexec
      have ha := List.mem_cons_self (a := a) (l := as)
      exact ih (fun b hb => hworks b (List.mem_cons_of_mem _ hb))
        (fun b hb => hfails b (List.mem_cons_of_mem _ hb)) hrest
        (inv_apply s a r hr h)
        (complete_apply (hworks a ha) (hfails a ha) hr h hc)

end Rest

-- ====================================================== the whole story

/-- The place where the queue is held up, from what the clients have sent
so far. -/
theorem exists_held_up (s : Loop) :
    ∃ n, n ≤ s.connected ∧ (∀ b < n, s.Ready b)
      ∧ (n = s.connected ∨ ¬ s.Ready n) := by
  classical
  by_cases hall : ∀ b < s.connected, s.Ready b
  · exact ⟨s.connected, Nat.le_refl _, hall, Or.inl rfl⟩
  · push Not at hall
    -- the first client that is not ready
    have hfirst := Nat.find_spec hall
    refine ⟨Nat.find hall, Nat.le_of_lt hfirst.1, fun b hb => ?_,
      Or.inr hfirst.2⟩
    by_contra hwaits
    exact Nat.find_min hall hb ⟨hb.trans hfirst.1, hwaits⟩

/-- From every reachable state, whatever order the daemon's steps are
taken in and wherever an `accept` fails among them: apart from failing
accepts there are at most seven for every client that waits, and there is
a state of rest, where no other step is enabled. Every rest is at the
same client: the first that has neither sent a whole frame nor hung up,
or the end of the queue. The table there is that of the requests before
it, the clients behind it have been written nothing, and those before it
a part of their reply; all of it, if no write has failed on the way. -/
theorem daemon_comes_to_rest (nt : NetworkTypes) (sj : SerdeJson)
    (clock : Nat → Option Int64) (s : Loop)
    (hs : Reachable nt sj clock s) :
    ∃ n, (∀ b < n, s.Ready b) ∧ (n = s.connected ∨ ¬ s.Ready n)
      ∧ (∃ t, Machine.Moves (Loop.apply nt sj clock) (·.works = true) s t
        ∧ Machine.AtRest (Loop.apply nt sj clock) (·.works = true) t)
      ∧ ∀ as t, (∀ a ∈ as, a.isDaemon = true) →
        Machine.exec (Loop.apply nt sj clock) s as = some t →
        (as.filter (·.works)).length ≤ 7 * (s.connected - s.stream)
        ∧ (Machine.AtRest (Loop.apply nt sj clock) (·.works = true) t →
          t.stream = n
          ∧ t.guard.bannedIps = tableAfter sj clock s.sent n
          ∧ (∀ c, (t.conns c).tx <+: reply sj clock s.sent c)
          ∧ (∀ c, n ≤ c → (t.conns c).tx = [])
          ∧ ((∀ a ∈ as, a.fails = false) → ∀ c, s.stream ≤ c → c < n →
            (t.conns c).tx = reply sj clock s.sent c)) := by
  have h := hs.inv
  obtain ⟨n, hle, hbefore, hheld⟩ := exists_held_up s
  refine ⟨n, hbefore, hheld, Machine.exists_rest work_apply h, ?_⟩
  intro as t hdaemon hexec
  -- the schedule without the accepts that fail leads to the same state
  replace hexec : Machine.exec (Loop.apply nt sj clock) s
      (as.filter (·.works)) = some t :=
    Machine.exec_filter (fun a ha hw _ _ happ =>
      eq_of_not_works (hdaemon a ha) hw happ) hexec
  have hworks : ∀ a ∈ as.filter (·.works), a.works = true :=
    fun a ha => (List.mem_filter.mp ha).2
  have hlen := Machine.exec_length_le work_apply hworks hexec h
  refine ⟨hlen.trans (Nat.sub_le ..), fun hrest => ?_⟩
  have hm : DaemonMoves nt sj clock s t :=
    .of_works (Machine.Moves.of_exec hworks hexec)
  have ht := hm.inv h
  obtain ⟨hconn, hsent, hclosed⟩ := hm.clients
  have hready : ∀ c, t.Ready c ↔ s.Ready c := by
    intro c
    rw [Loop.Ready, Loop.Ready, hsent, hclosed]
  obtain ⟨hserved, hwhere⟩ := rest_cases ht hrest
  have hstream : t.stream = n := by
    refine held_up_unique (s := s) (fun b hb => ?_) ?_ hbefore hheld ?_ hle
    · exact (hready b).mp (ht.settled b (by omega))
    · rw [← hready, ← hconn]
      exact hwhere
    · rw [← hconn]
      exact ht.stream_le
  have htable := ht.table
  have hwritten := ht.written
  rw [hserved, hstream, hsent] at htable
  rw [hsent] at hwritten
  refine ⟨hstream, htable, hwritten, fun c hc => ht.silent c (by omega),
    fun hfails c hc hcn => ?_⟩
  have hstart : Complete sj clock s.stream s :=
    fun c hmc hcs => absurd hmc (Nat.not_le_of_lt hcs)
  have hcomplete := complete_exec hworks
    (fun a ha => hfails a (List.mem_filter.mp ha).1) hexec h hstart
  rw [← hsent]
  exact hcomplete c hc (by omega)

/-- The first of two clients has sent its request, the second nothing:
the daemon rests with the second, and with the first one's ban, however
often it fails to accept before. -/
theorem daemon_comes_to_rest_second :
    ∃ s, Reachable networkTypes serdeJson (fun _ => none) s
      ∧ (∃ t, Machine.Moves (Loop.apply networkTypes serdeJson fun _ => none)
          (·.works = true) s t
        ∧ Machine.AtRest (Loop.apply networkTypes serdeJson fun _ => none)
          (·.works = true) t)
      ∧ ∀ as t, (∀ a ∈ as, a.isDaemon = true) →
        Machine.exec (Loop.apply networkTypes serdeJson fun _ => none) s as
          = some t →
        Machine.AtRest (Loop.apply networkTypes serdeJson fun _ => none)
          (·.works = true) t →
        t.stream = 1 ∧ t.guard.bannedIps.keys = [0x0a000001] := by
  have hrun : (Machine.exec
      (Loop.apply networkTypes serdeJson fun _ => none) .init
      [.connect, .connect, .deliver 0 (putFrame
        (serdeJson.requestToVec (.ban "10.0.0.1" none)))]).map
        (fun s => (s.connected, (body? (s.sent 0)).isSome,
          (body? (s.sent 1)).isSome, (s.conns 1).closed,
          (tableAfter serdeJson (fun _ => none) s.sent 1).keys))
      = some (2, true, false, false, [0x0a000001]) := by
    decide
  obtain ⟨s, hs, hfacts⟩ := Option.map_eq_some_iff.mp hrun
  obtain ⟨hconn, hfirst, hsecond, hopen, hkeys⟩ : s.connected = 2
      ∧ (body? (s.sent 0)).isSome = true ∧ (body? (s.sent 1)).isSome = false
      ∧ (s.conns 1).closed = false
      ∧ (tableAfter serdeJson (fun _ => none) s.sent 1).keys
        = [0x0a000001] := by
    simpa using hfacts
  have hreach : Reachable networkTypes serdeJson (fun _ => none) s :=
    .of_exec (fun _ _ => trivial) hs
  have hready : ∀ b < 1, s.Ready b := by
    intro b hb
    obtain rfl : b = 0 := by omega
    exact Or.inl hfirst
  have hwaits : ¬ s.Ready 1 := by
    rw [Loop.Ready, hsecond, hopen]
    simp
  obtain ⟨n, hbefore, hheld, hrest, hall⟩ := daemon_comes_to_rest
    networkTypes serdeJson (fun _ => none) s hreach
  have hn : n = 1 := by
    rcases Nat.lt_trichotomy n 1 with hlt | heq | hgt
    · rcases hheld with hend | hnot
      · omega
      · exact absurd (hready n hlt) hnot
    · exact heq
    · exact absurd (hbefore 1 hgt) hwaits
  refine ⟨s, hreach, hrest, fun as t hdaemon hexec ht => ?_⟩
  obtain ⟨hstream, htable, -⟩ := (hall as t hdaemon hexec).2 ht
  rw [htable, hn]
  exact ⟨hstream.trans hn, hkeys⟩

end RustGuard
