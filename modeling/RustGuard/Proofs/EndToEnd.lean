/-
From the terminal of a client to the packets of an address.

The layers meet here. A client's bytes become a request in the accept
loop, in whatever order the clients and the daemon take their steps
(Interleaving.lean); the request becomes a ruling in the table
(Enforcement.lean); and the XDP program reads the table
(Verdict.lean). `requestsOf` is what the layers have in common: the
valid requests of the connections served so far, in the order they were
accepted, whatever the state they are read off.

# What a packet meets

In every state of every interleaving a complete frame is dropped exactly
when the ledger of these requests blocks its source
(`interleaved_enforcement`). A client that is half way through its
frame, one that hung up, one whose response was lost: none of them
shows.

# What "Success" is worth

A `ban` that printed "Success" named an address, and until somebody asks
for something else for that address, its packets are dropped, exactly as
long as the end time says; unless the table was full, in which case they
are not dropped at all (`success_drops_iff`).
-/
import RustGuard.Proofs.Outcome
import RustGuard.Proofs.Enforcement
import RustGuard.Proofs.Clock

namespace RustGuard

open Lib

section Requests

variable (sj : SerdeJson) (clock : Nat → Option Int64)
  (sent : Nat → List UInt8)

/-- The valid request of a connection, as an event. -/
def requestOf (c : Nat) : Option Event :=
  (validRequest sj (sent c)).map fun req => .request req (clock c)

/-- The valid requests of the first `n` connections. -/
def requestsOf (n : Nat) : List Event :=
  (List.range n).filterMap (requestOf sj clock sent)

variable {sj clock sent}

theorem requestsOf_succ (n : Nat) :
    requestsOf sj clock sent (n + 1)
      = requestsOf sj clock sent n
        ++ (requestOf sj clock sent n).toList := by
  rw [requestsOf, List.range_succ, List.filterMap_append]
  cases hreq : requestOf sj clock sent n with
  | none => simp [requestsOf, hreq]
  | some e => simp [requestsOf, hreq]

/-- The ideal table is what the requests leave. -/
theorem run_requestsOf (nt : NetworkTypes) (n : Nat) :
    (Guard.run nt (requestsOf sj clock sent n)).bannedIps
      = tableAfter sj clock sent n := by
  induction n with
  | zero => rfl
  | succ n ih =>
      rw [requestsOf_succ, tableAfter_succ, Guard.run,
        Machine.runState_append, ← Guard.run, requestOf]
      cases validRequest sj (sent n) with
      | none => exact ih
      | some req =>
          rw [← ih]
          exact dispatch_bannedIps _ _ req

end Requests

-- ================================================= what a packet meets

section Loop

variable {nt : NetworkTypes} {sj : SerdeJson}
  {clock : Nat → Option Int64} {s : Loop}

/-- The requests that count in a state of the loop. -/
def Loop.requests (sj : SerdeJson) (clock : Nat → Option Int64) (s : Loop) :
    List Event :=
  requestsOf sj clock s.sent s.served

/-- What a complete frame meets in a state of the loop. -/
theorem verdict_reachable (hs : Reachable nt sj clock s) {ctx : XdpContext}
    (hc : ctx.Complete) (ktime : Nat) :
    (s.guard.step nt (.frame ctx ktime)).2 = .verdict .drop
        ∧ (Ledger.after (s.requests sj clock)).Blocks ctx.source ktime
      ∨ (s.guard.step nt (.frame ctx ktime)).2 = .verdict .pass
        ∧ ¬ (Ledger.after (s.requests sj clock)).Blocks ctx.source ktime := by
  have htable : s.guard.bannedIps
      = (Guard.run nt (s.requests sj clock)).bannedIps := by
    rw [Loop.requests, run_requestsOf]
    exact hs.inv.table
  rw [step_frame_verdict, htable]
  rcases verdict_run nt (s.requests sj clock) hc ktime with
    ⟨hv, hb⟩ | ⟨hv, hb⟩
  · exact Or.inl ⟨by rw [hv], hb⟩
  · exact Or.inr ⟨by rw [hv], hb⟩

theorem dropped_iff (hs : Reachable nt sj clock s) {ctx : XdpContext}
    (hc : ctx.Complete) (ktime : Nat) :
    (s.guard.step nt (.frame ctx ktime)).2 = .verdict .drop
      ↔ (Ledger.after (s.requests sj clock)).Blocks ctx.source ktime := by
  rcases verdict_reachable hs hc ktime with ⟨hv, hb⟩ | ⟨hv, hb⟩
  · exact ⟨fun _ => hb, fun _ => hv⟩
  · refine ⟨fun hd => ?_, fun hyes => absurd hyes hb⟩
    rw [hv] at hd
    cases hd

end Loop

/-- In every state of every interleaving of clients, daemon and frames: a
complete frame is dropped if the most recent effective request for its
source, of the connections served so far, is a ban in force, and passed
otherwise. -/
theorem interleaved_enforcement (nt : NetworkTypes) (sj : SerdeJson)
    (clock : Nat → Option Int64) (s : Loop) (hs : Reachable nt sj clock s)
    (ctx : XdpContext) (hc : ctx.Complete) (ktime : Nat) :
    ((s.guard.step nt (.frame ctx ktime)).2 = .verdict .drop
      ↔ (Ledger.after (s.requests sj clock)).Blocks ctx.source ktime)
    ∧ (¬ (Ledger.after (s.requests sj clock)).Blocks ctx.source ktime →
      (s.guard.step nt (.frame ctx ktime)).2 = .verdict .pass) := by
  refine ⟨dropped_iff hs hc ktime, fun hno => ?_⟩
  rcases verdict_reachable hs hc ktime with ⟨-, hb⟩ | ⟨hv, -⟩
  · exact absurd hb hno
  · exact hv

/-- One client has banned an address, the next is two bytes into its
length: frames from the address are dropped. -/
theorem interleaved_enforcement_waiting :
    ∃ s, Reachable networkTypes serdeJson (fun _ => none) s
      ∧ s.sent 1 = [0, 0]
      ∧ (Ledger.after (s.requests serdeJson fun _ => none)).Blocks
        ⟨10, 0, 0, 1⟩ 7
      ∧ (s.guard.step networkTypes
        (.frame (frameFrom ⟨10, 0, 0, 1⟩ 6 54) 7)).2 = .verdict .drop := by
  have hrun : (Machine.exec
      (Loop.apply networkTypes serdeJson fun _ => none) .init
      [.connect, .connect, .deliver 1 [0, 0],
        .deliver 0 (putFrame (serdeJson.requestToVec
          (.ban "10.0.0.1" none))),
        .accept, .readLen, .readBody, .dispatch]).map
        (fun s => (s.sent 1, s.served, validRequest serdeJson (s.sent 0)))
      = some ([0, 0], 1, some (.ban "10.0.0.1" none)) := by
    decide
  obtain ⟨s, hs, hfacts⟩ := Option.map_eq_some_iff.mp hrun
  obtain ⟨hsent, hserved, hreq⟩ : s.sent 1 = [0, 0] ∧ s.served = 1
      ∧ validRequest serdeJson (s.sent 0)
        = some (.ban "10.0.0.1" none) := by
    simpa only [Prod.mk.injEq] using hfacts
  have hreach : Reachable networkTypes serdeJson (fun _ => none) s :=
    .of_exec (fun _ _ => trivial) hs
  have hrequests : s.requests serdeJson (fun _ => none)
      = [.request (.ban "10.0.0.1" none) none] := by
    rw [Loop.requests, hserved, requestsOf_succ, requestOf, hreq]
    rfl
  have hblocks : (Ledger.after (s.requests serdeJson fun _ => none)).Blocks
      ⟨10, 0, 0, 1⟩ 7 := by
    rw [hrequests]
    exact ⟨_, Ledger.after_ban (by decide) none none, Or.inl rfl⟩
  exact ⟨s, hreach, hsent, hblocks, (interleaved_enforcement networkTypes
    serdeJson (fun _ => none) s hreach (frameFrom ⟨10, 0, 0, 1⟩ 6 54)
    (by decide) 7).1.mpr hblocks⟩

-- ============================================== what "Success" is worth

/-- Requests for other addresses leave the ruling of an address alone. -/
theorem Ledger.step_of_not_concerns {ip : Ipv4Addr} {e : Event}
    (he : ¬ e.Concerns ip) (l : Ledger) : l.step e ip = l ip := by
  have hother : ∀ {target : String} {ip' : Ipv4Addr},
      Ipv4Addr.fromStr target = some ip' →
      ¬ Ipv4Addr.fromStr target = some ip → ip ≠ ip' := by
    rintro target ip' hip hno rfl
    exact hno hip
  cases e with
  | frame ctx ktime => rfl
  | request req utc =>
      cases req with
      | list => rfl
      | stats => rfl
      | ban target ttl =>
          rw [Ledger.step]
          cases hip : Ipv4Addr.fromStr target with
          | none => rfl
          | some ip' =>
              simp only
              split
              · exact Function.update_of_ne (hother hip he) _ _
              · rfl
      | unban target =>
          rw [Ledger.step]
          cases hip : Ipv4Addr.fromStr target with
          | none => rfl
          | some ip' => exact Function.update_of_ne (hother hip he) _ _

section Success

variable {nt : NetworkTypes} {sj : SerdeJson}
  {clock : Nat → Option Int64} {sent : Nat → List UInt8}

/-- No connection from `c` on, before `n`, asks for anything for `ip`. -/
def Undisturbed (sj : SerdeJson) (clock : Nat → Option Int64)
    (sent : Nat → List UInt8) (ip : Ipv4Addr) (c n : Nat) : Prop :=
  ∀ c', c ≤ c' → c' < n → ∀ e ∈ requestOf sj clock sent c',
    ¬ e.Concerns ip

/-- The ruling of an address nobody asks about. -/
theorem ledger_undisturbed {ip : Ipv4Addr} {c n : Nat} (hle : c ≤ n)
    (h : Undisturbed sj clock sent ip c n) :
    Ledger.after (requestsOf sj clock sent n) ip
      = Ledger.after (requestsOf sj clock sent c) ip := by
  induction n, hle using Nat.le_induction with
  | base => rfl
  | succ n hle ih =>
      have hbefore : Undisturbed sj clock sent ip c n :=
        fun c' hc' hn => h c' hc' (Nat.lt_succ_of_lt hn)
      have hlast := h n hle (Nat.lt_succ_self n)
      rw [requestsOf_succ, Ledger.after, List.foldl_append, ← Ledger.after,
        ← ih hbefore]
      cases hreq : requestOf sj clock sent n with
      | none => rfl
      | some e => exact Ledger.step_of_not_concerns (hlast e hreq) _

/-- The turn of a ban: the address stands under it from then on, or, if
the table was full, under no ban at all. -/
theorem blocks_after_ban {c : Nat} {target : String} {ttl : Option UInt64}
    {ip : Ipv4Addr} (hip : Ipv4Addr.fromStr target = some ip)
    (hreq : requestOf sj clock sent c
      = some (.request (.ban target ttl) (clock c))) (ktime : Nat) :
    (Ledger.after (requestsOf sj clock sent (c + 1))).Blocks ip ktime
      ↔ (Ledger.after (requestsOf sj clock sent c)).Effective ip
        ∧ (Ledger.askedEnd (clock c) ttl = 0
          ∨ ktime ≤ Ledger.askedEnd (clock c) ttl) := by
  have hturn : Ledger.after (requestsOf sj clock sent (c + 1))
      = (Ledger.after (requestsOf sj clock sent c)).step
        (.request (.ban target ttl) (clock c)) := by
    rw [requestsOf_succ, hreq, Ledger.after, List.foldl_append]
    rfl
  generalize Ledger.after (requestsOf sj clock sent c) = l at hturn ⊢
  rw [hturn, Ledger.step, hip]
  by_cases heff : l.Effective ip
  · simp only [heff, if_true, true_and]
    constructor
    · rintro ⟨endTime, hl, hend⟩
      rw [Function.update_self] at hl
      obtain rfl : Ledger.askedEnd (clock c) ttl = endTime := by
        injection hl with hl
        injection hl
      exact hend
    · intro hend
      exact ⟨_, Function.update_self .., hend⟩
  · simp only [heff, if_false, false_and, iff_false]
    rintro ⟨endTime, hl, -⟩
    -- an address under a ban has its entry, and a ban of it takes effect
    refine heff (Or.inl ?_)
    show (l.endTime? ip).isSome
    rw [Ledger.endTime?, hl]
    rfl

/-- A ban that printed "Success" named an address, and had its turn. -/
theorem turn_of_success {s : Loop} (hs : Reachable nt sj clock s) {c : Nat}
    {target : String} {ttl : Option UInt64} {eof : String}
    (htarget : target.utf8ByteSize ≤ 131071)
    (hsent : s.sent c = putFrame (sj.requestToVec (.ban target ttl)))
    (hok : sendCommand sj (.ofConn (s.conns c) eof) (.ban target ttl)
      = .ok ["Success"]) :
    ∃ ip, Ipv4Addr.fromStr target = some ip ∧ c < s.served
      ∧ requestOf sj clock s.sent c
        = some (.request (.ban target ttl) (clock c)) := by
  have hbody : Fits32 (sj.requestToVec (.ban target ttl)) :=
    @request_fits32 sj (.ban target ttl) _ rfl htarget
  have htx := hs.inv.written c
  rw [reply_request hbody hsent] at htx
  have hsend := @sendCommand_of_start sj (s.conns c) eof (.ban target ttl)
    _ _ _ rfl hsent (response_fits32 sj (dispatch_small _ _ _))
    (sj.response_roundTrip _) htx
  rw [hok] at hsend
  split at hsend
  · rename_i hwhole
    cases hip : Ipv4Addr.fromStr target with
    | none =>
        rw [dispatch_ban_invalid hip] at hsend
        simp [printed] at hsend
    | some ip =>
        refine ⟨ip, rfl, ?_, ?_⟩
        · by_contra hnot
          rw [hs.inv.silent c (Nat.le_of_not_lt hnot), putFrame_eq] at hwhole
          simp [u32ToBeBytes] at hwhole
        · have hvalid : DaemonRequest.valid (.ban target ttl) = true := by
            rw [DaemonRequest.valid, hip]
            rfl
          rw [requestOf, validRequest_request hbody hsent, if_pos hvalid]
          rfl
  · split at hsend <;> cases hsend

end Success

/-- In every state of every interleaving, for a `ban` that printed
"Success": its target is an address, and as long as no connection served
after it asks for anything for that address, a complete frame from there
is dropped exactly when the address had an entry or one was free in the
turn of the ban, and the end time it asked for is not past. -/
theorem success_drops_iff (nt : NetworkTypes) (sj : SerdeJson)
    (clock : Nat → Option Int64) (s : Loop) (hs : Reachable nt sj clock s)
    (c : Nat) (target : String) (ttl : Option UInt64) (eof : String)
    (htarget : target.utf8ByteSize ≤ 131071)
    (hsent : s.sent c = putFrame (sj.requestToVec (.ban target ttl)))
    (hok : sendCommand sj (.ofConn (s.conns c) eof) (.ban target ttl)
      = .ok ["Success"]) :
    ∃ ip : Ipv4Addr, target = ip.toText
      ∧ (Undisturbed sj clock s.sent ip (c + 1) s.served →
        ∀ (ctx : XdpContext) (ktime : Nat), ctx.Complete → ctx.source = ip →
          ((s.guard.step nt (.frame ctx ktime)).2 = .verdict .drop
            ↔ (Ledger.after (requestsOf sj clock s.sent c)).Effective ip
              ∧ (Ledger.askedEnd (clock c) ttl = 0
                ∨ ktime ≤ Ledger.askedEnd (clock c) ttl))) := by
  obtain ⟨ip, hip, hserved, hreq⟩ := turn_of_success hs htarget hsent hok
  refine ⟨ip, Ipv4Addr.fromStr_eq_some_iff.mp hip, ?_⟩
  rintro hquiet ctx ktime hctx rfl
  have hkept := ledger_undisturbed hserved hquiet
  rw [← blocks_after_ban hip hreq ktime, Ledger.Blocks, ← hkept]
  exact dropped_iff hs hctx ktime

theorem success_drops_iff_first :
    ∃ s, Reachable networkTypes serdeJson (fun _ => none) s
      ∧ sendCommand serdeJson
          (.ofConn (s.conns 0) "unexpected end of file")
          (.ban "10.0.0.1" none) = .ok ["Success"]
      ∧ (s.guard.step networkTypes
        (.frame (frameFrom ⟨10, 0, 0, 1⟩ 6 54) 7)).2 = .verdict .drop := by
  have hrun : (Machine.exec
      (Loop.apply networkTypes serdeJson fun _ => none) .init
      [.connect, .deliver 0 (putFrame (serdeJson.requestToVec
          (.ban "10.0.0.1" none))),
        .accept, .readLen, .readBody, .dispatch, .writeLen, .writeBody,
        .flush]).map (fun s => (s.served, s.sent 0, (s.conns 0).tx))
      = some (1, putFrame (serdeJson.requestToVec (.ban "10.0.0.1" none)),
        putFrame (serdeJson.responseToVec .ok)) := by
    decide
  obtain ⟨s, hs, hfacts⟩ := Option.map_eq_some_iff.mp hrun
  obtain ⟨hserved, hsent, htx⟩ : s.served = 1
      ∧ s.sent 0 = putFrame (serdeJson.requestToVec (.ban "10.0.0.1" none))
      ∧ (s.conns 0).tx = putFrame (serdeJson.responseToVec .ok) := by
    simpa only [Prod.mk.injEq] using hfacts
  have hreach : Reachable networkTypes serdeJson (fun _ => none) s :=
    .of_exec (fun _ _ => trivial) hs
  have hok : sendCommand serdeJson
      (.ofConn (s.conns 0) "unexpected end of file") (.ban "10.0.0.1" none)
      = .ok ["Success"] := by
    rw [Socket.ofConn, htx, ← Loop.sent, hsent]
    decide
  obtain ⟨ip, htext, hdrop⟩ := success_drops_iff networkTypes serdeJson
    (fun _ => none) s hreach 0 "10.0.0.1" none _ (by decide) hsent hok
  obtain rfl : ip = ⟨10, 0, 0, 1⟩ :=
    Ipv4Addr.toText_injective (htext.symm.trans (by decide))
  refine ⟨s, hreach, hok, (hdrop ?_ _ 7 (by decide) rfl).mpr ⟨?_, ?_⟩⟩
  · intro c' hc' hn
    omega
  · exact Ledger.effective_init _
  · exact Or.inl rfl

end RustGuard
