/-
What the accept loop is for, in its own terms: a daemon that never saw a
socket, only what each client sent in the end.

`tableAfter` is its table: the valid requests of the first `n`
connections, each applied once, in accept order. A connection's request
is what its FIRST frame decodes to (`validRequest`), however the bytes
were cut up on the way; a connection that hangs up early, sends no JSON
or names no address has none. `reply` is what it sends back.

Both look at a connection through `body?` alone, and that is why a byte
behind the first frame can have no effect (`tableAfter_congr`,
`reply_congr`). Proofs/Interleaving.lean shows that the loop is this
daemon, whatever its clients do.
-/
import RustGuard.Accept
import RustGuard.Proofs.Dispatch

namespace RustGuard

open Lib

-- ===================================================== the ideal daemon

/-- A `Ban` or an `Unban` has to name an address. -/
def DaemonRequest.valid : DaemonRequest → Bool
  | .ban target _ => (Ipv4Addr.fromStr target).isSome
  | .unban target => (Ipv4Addr.fromStr target).isSome
  | .list => true
  | .stats => true

/-- The valid request the bytes of a connection make. -/
def validRequest (sj : SerdeJson) (bytes : List UInt8) :
    Option DaemonRequest :=
  match (body? bytes).map sj.requestFromSlice with
  | some (.ok req) => if req.valid then some req else none
  | _ => none

/-- The table a request leaves. -/
def applyRequest (table : BannedIps) (utc : Option Int64)
    (req : DaemonRequest) : BannedIps :=
  (dispatch ⟨table, .empty⟩ utc req).1.bannedIps

section Ideal

variable (sj : SerdeJson) (clock : Nat → Option Int64)
  (sent : Nat → List UInt8)

/-- The valid requests of the first `n` connections, applied in order. -/
def tableAfter (n : Nat) : BannedIps :=
  ((List.range n).filterMap fun c =>
      (validRequest sj (sent c)).map fun req => (clock c, req)).foldl
    (fun table (utc, req) => applyRequest table utc req) .empty

/-- What connection `c` is sent back: nothing before its frame is
complete, then the response to it from the table of all before. -/
def reply (c : Nat) : List UInt8 :=
  (serve sj ⟨tableAfter sj clock sent c, .empty⟩ (clock c) (sent c)).2

end Ideal

-- ====================================================== the first frame

/-- Bytes behind a complete frame do not change it. -/
theorem body?_append {bytes buf : List UInt8} (more : List UInt8)
    (h : body? bytes = some buf) : body? (bytes ++ more) = some buf := by
  obtain ⟨⟨body, rest⟩, htake, rfl⟩ := Option.map_eq_some_iff.mp h
  rw [body?, takeFrame_append more htake]
  rfl

/-- A complete frame has been announced. -/
theorem body?_cons (a b c d : UInt8) {rest : List UInt8}
    (h : (u32FromBeBytes a b c d).toNat ≤ rest.length) :
    body? (a :: b :: c :: d :: rest)
      = some (rest.take (u32FromBeBytes a b c d).toNat) := by
  rw [body?, takeFrame_cons a b c d h]
  rfl

/-- No frame without a length. -/
theorem body?_short {bytes : List UInt8} (h : bytes.length < 4) :
    body? bytes = none := by
  match bytes with
  | [] | [_] | [_, _] | [_, _, _] => rfl
  | a :: b :: c :: d :: rest =>
      simp only [List.length_cons] at h
      omega

/-- No frame without the bytes it announced. -/
theorem body?_cons_short (a b c d : UInt8) {rest : List UInt8}
    (h : rest.length < (u32FromBeBytes a b c d).toNat) :
    body? (a :: b :: c :: d :: rest) = none := by
  rw [body?, takeFrame, if_neg (Nat.not_le_of_lt h)]
  rfl

-- ==================================================== one more request

section Table

variable {sj : SerdeJson} {clock : Nat → Option Int64}

/-- The table of one connection more. -/
theorem tableAfter_succ (sent : Nat → List UInt8) (n : Nat) :
    tableAfter sj clock sent (n + 1)
      = match validRequest sj (sent n) with
        | some req =>
            applyRequest (tableAfter sj clock sent n) (clock n) req
        | none => tableAfter sj clock sent n := by
  rw [tableAfter, List.range_succ, List.filterMap_append, List.foldl_append]
  cases hreq : validRequest sj (sent n) with
  | none => simp [hreq, tableAfter]
  | some req => simp [hreq, tableAfter]

/-- Only the first frames of the connections matter. -/
theorem tableAfter_congr {sent sent' : Nat → List UInt8} {n : Nat}
    (h : ∀ c < n, body? (sent' c) = body? (sent c)) :
    tableAfter sj clock sent' n = tableAfter sj clock sent n := by
  induction n with
  | zero => rfl
  | succ n ih =>
      have hn := h n (Nat.lt_succ_self n)
      rw [tableAfter_succ, tableAfter_succ,
        ih fun c hc => h c (Nat.lt_succ_of_lt hc), validRequest, hn]
      rfl

theorem reply_congr {sent sent' : Nat → List UInt8} {c : Nat}
    (h : ∀ b ≤ c, body? (sent' b) = body? (sent b)) :
    reply sj clock sent' c = reply sj clock sent c := by
  have htable : tableAfter sj clock sent' c = tableAfter sj clock sent c :=
    tableAfter_congr fun b hb => h b (Nat.le_of_lt hb)
  rw [reply, reply, serve, serve, h c (Nat.le_refl c), htable]

/-- What a request does to the table does not depend on the counter. -/
theorem dispatch_bannedIps (g : Guard) (utc : Option Int64)
    (req : DaemonRequest) :
    (dispatch g utc req).1.bannedIps
      = applyRequest g.bannedIps utc req := by
  rw [applyRequest]
  cases req with
  | list => rfl
  | stats => rw [dispatch_stats, dispatch_stats]
  | ban target ttl =>
      cases hip : Ipv4Addr.fromStr target with
      | none => rw [dispatch_ban_invalid hip, dispatch_ban_invalid hip]
      | some ip => rw [dispatch_ban hip, dispatch_ban hip]
  | unban target =>
      cases hip : Ipv4Addr.fromStr target with
      | none => rw [dispatch_unban_invalid hip, dispatch_unban_invalid hip]
      | some ip => rw [dispatch_unban hip, dispatch_unban hip]

/-- A request that names no address leaves the table alone. -/
theorem applyRequest_of_not_valid {req : DaemonRequest}
    (h : req.valid = false) (table : BannedIps) (utc : Option Int64) :
    applyRequest table utc req = table := by
  rw [applyRequest]
  cases req with
  | list => rfl
  | stats => rw [dispatch_stats]
  | ban target ttl =>
      have hip : Ipv4Addr.fromStr target = none :=
        Option.isSome_eq_false_iff.mp h |> Option.isNone_iff_eq_none.mp
      rw [dispatch_ban_invalid hip]
  | unban target =>
      have hip : Ipv4Addr.fromStr target = none :=
        Option.isSome_eq_false_iff.mp h |> Option.isNone_iff_eq_none.mp
      rw [dispatch_unban_invalid hip]

/-- The response to a request does not depend on the counter either, as
long as there is none. -/
theorem dispatch_response {g : Guard} (h : g.stats.get? 0 = none)
    (utc : Option Int64) (req : DaemonRequest) :
    (dispatch g utc req).2
      = (dispatch ⟨g.bannedIps, .empty⟩ utc req).2 := by
  cases req with
  | list => rfl
  | stats =>
      rw [dispatch, dispatch, h]
      rfl
  | ban target ttl =>
      cases hip : Ipv4Addr.fromStr target with
      | none => rw [dispatch_ban_invalid hip, dispatch_ban_invalid hip]
      | some ip => rw [dispatch_ban hip, dispatch_ban hip]
  | unban target =>
      cases hip : Ipv4Addr.fromStr target with
      | none => rw [dispatch_unban_invalid hip, dispatch_unban_invalid hip]
      | some ip => rw [dispatch_unban hip, dispatch_unban hip]

/-- The loop's dispatch is the ideal daemon's. -/
theorem handle_ideal {g : Guard} {sent : Nat → List UInt8} {c : Nat}
    {buf : List UInt8} (hbuf : body? (sent c) = some buf)
    (htable : g.bannedIps = tableAfter sj clock sent c)
    (hstats : g.stats.get? 0 = none) :
    (handle sj g (clock c) buf).1.bannedIps
        = tableAfter sj clock sent (c + 1)
      ∧ putFrame (sj.responseToVec (handle sj g (clock c) buf).2)
        = reply sj clock sent c := by
  rw [tableAfter_succ, validRequest, reply, serve, hbuf]
  unfold handle
  simp only [Option.map_some]
  cases sj.requestFromSlice buf with
  | error e => exact ⟨htable, rfl⟩
  | ok req =>
      constructor
      · cases hvalid : req.valid with
        | true => simp [dispatch_bannedIps, htable, hvalid]
        | false =>
            simp [dispatch_bannedIps, htable, hvalid,
              applyRequest_of_not_valid hvalid]
      · rw [dispatch_response hstats, htable]

end Table

end RustGuard
