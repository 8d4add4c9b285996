/-
What a command may conclude from what it prints.

A client of the accept loop sees its own connection and nothing else: it
sends one frame and reads until the daemon lets go of the stream. Other
clients come before and after it, and the daemon's write may fail at any
byte. `command_outcome` says what is left to conclude. The request has
been applied once, in its turn, in every case. The command prints the
response of that turn if it got all of it, and otherwise one of two
errors, whatever the text of a read that meets the end; so "Success" is
never wrong, and an error says nothing about whether the ban took
effect.

All commands of a run speak of the same turns (`tableAfter`), so what
they print is what one command after the other would have printed.
-/
import RustGuard.Proofs.Serial
import RustGuard.Proofs.Exchange

namespace RustGuard

open Lib

-- ========================================================== the client

/-- A connection the daemon is done with, as its client sees it: what
was written to the bytes it has sent, and then the end. -/
def Socket.ofConn (conn : Conn) (eof : String) : Socket :=
  .reliable (fun written => if written = conn.sent then conn.tx else []) eof

/-- What `send_command` makes of the beginning of a frame that comes back
to its request. -/
theorem sendCommand_of_start {sj : SerdeJson} {conn : Conn} {eof : String}
    {cmd : Commands} {req : DaemonRequest} {body : List UInt8}
    {resp : DaemonResponse} (hreq : cmd.request = some req)
    (hsent : conn.sent = putFrame (sj.requestToVec req))
    (hbody : Fits32 body) (hresp : sj.responseFromSlice body = .ok resp)
    (htx : conn.tx <+: putFrame body) :
    sendCommand sj (.ofConn conn eof) cmd
      = if conn.tx = putFrame body then .ok (printed resp)
        else if conn.tx.length < 4 then
          .error ("failed to read response length from daemon: " ++ eof)
        else .error "failed to read full response body" := by
  rw [Socket.ofConn, sendCommand_reliable hreq]
  generalize hstream : UnixStream.mk _ (putFrame (sj.requestToVec req)) 0
    = stream
  have hrest : stream.rest = conn.tx := by
    rw [← hstream, rest_reliable, if_pos hsent.symm]
  have heof : stream.soket.eof = eof := by
    rw [← hstream]
    rfl
  by_cases hwhole : conn.tx = putFrame body
  · rw [if_pos hwhole]
    exact receiveResponse_frame (hrest.trans hwhole) hbody hresp
  rw [if_neg hwhole]
  rcases Nat.lt_or_ge conn.tx.length 4 with hshort | hlong
  · rw [if_pos hshort, receiveResponse_short (hrest ▸ hshort), heof]
  · rw [if_neg (Nat.not_lt_of_le hlong)]
    -- four bytes of the frame are its length
    rw [putFrame_eq] at htx hwhole
    obtain ⟨part, hpart⟩ : u32ToBeBytes (UInt32.ofNat body.length)
        <+: conn.tx :=
      List.prefix_of_prefix_length_le (List.prefix_append ..) htx hlong
    rw [← hpart] at htx hwhole
    have hbegin : part <+: body := (List.prefix_append_right_inj _).mp htx
    have hcut : part.length < body.length := by
      refine lt_of_le_of_ne hbegin.length_le fun heq => hwhole ?_
      rw [hbegin.eq_of_length heq]
    rw [receiveResponse_body (hrest.trans hpart.symm) hbody, if_pos hcut]

-- ========================================================= the turn

/-- A connection that carries one request asks for it, if it is valid. -/
theorem validRequest_request {sj : SerdeJson} {bytes : List UInt8}
    {req : DaemonRequest} (hbody : Fits32 (sj.requestToVec req))
    (hsent : bytes = putFrame (sj.requestToVec req)) :
    validRequest sj bytes = if req.valid then some req else none := by
  have hdecode : sj.requestFromSlice (sj.requestToVec req) = .ok req :=
    sj.request_roundTrip req
  rw [validRequest, hsent, body?_putFrame hbody, Option.map_some, hdecode]

/-- And has the turn of that request. -/
theorem tableAfter_request {sj : SerdeJson} {clock : Nat → Option Int64}
    {sent : Nat → List UInt8} {c : Nat} {req : DaemonRequest}
    (hbody : Fits32 (sj.requestToVec req))
    (hsent : sent c = putFrame (sj.requestToVec req)) :
    tableAfter sj clock sent (c + 1)
      = applyRequest (tableAfter sj clock sent c) (clock c) req := by
  rw [tableAfter_succ, validRequest_request hbody hsent]
  cases hreq : req.valid with
  | true => rfl
  | false => exact (applyRequest_of_not_valid hreq _ _).symm

/-- The reply to it is the response of that turn. -/
theorem reply_request {sj : SerdeJson} {clock : Nat → Option Int64}
    {sent : Nat → List UInt8} {c : Nat} {req : DaemonRequest}
    (hbody : Fits32 (sj.requestToVec req))
    (hsent : sent c = putFrame (sj.requestToVec req)) :
    reply sj clock sent c = putFrame (sj.responseToVec
      (dispatch ⟨tableAfter sj clock sent c, .empty⟩ (clock c) req).2) := by
  rw [reply, serve, hsent, body?_putFrame hbody]
  show putFrame (sj.responseToVec (handle sj _ _ (sj.requestToVec req)).2) = _
  rw [handle_requestToVec]

/-- In every state of every interleaving, for a command whose connection
the daemon is done with: its request was applied once, in its turn, to
the table of those before it; and the command prints the response of
that turn if all of it arrived, and one of two errors if not. -/
theorem command_outcome (nt : NetworkTypes) (sj : SerdeJson)
    (clock : Nat → Option Int64) (s : Loop) (hs : Reachable nt sj clock s)
    (c : Nat) (hc : c < s.stream) (eof : String) (cmd : Commands)
    (req : DaemonRequest) (hreq : cmd.request = some req)
    (htarget : cmd.target.utf8ByteSize ≤ 131071)
    (hsent : s.sent c = putFrame (sj.requestToVec req)) :
    tableAfter sj clock s.sent (c + 1)
      = applyRequest (tableAfter sj clock s.sent c) (clock c) req
    ∧ s.guard.bannedIps = tableAfter sj clock s.sent s.served
    ∧ c < s.served
    ∧ sendCommand sj (.ofConn (s.conns c) eof) cmd
      = if (s.conns c).tx = reply sj clock s.sent c then
          .ok (printed (dispatch ⟨tableAfter sj clock s.sent c, .empty⟩
            (clock c) req).2)
        else if (s.conns c).tx.length < 4 then
          .error ("failed to read response length from daemon: " ++ eof)
        else .error "failed to read full response body" := by
  have h := hs.inv
  have hbody := request_fits32 sj hreq htarget
  have hreply := @reply_request sj clock s.sent c req hbody hsent
  have hresp := response_fits32 sj (dispatch_small
    ⟨tableAfter sj clock s.sent c, .empty⟩ (clock c) req)
  refine ⟨tableAfter_request hbody hsent, h.table, ?_, ?_⟩
  · unfold Loop.served
    split <;> omega
  · have htx := h.written c
    rw [hreply] at htx ⊢
    exact sendCommand_of_start hreq hsent hresp (sj.response_roundTrip _)
      htx

/-- The daemon fails two bytes into the length of its response: the ban
stands, and the command says that it failed to read a length. -/
theorem command_outcome_lost :
    ∃ s, Reachable networkTypes serdeJson (fun _ => none) s
      ∧ tableAfter serdeJson (fun _ => none) s.sent 1
        = applyRequest .empty none (.ban "10.0.0.1" none)
      ∧ sendCommand serdeJson
          (.ofConn (s.conns 0) "unexpected end of file")
          (.ban "10.0.0.1" none)
        = .error ("failed to read response length from daemon: "
          ++ "unexpected end of file") := by
  have hrun : (Machine.exec
      (Loop.apply networkTypes serdeJson fun _ => none) .init
      [.connect, .deliver 0 (putFrame (serdeJson.requestToVec
          (.ban "10.0.0.1" none))),
        .accept, .readLen, .readBody, .dispatch, .writeLenErr 2]).map
      (fun s => (s.stream, s.sent 0, (s.conns 0).tx.length))
      = some (1, putFrame (serdeJson.requestToVec (.ban "10.0.0.1" none)),
        2) := by
    decide
  obtain ⟨s, hs, hfacts⟩ := Option.map_eq_some_iff.mp hrun
  obtain ⟨hstream, hsent, hlen⟩ : s.stream = 1
      ∧ s.sent 0 = putFrame (serdeJson.requestToVec (.ban "10.0.0.1" none))
      ∧ (s.conns 0).tx.length = 2 := by
    simpa only [Prod.mk.injEq] using hfacts
  have hreach : Reachable networkTypes serdeJson (fun _ => none) s :=
    .of_exec (fun _ _ => trivial) hs
  obtain ⟨htable, -, -, hsend⟩ := command_outcome networkTypes serdeJson
    (fun _ => none) s hreach 0 (by omega) "unexpected end of file"
    (.ban "10.0.0.1" none) (.ban "10.0.0.1" none) rfl (by decide) hsent
  refine ⟨s, hreach, htable, ?_⟩
  have hpart : (s.conns 0).tx ≠ reply serdeJson (fun _ => none) s.sent 0 := by
    intro heq
    have hlong := congrArg List.length heq
    rw [reply_request (@request_fits32 serdeJson (.ban "10.0.0.1" none) _
      rfl (by decide)) hsent, hlen] at hlong
    simp [putFrame] at hlong
  rw [hsend, if_neg hpart, if_pos (by omega)]

end RustGuard
