/-
The framed exchange is faithful, there and back.

Two programs write and read the same frame with code of their own, and
both cast a length to 32 bits. What can go wrong is a length that does
not fit, and it does not go wrong because both messages are short: a
request, because the kernel limits the one string the user supplies and
JSON escapes grow it sixfold at most; a response, because it is either a
fixed text, a counter, or the keys of a table that holds 1024. The bound
on the table is a field of the map, so it holds of every state with
nothing to prove about histories.
-/
import RustGuard.Client
import RustGuard.Proofs.Dispatch

namespace RustGuard

open Lib Lib.Json

-- ============================================================ the sizes

/-- The string the user supplies, if the command takes one. -/
def Commands.target : Commands → String
  | .ban target _ => target
  | .unban target => target
  | _ => ""

/-- A length of 1 to `2^32 - 1` survives the cast. -/
def Fits32 (body : List UInt8) : Prop :=
  0 < body.length ∧ body.length < 2 ^ 32
    ∧ (UInt32.ofNat body.length).toNat = body.length

theorem fits32_of_lt {body : List UInt8} (hpos : 0 < body.length)
    (hlt : body.length < 2 ^ 32) : Fits32 body := by
  refine ⟨hpos, hlt, ?_⟩
  rw [UInt32.toNat_ofNat']
  exact Nat.mod_eq_of_lt hlt

/-- The bytes of a `u64` in decimal. -/
theorem utf8ByteSize_repr_u64 (n : UInt64) :
    (Nat.repr n.toNat).utf8ByteSize ≤ 20 := by
  have hlt : n.toNat < 2 ^ 64 := n.toNat_lt
  rw [utf8ByteSize_repr, Nat.length_toDigits_le_iff (by omega) (by omega)]
  omega

theorem utf8ByteSize_ttlText (ttl : Option UInt64) :
    (ttlText ttl).utf8ByteSize ≤ 20 := by
  cases ttl with
  | none => decide
  | some t => exact utf8ByteSize_repr_u64 t

/-- Every request a command can make is short. -/
theorem request_fits32 (sj : SerdeJson) {cmd : Commands}
    {req : DaemonRequest} (hreq : cmd.request = some req)
    (htarget : cmd.target.utf8ByteSize ≤ 131071) :
    Fits32 (sj.requestToVec req) := by
  have hstr := sj.utf8ByteSize_str cmd.target
  suffices hsize : 0 < (requestText sj.str req).utf8ByteSize
      ∧ (requestText sj.str req).utf8ByteSize < 2 ^ 32 from
    fits32_of_lt hsize.1 hsize.2
  cases cmd with
  | daemon iface => cases hreq
  | monitor => cases hreq
  | list =>
      cases hreq
      show 0 < "\"List\"".utf8ByteSize ∧ "\"List\"".utf8ByteSize < 2 ^ 32
      decide
  | stats =>
      cases hreq
      show 0 < "\"Stats\"".utf8ByteSize ∧ "\"Stats\"".utf8ByteSize < 2 ^ 32
      decide
  | ban target ttl =>
      cases hreq
      have httl := utf8ByteSize_ttlText ttl
      have htag : "\x7b\"Ban\":\x7b\"target\":".utf8ByteSize = 17 := by decide
      have hsep : ",\"ttl\":".utf8ByteSize = 7 := by decide
      have hend : "\x7d\x7d".utf8ByteSize = 2 := by decide
      unfold requestText
      simp only [String.utf8ByteSize_append, htag, hsep, hend]
      simp only [Commands.target] at hstr htarget
      omega
  | unban target =>
      cases hreq
      have htag : "\x7b\"Unban\":\x7b\"target\":".utf8ByteSize = 19 := by
        decide
      have hend : "\x7d\x7d".utf8ByteSize = 2 := by decide
      unfold requestText
      simp only [String.utf8ByteSize_append, htag, hend]
      simp only [Commands.target] at hstr htarget
      omega

/-- What the texts and lists of a response are bounded by. -/
def DaemonResponse.Small : DaemonResponse → Prop
  | .ok => True
  | .error message => message.utf8ByteSize ≤ 37
  | .list items => items.length ≤ maxEntries
      ∧ ∀ item ∈ items, item.utf8ByteSize ≤ 15
  | .stats text => text.utf8ByteSize ≤ 37

/-- Every response is, in every state: a `List` because the table is
bounded. -/
theorem dispatch_small (g : Guard) (utc : Option Int64)
    (req : DaemonRequest) : (dispatch g utc req).2.Small := by
  have harm := dispatch_arm g utc req
  generalize dispatch g utc req = r at harm ⊢
  cases harm with
  | ban hip | unban hip => trivial
  | banInvalid hip | unbanInvalid hip =>
      show "invalid ip".utf8ByteSize ≤ 37
      decide
  | list =>
      constructor
      · rw [List.length_map]
        exact g.bannedIps.size_le
      · intro item hitem
        obtain ⟨key, -, rfl⟩ := List.mem_map.mp hitem
        exact Ipv4Addr.utf8ByteSize_toText _
  | counted hget =>
      rename_i v
      have hrepr := utf8ByteSize_repr_u64 v.packetsDropped
      have htext : "Packets dropped: ".utf8ByteSize = 17 := by decide
      show (_ ++ _ : String).utf8ByteSize ≤ 37
      rw [String.utf8ByteSize_append, htext]
      omega
  | noStats hget =>
      show "No stats".utf8ByteSize ≤ 37
      decide

/-- A bounded response is short on the wire. -/
theorem response_fits32 (sj : SerdeJson) {resp : DaemonResponse}
    (h : resp.Small) : Fits32 (sj.responseToVec resp) := by
  suffices hsize : 0 < (responseText sj.str resp).utf8ByteSize
      ∧ (responseText sj.str resp).utf8ByteSize < 2 ^ 32 from
    fits32_of_lt hsize.1 hsize.2
  have hend : "\x7d".utf8ByteSize = 1 := by decide
  cases resp with
  | ok =>
      show 0 < "\"Ok\"".utf8ByteSize ∧ "\"Ok\"".utf8ByteSize < 2 ^ 32
      decide
  | error message =>
      have hstr := sj.utf8ByteSize_str message
      have hmessage : message.utf8ByteSize ≤ 37 := h
      have htag : "\x7b\"Error\":".utf8ByteSize = 9 := by decide
      unfold responseText
      simp only [String.utf8ByteSize_append, htag, hend]
      omega
  | stats text =>
      have hstr := sj.utf8ByteSize_str text
      have htext : text.utf8ByteSize ≤ 37 := h
      have htag : "\x7b\"Stats\":".utf8ByteSize = 9 := by decide
      unfold responseText
      simp only [String.utf8ByteSize_append, htag, hend]
      omega
  | list items =>
      obtain ⟨hlen, hitems⟩ := h
      rw [maxEntries] at hlen
      have harray : (array (items.map sj.str)).utf8ByteSize
          ≤ (items.map sj.str).length * (92 + 1) + 2 := by
        refine utf8ByteSize_array fun text htext => ?_
        obtain ⟨item, hitem, rfl⟩ := List.mem_map.mp htext
        have hstr := sj.utf8ByteSize_str item
        have hsize := hitems item hitem
        omega
      have htag : "\x7b\"List\":".utf8ByteSize = 8 := by decide
      rw [List.length_map] at harray
      unfold responseText
      simp only [String.utf8ByteSize_append, htag, hend]
      omega

-- ===================================================== there and back

/-- The daemon reads from the client's frame the body that is in it. -/
theorem body?_putFrame {body : List UInt8} (h : Fits32 body) :
    body? (putFrame body) = some body := by
  have htake := takeFrame_putFrame [] h.2.1
  rw [List.append_nil] at htake
  rw [body?, htake]
  rfl

/-- A serialized request is dispatched as the request it was. -/
theorem handle_requestToVec (sj : SerdeJson) (g : Guard)
    (utc : Option Int64) (req : DaemonRequest) :
    handle sj g utc (sj.requestToVec req) = dispatch g utc req := by
  rw [handle, SerdeJson.requestToVec, sj.request_roundTrip]

section Stream

variable {sj : SerdeJson} {respond : List UInt8 → List UInt8}
  {eof : String}

/-- What is on the stream when `send_command` begins to read: its request,
in one frame. -/
theorem sendCommand_reliable {cmd : Commands} {req : DaemonRequest}
    (hreq : cmd.request = some req) :
    sendCommand sj (.reliable respond eof) cmd
      = receiveResponse sj
        ⟨.reliable respond eof, putFrame (sj.requestToVec req), 0⟩ := by
  unfold sendCommand
  rw [hreq]
  rfl

/-- Before the first read all of the answer is there. Stated on its own
so that nobody has to evaluate a stream to see it. -/
theorem rest_reliable (written : List UInt8) :
    (UnixStream.mk (.reliable respond eof) written 0).rest
      = respond written := rfl

/-- No length without four bytes. -/
theorem readU32_short {stream : UnixStream} (h : stream.rest.length < 4) :
    stream.readU32 = .error stream.soket.eof := by
  unfold UnixStream.readU32
  match stream.rest, h with
  | [], _ | [_], _ | [_, _], _ | [_, _, _], _ => rfl
  | a :: b :: c :: d :: rest, h =>
      simp only [List.length_cons] at h
      omega

/-- With four bytes of a frame, its length, and then what there is of its
body. -/
theorem readU32_frame {stream : UnixStream} {body part : List UInt8}
    (h : stream.rest = u32ToBeBytes (UInt32.ofNat body.length) ++ part) :
    ∃ stream', stream.readU32 = .ok (UInt32.ofNat body.length, stream')
      ∧ stream'.rest = part := by
  refine ⟨{ stream with taken := stream.taken + 4 }, ?_, ?_⟩
  · rw [UnixStream.readU32, h, u32ToBeBytes]
    simp only [List.cons_append, u32FromBeBytes_byte]
  · unfold UnixStream.rest at h ⊢
    rw [← List.drop_drop, h]
    rfl

/-- The length of a body that fits is not zero, which would be an empty
response. -/
theorem Fits32.cast_ne_zero {body : List UInt8} (h : Fits32 body) :
    UInt32.ofNat body.length ≠ 0 := by
  obtain ⟨hpos, -, hcast⟩ := h
  intro hzero
  rw [hzero, UInt32.toNat_zero] at hcast
  omega

/-- Once the length is there, it is a matter of how much of the body
is. -/
theorem receiveResponse_body {stream : UnixStream} {body part : List UInt8}
    (hrest : stream.rest = u32ToBeBytes (UInt32.ofNat body.length) ++ part)
    (hbody : Fits32 body) :
    receiveResponse sj stream
      = if part.length < body.length then
          .error "failed to read full response body"
        else (sj.responseFromSlice (part.take body.length)).map printed := by
  obtain ⟨stream', hlen, hrest'⟩ := readU32_frame hrest
  unfold receiveResponse
  rw [hlen]
  show (if UInt32.ofNat body.length = 0 then _ else _) = _
  rw [if_neg hbody.cast_ne_zero, UnixStream.readExact, hrest', hbody.2.2]
  by_cases hcut : part.length < body.length
  · rw [if_pos hcut, if_pos hcut]
    rfl
  · rw [if_neg hcut, if_neg hcut]
    rfl

/-- A whole frame: the client prints the response in it. -/
theorem receiveResponse_frame {stream : UnixStream} {body : List UInt8}
    {resp : DaemonResponse} (hrest : stream.rest = putFrame body)
    (hbody : Fits32 body) (hresp : sj.responseFromSlice body = .ok resp) :
    receiveResponse sj stream = .ok (printed resp) := by
  rw [receiveResponse_body (hrest.trans (putFrame_eq body)) hbody,
    if_neg (Nat.lt_irrefl _), List.take_length, hresp]
  rfl

/-- Less than a length: the error of the read. -/
theorem receiveResponse_short {stream : UnixStream}
    (h : stream.rest.length < 4) :
    receiveResponse sj stream
      = .error ("failed to read response length from daemon: "
        ++ stream.soket.eof) := by
  unfold receiveResponse
  rw [readU32_short h]
  rfl

end Stream

/-- What the daemon sends back to a request is its own response, in a
frame. -/
theorem serve_requestToVec (sj : SerdeJson) (g : Guard)
    (utc : Option Int64) {req : DaemonRequest}
    (hbody : Fits32 (sj.requestToVec req)) :
    (serve sj g utc (putFrame (sj.requestToVec req))).2
      = putFrame (sj.responseToVec (dispatch g utc req).2) := by
  rw [serve, body?_putFrame hbody]
  show putFrame (sj.responseToVec
    (handle sj g utc (sj.requestToVec req)).2) = _
  rw [handle_requestToVec]

/-- For every command and every state the daemon can be in, over a socket
without I/O errors: both bodies have a length that the cast keeps;
whatever is at the other end is given the request in one frame; the
daemon gets the body the client wrote, and decodes the request the client
built; the client decodes the response the daemon built, and prints
it. -/
theorem exchange_faithful (nt : NetworkTypes) (sj : SerdeJson)
    (history : List Event) (utc : Option Int64) (eof : String)
    (cmd : Commands) (req : DaemonRequest) (hreq : cmd.request = some req)
    (htarget : cmd.target.utf8ByteSize ≤ 131071) :
    Fits32 (sj.requestToVec req)
    ∧ (∀ respond, sendCommand sj (.reliable respond eof) cmd
      = receiveResponse sj
        ⟨.reliable respond eof, putFrame (sj.requestToVec req), 0⟩)
    ∧ body? (putFrame (sj.requestToVec req)) = some (sj.requestToVec req)
    ∧ sj.requestFromSlice (sj.requestToVec req) = .ok req
    ∧ handle sj (Guard.run nt history) utc (sj.requestToVec req)
      = dispatch (Guard.run nt history) utc req
    ∧ Fits32 (sj.responseToVec
        (dispatch (Guard.run nt history) utc req).2)
    ∧ sj.responseFromSlice (sj.responseToVec
        (dispatch (Guard.run nt history) utc req).2)
      = .ok (dispatch (Guard.run nt history) utc req).2
    ∧ sendCommand sj (.ofDaemon sj (Guard.run nt history) utc eof) cmd
      = .ok (printed (dispatch (Guard.run nt history) utc req).2) := by
  have hbody := request_fits32 sj hreq htarget
  have hresp := response_fits32 sj
    (dispatch_small (Guard.run nt history) utc req)
  refine ⟨hbody, fun _ => sendCommand_reliable hreq, body?_putFrame hbody,
    sj.request_roundTrip req, handle_requestToVec sj _ utc req, hresp,
    sj.response_roundTrip _, ?_⟩
  rw [Socket.ofDaemon, sendCommand_reliable hreq]
  refine receiveResponse_frame ?_ hresp (sj.response_roundTrip _)
  rw [rest_reliable, serve_requestToVec sj _ utc hbody]

theorem exchange_faithful_ban :
    Commands.target (.ban "10.0.0.1" (some 60)) = "10.0.0.1"
    ∧ sendCommand serdeJson (.ofDaemon serdeJson
        (Guard.run networkTypes []) none "unexpected end of file")
        (.ban "10.0.0.1" (some 60))
      = .ok ["Success"] := by
  obtain ⟨-, -, -, -, -, -, -, hsend⟩ := exchange_faithful networkTypes
    serdeJson [] none "unexpected end of file" (.ban "10.0.0.1" (some 60))
    (.ban "10.0.0.1" (some 60)) rfl (by decide)
  rw [@dispatch_ban _ _ _ ⟨10, 0, 0, 1⟩ _ (by decide)] at hsend
  exact ⟨rfl, hsend⟩

end RustGuard
