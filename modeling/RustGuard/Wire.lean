/-
The messages on the socket: compact JSON, one externally tagged value to
a frame.

# What is assumed of `serde_json`

The crate is not part of the repository, so it is a parameter. The
derived `Serialize` fixes the shape of a message up to the string
literals in it (`requestText`, `responseText`); `SerdeJson` holds the
writer of literals, the two readers, and the three facts the two programs
rely on: a literal grows by a factor of six at most, and a message reads
back as itself. Nothing is assumed of bytes that no writer wrote.

`serdeJson` is an instance: the escapes JSON prescribes, and readers for
exactly the texts the writers produce.
-/
import RustGuard.Daemon
import RustGuard.Lib.Json

namespace RustGuard

open Lib Lib.Json

-- ========================================================= the two texts

/-- A serialized `Option<u64>`. -/
def ttlText (ttl : Option UInt64) : String :=
  (ttl.map fun t => Nat.repr t.toNat).getD "null"

/-- A serialized `DaemonRequest`. -/
def requestText (str : String → String) : DaemonRequest → String
  | .ban target ttl =>
      "\x7b\"Ban\":\x7b\"target\":" ++ str target ++ ",\"ttl\":"
        ++ ttlText ttl ++ "\x7d\x7d"
  | .unban target =>
      "\x7b\"Unban\":\x7b\"target\":" ++ str target ++ "\x7d\x7d"
  | .list => "\"List\""
  | .stats => "\"Stats\""

/-- A serialized `DaemonResponse`. -/
def responseText (str : String → String) : DaemonResponse → String
  | .ok => "\"Ok\""
  | .error message => "\x7b\"Error\":" ++ str message ++ "\x7d"
  | .list items => "\x7b\"List\":" ++ array (items.map str) ++ "\x7d"
  | .stats text => "\x7b\"Stats\":" ++ str text ++ "\x7d"

/-- What the two programs use of `serde_json`; an error is its message. -/
structure SerdeJson where
  str : String → String
  requestFromSlice : List UInt8 → Except String DaemonRequest
  responseFromSlice : List UInt8 → Except String DaemonResponse
  utf8ByteSize_str : ∀ s, (str s).utf8ByteSize ≤ 6 * s.utf8ByteSize + 2
  request_roundTrip : ∀ req,
    requestFromSlice (utf8 (requestText str req)) = .ok req
  response_roundTrip : ∀ resp,
    responseFromSlice (utf8 (responseText str resp)) = .ok resp

/-- `serde_json::to_vec(&request)`. -/
def SerdeJson.requestToVec (sj : SerdeJson) (req : DaemonRequest) :
    List UInt8 :=
  utf8 (requestText sj.str req)

/-- `serde_json::to_vec(&resp)`. -/
def SerdeJson.responseToVec (sj : SerdeJson) (resp : DaemonResponse) :
    List UInt8 :=
  utf8 (responseText sj.str resp)

-- ========================================================= an instance

/-- A serialized `Option<u64>` in front of a text. -/
def readTtl (text : List Char) : Option (Option UInt64 × List Char) :=
  match expect "null".toList text with
  | some rest => some (none, rest)
  | none => do
      let (n, rest) ← readNat text
      if n < 2 ^ 64 then some (some (UInt64.ofNat n), rest) else none

/-- The request some text spells. -/
def readRequest (text : List Char) : Option DaemonRequest :=
  if text = "\"List\"".toList then some .list
  else if text = "\"Stats\"".toList then some .stats
  else match expect "\x7b\"Ban\":\x7b\"target\":".toList text with
    | some rest => do
        let (target, rest) ← readLiteral rest
        let rest ← expect ",\"ttl\":".toList rest
        let (ttl, rest) ← readTtl rest
        if rest = "\x7d\x7d".toList then some (.ban target ttl) else none
    | none => do
        let rest ← expect "\x7b\"Unban\":\x7b\"target\":".toList text
        let (target, rest) ← readLiteral rest
        if rest = "\x7d\x7d".toList then some (.unban target) else none

/-- The response some text spells. -/
def readResponse (text : List Char) : Option DaemonResponse :=
  if text = "\"Ok\"".toList then some .ok
  else match expect "\x7b\"Error\":".toList text with
    | some rest => do
        let (message, rest) ← readLiteral rest
        if rest = "\x7d".toList then some (.error message) else none
    | none => match expect "\x7b\"List\":".toList text with
      | some rest => do
          let (items, rest) ← readArray rest
          if rest = "\x7d".toList then some (.list items) else none
      | none => do
          let rest ← expect "\x7b\"Stats\":".toList text
          let (text, rest) ← readLiteral rest
          if rest = "\x7d".toList then some (.stats text) else none

/-- The optional ttl reads back. -/
theorem readTtl_ttlText (ttl : Option UInt64) (rest : List Char) :
    readTtl ((ttlText ttl).toList ++ '\x7d' :: rest)
      = some (ttl, '\x7d' :: rest) := by
  cases ttl with
  | none => rfl
  | some t =>
      have hread := readNat_repr t.toNat rest
        (show '\x7d'.isDigit = false by decide)
      have hlt : t.toNat < 2 ^ 64 := t.toNat_lt
      -- a number does not begin as "null" does
      have hnull : expect "null".toList
          ((Nat.repr t.toNat).toList ++ '\x7d' :: rest) = none := by
        rw [Nat.toList_repr]
        obtain ⟨ch, chs, hchs⟩ :=
          List.exists_cons_of_ne_nil (Nat.toDigits_ne_nil (n := t.toNat)
            (b := 10))
        have hdigit : ch.isDigit = true := by
          refine Nat.isDigit_of_mem_toDigits (b := 10) (n := t.toNat)
            (by omega) (by omega) ?_
          rw [hchs]
          exact List.mem_cons_self ..
        rw [hchs, List.cons_append]
        refine if_neg ?_
        rintro rfl
        exact absurd hdigit (by decide)
      show readTtl ((Nat.repr t.toNat).toList ++ _) = _
      rw [readTtl, hnull, hread]
      show (if t.toNat < 2 ^ 64 then _ else _) = _
      rw [if_pos hlt, UInt64.ofNat_toNat]

private theorem closing : "\x7d\x7d".toList = ['\x7d', '\x7d'] := rfl

/-- Every request reads back from its text. -/
theorem readRequest_requestText (req : DaemonRequest) :
    readRequest (requestText literal req).toList = some req := by
  cases req with
  | list => decide
  | stats => decide
  | ban target ttl =>
      have htext : (requestText literal (.ban target ttl)).toList
          = "\x7b\"Ban\":\x7b\"target\":".toList ++ ((literal target).toList
            ++ (",\"ttl\":".toList ++ ((ttlText ttl).toList
            ++ ['\x7d', '\x7d']))) := by
        unfold requestText
        simp only [String.toList_append, List.append_assoc, closing]
      rw [htext, readRequest, if_neg (by simp), if_neg (by simp),
        expect_append]
      simp only [readLiteral_literal, expect_append, readTtl_ttlText,
        Option.bind_eq_bind, Option.bind_some]
      rfl
  | unban target =>
      have htext : (requestText literal (.unban target)).toList
          = "\x7b\"Unban\":\x7b\"target\":".toList
            ++ ((literal target).toList ++ ['\x7d', '\x7d']) := by
        unfold requestText
        simp only [String.toList_append, List.append_assoc, closing]
      have hban : expect "\x7b\"Ban\":\x7b\"target\":".toList
          ("\x7b\"Unban\":\x7b\"target\":".toList
            ++ ((literal target).toList ++ ['\x7d', '\x7d'])) = none := by
        simp [expect]
      rw [htext, readRequest, if_neg (by simp), if_neg (by simp), hban,
        expect_append]
      simp only [readLiteral_literal, Option.bind_eq_bind, Option.bind_some]
      rfl

/-- Every response reads back from its text. -/
theorem readResponse_responseText (resp : DaemonResponse) :
    readResponse (responseText literal resp).toList = some resp := by
  cases resp with
  | ok => decide
  | error message =>
      have htext : (responseText literal (.error message)).toList
          = "\x7b\"Error\":".toList ++ ((literal message).toList
            ++ ['\x7d']) := by
        unfold responseText
        simp only [String.toList_append, List.append_assoc]
        rfl
      rw [htext, readResponse, if_neg (by simp), expect_append]
      simp only [readLiteral_literal, Option.bind_eq_bind, Option.bind_some]
      rfl
  | list items =>
      have htext : (responseText literal (.list items)).toList
          = "\x7b\"List\":".toList ++ ((array (items.map literal)).toList
            ++ ['\x7d']) := by
        unfold responseText
        simp only [String.toList_append, List.append_assoc]
        rfl
      have herror : expect "\x7b\"Error\":".toList ("\x7b\"List\":".toList
          ++ ((array (items.map literal)).toList ++ ['\x7d'])) = none := by
        simp [expect]
      rw [htext, readResponse, if_neg (by simp), herror, expect_append]
      simp only [readArray_array, Option.bind_eq_bind, Option.bind_some]
      rfl
  | stats text =>
      have htext : (responseText literal (.stats text)).toList
          = "\x7b\"Stats\":".toList ++ ((literal text).toList
            ++ ['\x7d']) := by
        unfold responseText
        simp only [String.toList_append, List.append_assoc]
        rfl
      have herror : expect "\x7b\"Error\":".toList ("\x7b\"Stats\":".toList
          ++ ((literal text).toList ++ ['\x7d'])) = none := by
        simp [expect]
      have hlist : expect "\x7b\"List\":".toList ("\x7b\"Stats\":".toList
          ++ ((literal text).toList ++ ['\x7d'])) = none := by
        simp [expect]
      rw [htext, readResponse, if_neg (by simp), herror, hlist, expect_append]
      simp only [readLiteral_literal, Option.bind_eq_bind, Option.bind_some]
      rfl

/-- Compact JSON as prescribed; whatever is not such a text is refused. -/
def serdeJson : SerdeJson where
  str := literal
  requestFromSlice bytes :=
    match (ofUtf8? bytes).bind fun text => readRequest text.toList with
    | some req => .ok req
    | none => .error "invalid request"
  responseFromSlice bytes :=
    match (ofUtf8? bytes).bind fun text => readResponse text.toList with
    | some resp => .ok resp
    | none => .error "invalid response"
  utf8ByteSize_str := utf8ByteSize_literal
  request_roundTrip req := by
    rw [ofUtf8?_utf8, Option.bind_some, readRequest_requestText]
  response_roundTrip resp := by
    rw [ofUtf8?_utf8, Option.bind_some, readResponse_responseText]

end RustGuard
