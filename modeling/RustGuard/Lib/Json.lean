/-
The pieces of compact JSON text: string literals, decimal numbers, fixed
words; what a writer puts and a reader takes back.

Texts are `String`s on the writer's side and lists of characters on the
reader's, who takes a piece off the front and leaves the rest. Each piece
comes with its round trip in that form (`readLiteral_literal`,
`readNat_repr`, `expect_append`), so that a reader of a whole document is
undone by rewriting, piece after piece, from the left.

A literal escapes the quote, the backslash and the control characters,
the latter as one letter where JSON has one and as `\u00XY` otherwise.
That is six bytes for one at the worst (`utf8ByteSize_literal`).

A document travels as its UTF-8 bytes.
-/
import Mathlib.Tactic

namespace Lib.Json

-- ========================================================== UTF-8 bytes

/-- The UTF-8 bytes of a text. -/
def utf8 (s : String) : List UInt8 := s.toUTF8.data.toList

/-- The text some bytes spell, if they are UTF-8. -/
def ofUtf8? (bs : List UInt8) : Option String :=
  String.fromUTF8? ⟨bs.toArray⟩

@[simp] theorem length_utf8 (s : String) :
    (utf8 s).length = s.utf8ByteSize := rfl

@[simp] theorem ofUtf8?_utf8 (s : String) : ofUtf8? (utf8 s) = some s := by
  unfold ofUtf8? utf8 String.fromUTF8?
  rw [Array.toArray_toList]
  exact dif_pos s.isValidUTF8

-- ========================================================== fixed words

/-- A fixed word in front of a text. -/
def expect : List Char → List Char → Option (List Char)
  | [], text => some text
  | w :: word, ch :: text => if w = ch then expect word text else none
  | _ :: _, [] => none

@[simp] theorem expect_append (word rest : List Char) :
    expect word (word ++ rest) = some rest := by
  induction word with
  | nil => rfl
  | cons w word ih => rw [List.cons_append, expect, if_pos rfl, ih]

-- ====================================================== string literals

/-- The lower-case hexadecimal digit of a number below 16. -/
def hexDigit (n : Nat) : Char := Nat.digitChar n

/-- The value of a lower-case hexadecimal digit. -/
def hexValue (ch : Char) : Nat :=
  if ch.isDigit then ch.toNat - '0'.toNat else ch.toNat - 'a'.toNat + 10

/-- A character inside a literal. -/
def escape (ch : Char) : List Char :=
  if ch = '"' then ['\\', '"']
  else if ch = '\\' then ['\\', '\\']
  else if ch = '\x08' then ['\\', 'b']
  else if ch = '\t' then ['\\', 't']
  else if ch = '\n' then ['\\', 'n']
  else if ch = '\x0c' then ['\\', 'f']
  else if ch = '\r' then ['\\', 'r']
  else if ch.toNat < 0x20 then
    ['\\', 'u', '0', '0', hexDigit (ch.toNat / 16), hexDigit (ch.toNat % 16)]
  else [ch]

/-- A string literal. -/
def literal (s : String) : String :=
  "\"" ++ String.ofList (s.toList.flatMap escape) ++ "\""

/-- The character behind a backslash. -/
def unescape : Char → Option Char
  | '"' => some '"'
  | '\\' => some '\\'
  | 'b' => some '\x08'
  | 't' => some '\t'
  | 'n' => some '\n'
  | 'f' => some '\x0c'
  | 'r' => some '\r'
  | _ => none

/-- The characters up to the closing quote, and the text behind it. -/
def readChars : List Char → Option (List Char × List Char)
  | [] => none
  | '"' :: rest => some ([], rest)
  | '\\' :: 'u' :: '0' :: '0' :: hi :: lo :: rest =>
      (readChars rest).map fun (chs, rest) =>
        (Char.ofNat (16 * hexValue hi + hexValue lo) :: chs, rest)
  | '\\' :: ch :: rest => do
      let ch ← unescape ch
      (readChars rest).map fun (chs, rest) => (ch :: chs, rest)
  | ch :: rest =>
      (readChars rest).map fun (chs, rest) => (ch :: chs, rest)

/-- A string literal in front of a text. -/
def readLiteral : List Char → Option (String × List Char)
  | '"' :: text =>
      (readChars text).map fun (chs, rest) => (String.ofList chs, rest)
  | _ => none

/-- A control character, read back from its escape. -/
private theorem readChars_control (n : Nat) (hn : n < 0x20)
    (text : List Char) :
    readChars (escape (Char.ofNat n) ++ text)
      = (readChars text).map fun (chs, rest) =>
          (Char.ofNat n :: chs, rest) := by
  interval_cases n <;> rfl

/-- Any other character but the two special ones stands for itself. -/
private theorem escape_self {ch : Char} (hctl : ¬ ch.toNat < 0x20)
    (hquote : ch ≠ '"') (hback : ch ≠ '\\') : escape ch = [ch] := by
  unfold escape
  rw [if_neg hquote, if_neg hback, if_neg, if_neg, if_neg, if_neg, if_neg,
    if_neg hctl]
  all_goals
    rintro rfl
    exact hctl (by decide)

/-- One character, read back from its escape. -/
theorem readChars_escape (ch : Char) (text : List Char) :
    readChars (escape ch ++ text)
      = (readChars text).map fun (chs, rest) => (ch :: chs, rest) := by
  by_cases hctl : ch.toNat < 0x20
  · have h := readChars_control ch.toNat hctl text
    rwa [Char.ofNat_toNat] at h
  by_cases hquote : ch = '"'
  · subst hquote
    rfl
  by_cases hback : ch = '\\'
  · subst hback
    rfl
  rw [escape_self hctl hquote hback, List.singleton_append]
  exact readChars.eq_5 ch text hquote
    (fun hi lo rest h _ => hback h) (fun c rest h _ => hback h)

/-- A string reads back from its literal, whatever follows. -/
@[simp] theorem readLiteral_literal (s : String) (rest : List Char) :
    readLiteral ((literal s).toList ++ rest) = some (s, rest) := by
  have hread : ∀ chs : List Char,
      readChars (chs.flatMap escape ++ '"' :: rest) = some (chs, rest) := by
    intro chs
    induction chs with
    | nil => rfl
    | cons ch chs ih =>
        rw [List.flatMap_cons, List.append_assoc, readChars_escape, ih]
        rfl
  have hlist : (literal s).toList ++ rest
      = '"' :: (s.toList.flatMap escape ++ '"' :: rest) := by
    simp [literal, String.toList_append]
  rw [hlist, readLiteral, hread, Option.map_some]
  exact congrArg (fun s => some (s, rest)) String.ofList_toList

/-- A text is as long as its first character and the rest. -/
private theorem utf8ByteSize_ofList_append (chs chs' : List Char) :
    (String.ofList (chs ++ chs')).utf8ByteSize
      = (String.ofList chs).utf8ByteSize
        + (String.ofList chs').utf8ByteSize := by
  rw [String.ofList_append, String.utf8ByteSize_append]

/-- No escape is longer than six bytes, and a character that takes more
than one is not escaped. -/
private theorem utf8ByteSize_escape (ch : Char) :
    (String.ofList (escape ch)).utf8ByteSize
      ≤ 6 * (String.ofList [ch]).utf8ByteSize := by
  by_cases hctl : ch.toNat < 0x20
  · have hall : ∀ n < 0x20, (String.ofList (escape (Char.ofNat n))).utf8ByteSize
        ≤ 6 * (String.ofList [Char.ofNat n]).utf8ByteSize := by
      decide
    have h := hall ch.toNat hctl
    rwa [Char.ofNat_toNat] at h
  by_cases hquote : ch = '"'
  · subst hquote
    decide
  by_cases hback : ch = '\\'
  · subst hback
    decide
  rw [escape_self hctl hquote hback]
  omega

/-- The bytes of a literal: the two quotes, and at most six for each byte
of the string. -/
theorem utf8ByteSize_literal (s : String) :
    (literal s).utf8ByteSize ≤ 6 * s.utf8ByteSize + 2 := by
  have hchs : ∀ chs : List Char,
      (String.ofList (chs.flatMap escape)).utf8ByteSize
        ≤ 6 * (String.ofList chs).utf8ByteSize := by
    intro chs
    induction chs with
    | nil => exact Nat.zero_le _
    | cons ch chs ih =>
        have hch := utf8ByteSize_escape ch
        rw [List.flatMap_cons, ← List.singleton_append,
          utf8ByteSize_ofList_append, utf8ByteSize_ofList_append]
        omega
  have hs := hchs s.toList
  rw [String.ofList_toList] at hs
  have hquote : "\"".utf8ByteSize = 1 := rfl
  rw [literal, String.utf8ByteSize_append, String.utf8ByteSize_append, hquote]
  omega

-- ====================================================== decimal numbers

/-- A decimal number in front of a text. -/
def readNat (text : List Char) : Option (Nat × List Char) :=
  if text.takeWhile Char.isDigit = [] then none
  else some (Nat.ofDigitChars 10 (text.takeWhile Char.isDigit) 0,
    text.dropWhile Char.isDigit)

/-- A number reads back from its digits, up to the next character that is
none. -/
theorem readNat_repr (n : Nat) {ch : Char} (rest : List Char)
    (hch : ch.isDigit = false) :
    readNat ((Nat.repr n).toList ++ ch :: rest) = some (n, ch :: rest) := by
  have hdig : ∀ c ∈ Nat.toDigits 10 n, c.isDigit = true :=
    fun c hc => Nat.isDigit_of_mem_toDigits (by omega) (by omega) hc
  have htake : (Nat.toDigits 10 n ++ ch :: rest).takeWhile Char.isDigit
      = Nat.toDigits 10 n := by
    rw [List.takeWhile_append_of_pos hdig,
      List.takeWhile_cons_of_neg (by simp [hch]), List.append_nil]
  have hdrop : (Nat.toDigits 10 n ++ ch :: rest).dropWhile Char.isDigit
      = ch :: rest := by
    rw [List.dropWhile_append_of_pos hdig,
      List.dropWhile_cons_of_neg (by simp [hch])]
  rw [Nat.toList_repr, readNat, htake, hdrop, if_neg Nat.toDigits_ne_nil,
    Nat.ofDigitChars_ten_toDigits]

private theorem utf8ByteSize_digit {ch : Char} (h : ch.isDigit = true) :
    (String.ofList [ch]).utf8ByteSize = 1 := by
  have hascii : ch.val ≤ 127 := by
    rw [UInt32.le_iff_toNat_le]
    exact (Char.isDigit_iff_toNat.mp h).2.trans (by decide)
  rw [← String.singleton_eq_ofList, String.utf8ByteSize_singleton,
    Char.utf8Size]
  simp [hascii]

/-- A digit is one byte, so a number has as many bytes as digits. -/
theorem utf8ByteSize_repr (n : Nat) :
    (Nat.repr n).utf8ByteSize = (Nat.toDigits 10 n).length := by
  have hbytes : ∀ chs : List Char, (∀ ch ∈ chs, ch.isDigit = true) →
      (String.ofList chs).utf8ByteSize = chs.length := by
    intro chs hchs
    induction chs with
    | nil => rfl
    | cons ch chs ih =>
        have hone : (String.ofList [ch]).utf8ByteSize = 1 :=
          utf8ByteSize_digit (hchs ch (List.mem_cons_self ..))
        rw [← List.singleton_append, utf8ByteSize_ofList_append, hone,
          ih fun c hc => hchs c (List.mem_cons_of_mem _ hc),
          List.length_append, List.length_singleton]
  rw [Nat.repr_eq_ofList_toDigits]
  exact hbytes _ fun c hc =>
    Nat.isDigit_of_mem_toDigits (by omega) (by omega) hc

-- ============================================================== arrays

/-- An array, from the texts of its items. -/
def array (items : List String) : String :=
  "[" ++ ",".intercalate items ++ "]"

/-- The string literals of an array from the first on, and the text
behind the closing bracket. -/
def readItems : Nat → List Char → Option (List String × List Char)
  | 0, _ => none
  | fuel + 1, text =>
      match readLiteral text with
      | some (item, ']' :: rest) => some ([item], rest)
      | some (item, ',' :: rest) =>
          (readItems fuel rest).map fun (items, rest) =>
            (item :: items, rest)
      | _ => none

/-- An array of string literals in front of a text. -/
def readArray (text : List Char) : Option (List String × List Char) :=
  match text with
  | '[' :: ']' :: rest => some ([], rest)
  | '[' :: text => readItems text.length text
  | _ => none

/-- The items read back, one comma at a time. -/
private theorem readItems_intercalate (item : String) (items : List String)
    (rest : List Char) {fuel : Nat} (hfuel : items.length < fuel) :
    readItems fuel ((",".intercalate ((item :: items).map literal)).toList
      ++ ']' :: rest) = some (item :: items, rest) := by
  induction items generalizing item fuel with
  | nil =>
      obtain ⟨fuel, rfl⟩ : ∃ f, fuel = f + 1 := ⟨fuel - 1, by omega⟩
      simp [readItems]
  | cons next items ih =>
      rw [List.length_cons] at hfuel
      obtain ⟨fuel, rfl⟩ : ∃ f, fuel = f + 1 := ⟨fuel - 1, by omega⟩
      have hnext : readItems fuel _ = _ := ih next (by omega)
      have htext : (",".intercalate
            ((item :: next :: items).map literal)).toList ++ ']' :: rest
          = (literal item).toList ++ ',' ::
            ((",".intercalate ((next :: items).map literal)).toList
              ++ ']' :: rest) := by
        simp [String.intercalate_cons_cons]
      rw [htext, readItems, readLiteral_literal]
      simp only [hnext, Option.map_some]

/-- Every item takes at least a character of the text, so the text's
length is fuel enough. -/
private theorem length_lt_intercalate (item : String) (items : List String)
    (rest : List Char) :
    items.length < ((",".intercalate ((item :: items).map literal)).toList
      ++ ']' :: rest).length := by
  have hle : items.length
      ≤ (",".intercalate ((item :: items).map literal)).toList.length := by
    induction items generalizing item with
    | nil => exact Nat.zero_le _
    | cons next items ih =>
        have hnext := ih next
        rw [List.map_cons, List.map_cons, String.intercalate_cons_cons,
          String.toList_append, String.toList_append, List.length_append,
          List.length_append, List.length_cons]
        have hcomma : ",".toList.length = 1 := rfl
        rw [List.map_cons] at hnext
        omega
  rw [List.length_append, List.length_cons]
  omega

/-- An array of strings reads back, whatever follows. -/
@[simp] theorem readArray_array (items : List String) (rest : List Char) :
    readArray ((array (items.map literal)).toList ++ rest)
      = some (items, rest) := by
  cases items with
  | nil => rfl
  | cons item items =>
      have htext : (array ((item :: items).map literal)).toList ++ rest
          = '[' :: ((",".intercalate ((item :: items).map literal)).toList
              ++ ']' :: rest) := by
        simp [array]
      -- an item begins with a quote, so the array is not the empty one
      obtain ⟨chs, hchs⟩ : ∃ chs,
          (",".intercalate ((item :: items).map literal)).toList
            = '"' :: chs := by
        cases items with
        | nil => exact ⟨_, by simp [literal]; rfl⟩
        | cons next items =>
            exact ⟨_, by simp [literal, String.intercalate_cons_cons]; rfl⟩
      have hread := readItems_intercalate item items rest
        (length_lt_intercalate item items rest)
      rw [hchs] at hread
      rw [htext, hchs]
      exact hread

/-- The bytes of an array, from a bound on the bytes of an item. -/
theorem utf8ByteSize_array {items : List String} {b : Nat}
    (hb : ∀ item ∈ items, item.utf8ByteSize ≤ b) :
    (array items).utf8ByteSize ≤ items.length * (b + 1) + 2 := by
  have hitems : (",".intercalate items).utf8ByteSize
      ≤ items.length * (b + 1) := by
    induction items with
    | nil => simp
    | cons item items ih =>
        have hitem := hb item (List.mem_cons_self ..)
        have hrest := ih fun x hx => hb x (List.mem_cons_of_mem _ hx)
        have hcomma : ",".utf8ByteSize = 1 := rfl
        rw [List.length_cons, Nat.add_mul]
        cases items with
        | nil =>
            rw [String.intercalate_singleton]
            omega
        | cons next items =>
            rw [String.intercalate_cons_cons, String.utf8ByteSize_append,
              String.utf8ByteSize_append, hcomma]
            omega
  have hopen : "[".utf8ByteSize = 1 := rfl
  have hclose : "]".utf8ByteSize = 1 := rfl
  rw [array, String.utf8ByteSize_append, String.utf8ByteSize_append, hopen,
    hclose]
  omega

end Lib.Json
