/-
IPv6 addresses as the Rust standard library has them, as far as their
text goes: sixteen octets, `Display`, and the enum of both families.

# The text

`Display` writes an IPv4-mapped address as `::ffff:a.b.c.d` and every
other one as lower-case hexadecimal segments between colons, with the
first longest run of zero segments, if it is longer than one, replaced
by `::`. `zeroes` is the loop that finds the run, transcribed; all that
is asked of it is that what it returns is a run of zeros
(`zeroes_spec`), since the reader knows there are eight segments and
fills in what is missing.

# Reading it back

Colons separate groups and occur in none, so a text is its list of
groups (`toList_toText`): the segments, or the segments on either side
of one empty group, with another empty group where a side has none.
`expand` undoes that, and with it the text (`segments_eq_expand`).
-/
import Mathlib.Tactic
import Mathlib.Data.List.TakeWhile
import RustGuard.Lib.Ipv4

namespace Lib

/-- Sixteen octets, most significant first. -/
structure Ipv6Addr where
  octets : Vector UInt8 16
  deriving DecidableEq, Repr

namespace Ipv6Addr

-- ======================================================== the segments

/-- Octets in pairs, each a big-endian word. -/
def segmentsOf : List UInt8 → List UInt16
  | hi :: lo :: rest => u16FromBeBytes hi lo :: segmentsOf rest
  | _ => []

/-- `segments()`. -/
def segments (ip : Ipv6Addr) : List UInt16 := segmentsOf ip.octets.toList

/-- `to_ipv4_mapped()`. -/
def toIpv4Mapped (ip : Ipv6Addr) : Option Ipv4Addr :=
  match ip.octets.toList with
  | [0, 0, 0, 0, 0, 0, 0, 0, 0, 0, 0xff, 0xff, a, b, c, d] =>
      some ⟨a, b, c, d⟩
  | _ => none

/-- The octets it looks at. -/
theorem toIpv4Mapped_eq (ip : Ipv6Addr) :
    ip.toIpv4Mapped
      = if (ip.octets.toList.take 10).all (· == 0)
          ∧ ip.octets.get 10 = 0xff ∧ ip.octets.get 11 = 0xff then
          some ⟨ip.octets.get 12, ip.octets.get 13, ip.octets.get 14,
            ip.octets.get 15⟩
        else none := by
  obtain ⟨⟨⟨os⟩, hos⟩⟩ := ip
  rw [List.size_toArray] at hos
  match os, hos with
  | [x0, x1, x2, x3, x4, x5, x6, x7, x8, x9, x10, x11, a, b, c, d], _ =>
      unfold toIpv4Mapped
      split
      · rename_i heq
        cases heq
        rfl
      · rename_i hne
        rw [if_neg]
        intro ⟨hz, h10, h11⟩
        have hz : [x0, x1, x2, x3, x4, x5, x6, x7, x8, x9].all (· == 0) := hz
        have h10 : x10 = 0xff := h10
        have h11 : x11 = 0xff := h11
        simp only [List.all_cons, List.all_nil, Bool.and_eq_true, beq_iff_eq,
          and_true] at hz
        obtain ⟨rfl, rfl, rfl, rfl, rfl, rfl, rfl, rfl, rfl, rfl⟩ := hz
        subst h10 h11
        exact hne _ _ _ _ rfl

-- ============================================================ the text

/-- The `Span` of `Display`. -/
structure Span where
  start : Nat
  len : Nat
  deriving DecidableEq, Repr

/-- The loop of `Display` over the segments behind the first `i`. -/
def zeroesLoop (i : Nat) (longest current : Span) : List UInt16 → Span
  | [] => longest
  | segment :: rest =>
      if segment = 0 then
        let current : Span :=
          ⟨if current.len = 0 then i else current.start, current.len + 1⟩
        let longest := if current.len > longest.len then current else longest
        zeroesLoop (i + 1) longest current rest
      else zeroesLoop (i + 1) longest ⟨0, 0⟩ rest

/-- The first longest run of zero segments. -/
def zeroes (segments : List UInt16) : Span :=
  zeroesLoop 0 ⟨0, 0⟩ ⟨0, 0⟩ segments

/-- `{:x}` of a segment. -/
def hex (segment : UInt16) : List Char := Nat.toDigits 16 segment.toNat

/-- `fmt_subslice`. -/
def fmtSubslice (chunk : List UInt16) : List Char :=
  [':'].intercalate (chunk.map hex)

/-- `Display`. -/
def toText (ip : Ipv6Addr) : String :=
  match ip.toIpv4Mapped with
  | some ipv4 => "::ffff:" ++ ipv4.toText
  | none =>
      let run := zeroes ip.segments
      if run.len > 1 then
        String.ofList (fmtSubslice (ip.segments.take run.start) ++ "::".toList
          ++ fmtSubslice (ip.segments.drop (run.start + run.len)))
      else String.ofList (fmtSubslice ip.segments)

-- ================================================== a run of zero words

/-- Every segment in the span is there and zero. -/
def Span.Zero (all : List UInt16) (span : Span) : Prop :=
  ∀ j, span.start ≤ j → j < span.start + span.len → all[j]? = some 0

/-- The loop returns a run of zeros when it holds two: the longest so
far, and the current one, which ends where the loop stands. -/
theorem zeroesLoop_zero {all : List UInt16} {longest current : Span}
    (pre rest : List UInt16) (hall : all = pre ++ rest)
    (hlongest : longest.Zero all) (hcurrent : current.Zero all)
    (hend : 0 < current.len → current.start + current.len = pre.length) :
    (zeroesLoop pre.length longest current rest).Zero all := by
  induction rest generalizing pre longest current with
  | nil => exact hlongest
  | cons segment rest ih =>
      have hpre : all = (pre ++ [segment]) ++ rest := by
        rw [hall, List.append_assoc, List.singleton_append]
      have hlen : (pre ++ [segment]).length = pre.length + 1 := by simp
      rw [zeroesLoop]
      split
      · rename_i hzero
        -- the run grows by the segment just seen
        have hgrown : Span.Zero all
            ⟨if current.len = 0 then pre.length else current.start,
              current.len + 1⟩ := by
          intro j hstart hlt
          by_cases hj : j = pre.length
          · rw [hall, hj, List.getElem?_append_right (Nat.le_refl _), hzero]
            simp
          · simp only at hstart hlt
            split at hstart
            · rename_i hnone
              rw [if_pos hnone] at hlt
              omega
            · rename_i hsome
              rw [if_neg hsome] at hlt
              have := hend (by omega)
              exact hcurrent j hstart (by omega)
        rw [← hlen]
        refine ih (pre ++ [segment]) hpre ?_ hgrown ?_
        · by_cases hmore : current.len + 1 > longest.len
          · rw [if_pos hmore]
            exact hgrown
          · rw [if_neg hmore]
            exact hlongest
        · intro _
          simp only [hlen]
          split
          · omega
          · rename_i hsome
            have := hend (by omega)
            omega
      · rw [← hlen]
        refine ih (pre ++ [segment]) hpre hlongest ?_ ?_
        · intro j hstart hlt
          simp only at hlt
          omega
        · intro hpos
          exact absurd hpos (by simp)

/-- The span of zeros, cut out and put back. -/
theorem zeroes_spec (segments : List UInt16) :
    let run := zeroes segments
    segments.take run.start ++ List.replicate run.len 0
        ++ segments.drop (run.start + run.len) = segments := by
  intro run
  have hzero : run.Zero segments := by
    refine zeroesLoop_zero [] segments rfl ?_ ?_ ?_ <;>
      intro j <;> simp
  have hmid : (segments.drop run.start).take run.len
      = List.replicate run.len 0 := by
    refine List.ext_getElem? ?_
    intro j
    by_cases hj : j < run.len
    · rw [List.getElem?_take_of_lt hj, List.getElem?_drop,
        hzero _ (by omega) (by omega), List.getElem?_replicate, if_pos hj]
    · rw [List.getElem?_take_eq_none (by omega), List.getElem?_replicate,
        if_neg hj]
  rw [← hmid, List.append_assoc, ← List.drop_drop, List.take_append_drop,
    List.take_append_drop]

-- ======================================================= hexadecimal

/-- The value of a lower-case hexadecimal digit. -/
def hexDigit (ch : Char) : Nat :=
  if ch.isDigit then ch.toNat - '0'.toNat else ch.toNat - 'a'.toNat + 10

/-- The number a run of digits spells. -/
def readHex (digits : List Char) : Nat :=
  digits.foldl (fun n ch => 16 * n + hexDigit ch) 0

/-- A digit stands for itself, and is no separator. -/
private theorem digitChar_spec :
    ∀ n : Fin 16, hexDigit (Nat.digitChar n) = n ∧ Nat.digitChar n ≠ ':'
      ∧ Nat.digitChar n ≠ '\n' := by
  decide

/-- A number reads back from its digits. -/
theorem readHex_toDigits (n : Nat) : readHex (Nat.toDigits 16 n) = n := by
  induction n using Nat.strongRecOn with
  | _ n ih =>
      rw [Nat.toDigits_eq_if (by omega)]
      split
      · rename_i hlt
        obtain ⟨hdigit, -⟩ := digitChar_spec ⟨n, hlt⟩
        simpa [readHex] using hdigit
      · have hrec := ih (n / 16) (by omega)
        obtain ⟨hdigit, -⟩ := digitChar_spec ⟨n % 16, by omega⟩
        rw [readHex] at hrec ⊢
        rw [List.foldl_append, hrec]
        simp only [List.foldl_cons, List.foldl_nil, hdigit]
        omega

/-- No separator among the digits of a number. -/
theorem separator_notMem_toDigits (n : Nat) :
    ':' ∉ Nat.toDigits 16 n ∧ '\n' ∉ Nat.toDigits 16 n := by
  induction n using Nat.strongRecOn with
  | _ n ih =>
      rw [Nat.toDigits_eq_if (by omega)]
      split
      · rename_i hlt
        obtain ⟨-, hcolon, hnewline⟩ := digitChar_spec ⟨n, hlt⟩
        simp [hcolon.symm, hnewline.symm]
      · have hrec := ih (n / 16) (by omega)
        obtain ⟨-, hcolon, hnewline⟩ := digitChar_spec ⟨n % 16, by omega⟩
        simp only at hcolon hnewline
        simp [hrec, hcolon.symm, hnewline.symm]

theorem hex_injective : Function.Injective hex := by
  intro n n' h
  have hnat := congrArg readHex h
  rw [hex, hex, readHex_toDigits, readHex_toDigits] at hnat
  exact UInt16.toNat_inj.mp hnat

theorem hex_ne_nil (segment : UInt16) : hex segment ≠ [] :=
  Nat.toDigits_ne_nil

-- ========================================================= the groups

/-- The groups of one side of a `::`. -/
def side (chunk : List UInt16) : List (List Char) :=
  if chunk = [] then [[]] else chunk.map hex

/-- What the colons of an address's text separate. -/
def groups (segments : List UInt16) : List (List Char) :=
  let run := zeroes segments
  if run.len > 1 then
    side (segments.take run.start) ++ [] ::
      side (segments.drop (run.start + run.len))
  else segments.map hex

/-- Two non-empty lists of groups, one separator between. -/
theorem intercalate_append {gs gs' : List (List Char)}
    (hne : gs ≠ []) (hne' : gs' ≠ []) :
    [':'].intercalate (gs ++ gs')
      = [':'].intercalate gs ++ ':' :: [':'].intercalate gs' := by
  induction gs with
  | nil => exact absurd rfl hne
  | cons g gs ih =>
      cases gs with
      | nil =>
          rw [List.singleton_append, List.intercalate_cons_of_ne_nil hne',
            List.intercalate_singleton]
          simp
      | cons g' gs =>
          rw [List.cons_append, List.intercalate_cons_of_ne_nil (by simp),
            ih (by simp), List.intercalate_cons_cons]
          simp

theorem side_ne_nil (chunk : List UInt16) : side chunk ≠ [] := by
  unfold side
  split
  · simp
  · rename_i hne
    simpa using hne

/-- An empty side is written as the empty text either way. -/
theorem fmtSubslice_eq (chunk : List UInt16) :
    fmtSubslice chunk = [':'].intercalate (side chunk) := by
  unfold fmtSubslice side
  split
  · rename_i hnil
    rw [hnil]
    rfl
  · rfl

/-- The text of an address that is not IPv4-mapped is its groups. -/
theorem toList_toText {ip : Ipv6Addr} (hmapped : ip.toIpv4Mapped = none) :
    ip.toText.toList = [':'].intercalate (groups ip.segments) := by
  unfold toText groups
  rw [hmapped]
  simp only
  split
  · rw [String.toList_ofList,
      intercalate_append (side_ne_nil _) (by simp),
      List.intercalate_cons_of_ne_nil (side_ne_nil _), fmtSubslice_eq,
      fmtSubslice_eq]
    simp
  · rw [String.toList_ofList, fmtSubslice]

/-- Groups hold neither the separator nor a newline. -/
theorem separator_notMem_groups (segments : List UInt16) :
    ∀ g ∈ groups segments, ':' ∉ g ∧ '\n' ∉ g := by
  have hhex : ∀ (chunk : List UInt16), ∀ g ∈ chunk.map hex,
      ':' ∉ g ∧ '\n' ∉ g := by
    intro chunk g hg
    obtain ⟨segment, -, rfl⟩ := List.mem_map.mp hg
    exact separator_notMem_toDigits _
  have hside : ∀ (chunk : List UInt16), ∀ g ∈ side chunk,
      ':' ∉ g ∧ '\n' ∉ g := by
    intro chunk g hg
    unfold side at hg
    split at hg
    · obtain rfl := List.mem_singleton.mp hg
      simp
    · exact hhex chunk g hg
  intro g hg
  unfold groups at hg
  simp only at hg
  split at hg
  · rcases List.mem_append.mp hg with hg | hg
    · exact hside _ g hg
    · rcases List.mem_cons.mp hg with rfl | hg
      · simp
      · exact hside _ g hg
  · exact hhex _ g hg

/-- A group is empty, at either end of the `::` and inside it, or the
digits of a segment. -/
theorem mem_groups {segments : List UInt16} {g : List Char}
    (hg : g ∈ groups segments) : g = [] ∨ ∃ segment, g = hex segment := by
  have hhex : ∀ (chunk : List UInt16), g ∈ chunk.map hex →
      ∃ segment, g = hex segment := by
    intro chunk hmem
    obtain ⟨segment, -, rfl⟩ := List.mem_map.mp hmem
    exact ⟨segment, rfl⟩
  have hside : ∀ (chunk : List UInt16), g ∈ side chunk →
      g = [] ∨ ∃ segment, g = hex segment := by
    intro chunk hmem
    unfold side at hmem
    split at hmem
    · exact Or.inl (List.mem_singleton.mp hmem)
    · exact Or.inr (hhex chunk hmem)
  unfold groups at hg
  simp only at hg
  split at hg
  · rcases List.mem_append.mp hg with hg | hg
    · exact hside _ hg
    · rcases List.mem_cons.mp hg with rfl | hg
      · exact Or.inl rfl
      · exact hside _ hg
  · exact Or.inr (hhex _ hg)

/-- The digits of a number are letters and digits. -/
theorem isAlphanum_of_mem_toDigits (n : Nat) :
    ∀ ch ∈ Nat.toDigits 16 n, ch.isAlphanum = true := by
  have hdigit : ∀ n : Fin 16, (Nat.digitChar n).isAlphanum = true := by
    decide
  induction n using Nat.strongRecOn with
  | _ n ih =>
      intro ch hch
      rw [Nat.toDigits_eq_if (by omega)] at hch
      split at hch
      · rename_i hlt
        rw [List.mem_singleton.mp hch]
        exact hdigit ⟨n, hlt⟩
      · rcases List.mem_append.mp hch with hch | hch
        · exact ih (n / 16) (by omega) ch hch
        · rw [List.mem_singleton.mp hch]
          exact hdigit ⟨n % 16, by omega⟩

/-- An IPv6 text has at least two colons in it. -/
theorem two_lt_length_groups {segments : List UInt16}
    (hlen : segments.length = 8) : 2 < (groups segments).length := by
  unfold groups
  simp only
  split
  · have hl := List.length_pos_of_ne_nil
      (side_ne_nil (segments.take (zeroes segments).start))
    have hr := List.length_pos_of_ne_nil (side_ne_nil
      (segments.drop ((zeroes segments).start + (zeroes segments).len)))
    rw [List.length_append, List.length_cons]
    omega
  · rw [List.length_map]
    omega

-- ====================================================== the round trip

/-- The eight groups behind a text's groups: an empty one stands for as
many zeros as are missing. -/
def expand (gs : List (List Char)) : List (List Char) :=
  let head := gs.takeWhile (· ≠ [])
  let tail := (gs.dropWhile (· ≠ [])).dropWhile (· = [])
  head ++ List.replicate (8 - head.length - tail.length) ['0'] ++ tail

/-- No segment is written as nothing. -/
private theorem map_hex_ne_nil (chunk : List UInt16) :
    ∀ g ∈ chunk.map hex, decide (g ≠ []) = true := by
  intro g hg
  obtain ⟨segment, -, rfl⟩ := List.mem_map.mp hg
  exact decide_eq_true (hex_ne_nil segment)

/-- Up to the `::` stand the groups of the first side. -/
private theorem takeWhile_side (chunk : List UInt16)
    (rest : List (List Char)) :
    (side chunk ++ [] :: rest).takeWhile (· ≠ []) = chunk.map hex := by
  unfold side
  split
  · rename_i hnil
    rw [hnil]
    rfl
  · rw [List.takeWhile_append_of_pos (map_hex_ne_nil chunk)]
    simp

/-- Behind it those of the second. -/
private theorem dropWhile_side (chunk chunk' : List UInt16) :
    (((side chunk ++ [] :: side chunk').dropWhile (· ≠ [])).dropWhile
      (· = [])) = chunk'.map hex := by
  have htail : (side chunk').dropWhile (· = []) = chunk'.map hex := by
    unfold side
    split
    · rename_i hnil
      rw [hnil]
      rfl
    · cases chunk' with
      | nil => rfl
      | cons segment rest =>
          rw [List.map_cons, List.dropWhile_cons_of_neg
            (by simpa using hex_ne_nil segment)]
  have hhead : (side chunk ++ [] :: side chunk').dropWhile (· ≠ [])
        = [] :: side chunk'
      ∨ (side chunk ++ [] :: side chunk').dropWhile (· ≠ [])
        = [] :: [] :: side chunk' := by
    by_cases hnil : chunk = []
    · right
      rw [side, if_pos hnil]
      rfl
    · left
      rw [side, if_neg hnil,
        List.dropWhile_append_of_pos (map_hex_ne_nil chunk)]
      rfl
  rcases hhead with hhead | hhead
  · rw [hhead, List.dropWhile_cons_of_pos (by simp), htail]
  · rw [hhead, List.dropWhile_cons_of_pos (by simp),
      List.dropWhile_cons_of_pos (by simp), htail]

/-- The segments come back from the groups. -/
theorem expand_groups {segments : List UInt16} (hlen : segments.length = 8) :
    expand (groups segments) = segments.map hex := by
  have hspec := zeroes_spec segments
  simp only at hspec
  unfold groups
  simp only
  split
  · have hparts := congrArg List.length hspec
    simp only [List.length_append, List.length_replicate] at hparts
    rw [expand, takeWhile_side, dropWhile_side, List.length_map,
      List.length_map]
    conv_rhs => rw [← hspec]
    rw [List.map_append, List.map_append, List.map_replicate]
    have hzero : hex 0 = ['0'] := rfl
    rw [hzero]
    congr 3
    omega
  · have hne := map_hex_ne_nil segments
    rw [expand, List.takeWhile_eq_self_iff.mpr hne,
      List.dropWhile_eq_nil_iff.mpr hne]
    simp [hlen]

/-- Equally many octets, an even number of them, with the same segments,
are the same octets. -/
theorem segmentsOf_inj {os os' : List UInt8} (hlen : os.length = os'.length)
    (heven : Even os.length) (h : segmentsOf os = segmentsOf os') :
    os = os' := by
  induction os using segmentsOf.induct generalizing os' with
  | case1 hi lo rest ih =>
      rcases os' with _ | ⟨hi', _ | ⟨lo', rest'⟩⟩
      · simp at hlen
      · simp at hlen
      · rw [segmentsOf, segmentsOf, List.cons.injEq, u16FromBeBytes_inj] at h
        obtain ⟨⟨rfl, rfl⟩, hrest⟩ := h
        rw [List.length_cons, List.length_cons] at heven hlen
        have heven' : Even rest.length := by
          rw [Nat.even_iff] at heven ⊢
          omega
        rw [ih (by simpa using hlen) heven' hrest]
  | case2 os hshort =>
      rcases os with _ | ⟨hi, _ | ⟨lo, rest⟩⟩
      · exact (List.eq_nil_of_length_eq_zero hlen.symm).symm
      · exact absurd heven (by simp)
      · exact absurd rfl (hshort hi lo rest)

theorem length_segmentsOf (os : List UInt8) :
    (segmentsOf os).length = os.length / 2 := by
  induction os using segmentsOf.induct with
  | case1 hi lo rest ih =>
      rw [segmentsOf, List.length_cons, ih, List.length_cons,
        List.length_cons]
      omega
  | case2 os hshort =>
      rcases os with _ | ⟨hi, _ | ⟨lo, rest⟩⟩
      · rfl
      · simp [segmentsOf]
      · exact absurd rfl (hshort hi lo rest)

theorem length_segments (ip : Ipv6Addr) : ip.segments.length = 8 := by
  rw [segments, length_segmentsOf, Vector.length_toList]

/-- The groups of an address's text determine it. -/
theorem groups_segments_injective :
    Function.Injective fun ip : Ipv6Addr => groups ip.segments := by
  intro ip ip' h
  have hexp := congrArg expand h
  rw [expand_groups ip.length_segments, expand_groups ip'.length_segments]
    at hexp
  have hseg := List.map_injective_iff.mpr hex_injective hexp
  have hoct := segmentsOf_inj (by simp) (by simp [Nat.even_iff]) hseg
  cases ip
  cases ip'
  rw [mk.injEq]
  exact Vector.toList_inj.mp hoct

end Ipv6Addr

-- ====================================================== both families

/-- `IpAddr`. -/
inductive IpAddr
  | v4 (ip : Ipv4Addr)
  | v6 (ip : Ipv6Addr)
  deriving DecidableEq, Repr

namespace IpAddr

/-- `Display`. -/
def toText : IpAddr → String
  | v4 ip => ip.toText
  | v6 ip => ip.toText

/-- `to_canonical()`: an IPv4-mapped address is the IPv4 address it
maps. -/
def toCanonical : IpAddr → IpAddr
  | v4 ip => v4 ip
  | v6 ip => (ip.toIpv4Mapped.map v4).getD (v6 ip)

/-- What the colons in the text of a canonical address separate. -/
def groups : IpAddr → List (List Char)
  | v4 ip => [ip.toText.toList]
  | v6 ip => Ipv6Addr.groups ip.segments

/-- The address is not an IPv4 address in disguise. -/
def IsCanonical (ip : IpAddr) : Prop := ip.toCanonical = ip

theorem isCanonical_v4 (ip : Ipv4Addr) : (v4 ip).IsCanonical := rfl

theorem isCanonical_v6 {ip : Ipv6Addr} :
    (v6 ip).IsCanonical ↔ ip.toIpv4Mapped = none := by
  unfold IsCanonical toCanonical
  cases hmapped : ip.toIpv4Mapped with
  | none => simp [hmapped]
  | some ipv4 => simp [hmapped]

theorem isCanonical_toCanonical (ip : IpAddr) :
    ip.toCanonical.IsCanonical := by
  cases ip with
  | v4 ip => exact isCanonical_v4 ip
  | v6 ip =>
      cases hmapped : ip.toIpv4Mapped with
      | none =>
          have : toCanonical (v6 ip) = v6 ip := by simp [toCanonical, hmapped]
          rw [this, isCanonical_v6, hmapped]
      | some ipv4 =>
          have : toCanonical (v6 ip) = v4 ipv4 := by
            simp [toCanonical, hmapped]
          rw [this]
          exact isCanonical_v4 ipv4

theorem toList_toText {ip : IpAddr} (hcan : ip.IsCanonical) :
    ip.toText.toList = [':'].intercalate ip.groups := by
  cases ip with
  | v4 ip => simp [toText, groups]
  | v6 ip => exact Ipv6Addr.toList_toText (isCanonical_v6.mp hcan)

theorem separator_notMem_groups (ip : IpAddr) :
    ∀ g ∈ ip.groups, ':' ∉ g ∧ '\n' ∉ g := by
  cases ip with
  | v4 ip =>
      intro g hg
      obtain rfl := List.mem_singleton.mp hg
      constructor <;>
        · intro hmem
          rcases Ipv4Addr.mem_toText hmem with h | h <;> simp at h
  | v6 ip => exact Ipv6Addr.separator_notMem_groups ip.segments

theorem groups_ne_nil (ip : IpAddr) : ip.groups ≠ [] := by
  cases ip with
  | v4 ip => simp [groups]
  | v6 ip =>
      have := Ipv6Addr.two_lt_length_groups ip.length_segments
      exact List.ne_nil_of_length_pos (by rw [groups]; omega)

/-- No two addresses have the same groups: a dotted quad has no colon, an
IPv6 text has two. -/
theorem groups_injective : Function.Injective groups := by
  intro ip ip' h
  have hv6 : ∀ ip : Ipv6Addr, (groups (v6 ip)).length ≠ 1 := by
    intro ip
    have := Ipv6Addr.two_lt_length_groups ip.length_segments
    rw [groups]
    omega
  cases ip with
  | v4 ip =>
      cases ip' with
      | v4 ip' =>
          have htext : ip.toText.toList = ip'.toText.toList := by
            simpa [groups] using h
          rw [Ipv4Addr.toText_injective (String.toList_inj.mp htext)]
      | v6 ip' => exact absurd (congrArg List.length h).symm (hv6 ip')
  | v6 ip =>
      cases ip' with
      | v4 ip' => exact absurd (congrArg List.length h) (hv6 ip)
      | v6 ip' => rw [Ipv6Addr.groups_segments_injective h]

/-- The text of a canonical address is on one line. -/
theorem newline_notMem_toText {ip : IpAddr} (hcan : ip.IsCanonical) :
    '\n' ∉ ip.toText.toList := by
  have hgroups : ∀ gs : List (List Char), (∀ g ∈ gs, '\n' ∉ g) →
      '\n' ∉ [':'].intercalate gs := by
    intro gs
    induction gs with
    | nil => simp
    | cons g gs ih =>
        intro hall
        cases gs with
        | nil => simpa using hall
        | cons g' gs =>
            have hg := hall g (by simp)
            have hrest := ih fun g'' h => hall g'' (List.mem_cons_of_mem _ h)
            rw [List.intercalate_cons_cons]
            simp [hg, hrest]
  rw [toList_toText hcan]
  exact hgroups _ fun g hg => (separator_notMem_groups ip g hg).2

/-- What the text of a canonical address is made of. -/
theorem mem_toText {ip : IpAddr} (hcan : ip.IsCanonical) {ch : Char}
    (hch : ch ∈ ip.toText.toList) :
    ch.isAlphanum = true ∨ ch = '.' ∨ ch = ':' := by
  have hgroups : ∀ g ∈ ip.groups, ch ∈ g →
      ch.isAlphanum = true ∨ ch = '.' := by
    intro g hg hmem
    cases ip with
    | v4 ip =>
        rw [List.mem_singleton.mp hg] at hmem
        refine (Ipv4Addr.mem_toText hmem).imp_left fun hdigit => ?_
        rw [Char.isAlphanum, hdigit, Bool.or_true]
    | v6 ip =>
        rcases Ipv6Addr.mem_groups hg with rfl | ⟨segment, rfl⟩
        · cases hmem
        · exact Or.inl (Ipv6Addr.isAlphanum_of_mem_toDigits _ ch hmem)
  have hinter : ∀ gs : List (List Char), ch ∈ [':'].intercalate gs →
      ch = ':' ∨ ∃ g ∈ gs, ch ∈ g := by
    intro gs
    induction gs with
    | nil => simp
    | cons g gs ih =>
        intro hmem
        cases gs with
        | nil => exact Or.inr ⟨g, by simp, by simpa using hmem⟩
        | cons g' gs =>
            rw [List.intercalate_cons_cons, List.mem_append,
              List.mem_append, List.mem_singleton] at hmem
            rcases hmem with (hmem | hmem) | hmem
            · exact Or.inr ⟨g, by simp, hmem⟩
            · exact Or.inl hmem
            · rcases ih hmem with hcolon | ⟨g'', hg'', hmem⟩
              · exact Or.inl hcolon
              · exact Or.inr ⟨g'', List.mem_cons_of_mem _ hg'', hmem⟩
  rw [toList_toText hcan] at hch
  rcases hinter _ hch with hcolon | ⟨g, hg, hmem⟩
  · exact Or.inr (Or.inr hcolon)
  · rcases hgroups g hg hmem with halnum | hdot
    · exact Or.inl halnum
    · exact Or.inr (Or.inl hdot)

/-- An address and a port behind a colon, as a list of groups. -/
private theorem toList_toText_port {ip : IpAddr} (hcan : ip.IsCanonical)
    (port : Nat) :
    (ip.toText ++ ":" ++ Nat.repr port).toList
      = [':'].intercalate (ip.groups ++ [Nat.toDigits 10 port]) := by
  rw [Ipv6Addr.intercalate_append ip.groups_ne_nil (by simp),
    List.intercalate_singleton, ← toList_toText hcan]
  simp

/-- A canonical address and a port come back from their text: no two
pairs share one. -/
theorem toText_port_inj {ip ip' : IpAddr} {port port' : Nat}
    (hcan : ip.IsCanonical) (hcan' : ip'.IsCanonical)
    (h : ip.toText ++ ":" ++ Nat.repr port
      = ip'.toText ++ ":" ++ Nat.repr port') : ip = ip' ∧ port = port' := by
  have hcolon : ∀ (ip : IpAddr) (port : Nat),
      ∀ g ∈ ip.groups ++ [Nat.toDigits 10 port], ':' ∉ g := by
    intro ip port g hg
    rcases List.mem_append.mp hg with hg | hg
    · exact (separator_notMem_groups ip g hg).1
    · obtain rfl := List.mem_singleton.mp hg
      intro hmem
      have := Nat.isDigit_of_mem_toDigits (by omega) (by omega) hmem
      simp at this
  have htext := congrArg String.toList h
  rw [toList_toText_port hcan, toList_toText_port hcan'] at htext
  have hsplit := congrArg (List.splitOn ':') htext
  rw [List.splitOn_intercalate _ (hcolon ip port) (by simp),
    List.splitOn_intercalate _ (hcolon ip' port') (by simp)] at hsplit
  obtain ⟨hgroups, hport⟩ := List.append_inj' hsplit rfl
  refine ⟨groups_injective hgroups, ?_⟩
  have hdigits : Nat.toDigits 10 port = Nat.toDigits 10 port' := by
    simpa using hport
  rw [← Nat.ofDigitChars_ten_toDigits (n := port), hdigits,
    Nat.ofDigitChars_ten_toDigits]

end IpAddr

end Lib
