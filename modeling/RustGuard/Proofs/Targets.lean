/-
Which targets can be named, and by what name.

The command line speaks of addresses, networks, systems and countries.
The daemon reads the target of a `Ban` or an `Unban` as an address and as
nothing else, and an address has exactly one spelling. So a network, a
system or a country is refused whatever it is (they have a character no
address has); there is no second way to write a banned address; and the
texts an `Unban` takes something out of the table for are the ones
`List` shows, no more and no fewer.
-/
import RustGuard.Proofs.Dump

namespace RustGuard

open Lib

section Targets

variable {g : Guard} {utc : Option Int64} {target : String}

/-- Every text that is not the text of an address is refused, and
nothing is touched. -/
theorem refused (h : ∀ ip : Ipv4Addr, target ≠ ip.toText)
    (ttl : Option UInt64) :
    dispatch g utc (.ban target ttl) = (g, .error "invalid ip")
      ∧ dispatch g utc (.unban target) = (g, .error "invalid ip") := by
  have hip : Ipv4Addr.fromStr target = none := by
    cases hip : Ipv4Addr.fromStr target with
    | none => rfl
    | some ip => exact absurd (Ipv4Addr.fromStr_eq_some_iff.mp hip) (h ip)
  exact ⟨dispatch_ban_invalid hip, dispatch_unban_invalid hip⟩

/-- A text with a letter, a slash or any other character that is neither
a digit nor a dot is not the text of an address. -/
theorem ne_toText_of_mem {ch : Char} (hch : ch ∈ target.toList)
    (hdigit : ch.isDigit = false) (hdot : ch ≠ '.') (ip : Ipv4Addr) :
    target ≠ ip.toText := by
  rintro rfl
  rcases Ipv4Addr.mem_toText hch with h | h
  · rw [h] at hdigit
    cases hdigit
  · exact hdot h

/-- A line of the list is the text of an address in the table. -/
theorem mem_dump_iff {bannedIps : BannedIps} {text : String} :
    text ∈ dump bannedIps
      ↔ ∃ ip : Ipv4Addr, text = ip.toText
        ∧ (bannedIps.get? ip.toU32).isSome := by
  constructor
  · intro h
    obtain ⟨ip, hip, hin⟩ := lineOf_dump h
    exact ⟨ip, Ipv4Addr.fromStr_eq_some_iff.mp hip, hin⟩
  · rintro ⟨ip, rfl, hin⟩
    refine List.mem_map.mpr ⟨ip.toU32,
      (BoundedMap.mem_keys bannedIps ip.toU32).mpr hin, ?_⟩
    rw [Ipv4Addr.ofU32_toU32]

/-- An unban takes something out of the table if and only if its target
is listed. -/
theorem unban_removes_iff :
    (∃ key, (g.bannedIps.get? key).isSome
        ∧ (dispatch g utc (.unban target)).1.bannedIps.get? key = none)
      ↔ target ∈ dump g.bannedIps := by
  rw [mem_dump_iff]
  constructor
  · rintro ⟨key, hin, hout⟩
    cases hip : Ipv4Addr.fromStr target with
    | none =>
        rw [dispatch_unban_invalid hip] at hout
        have hnone : g.bannedIps.get? key = none := hout
        rw [hnone] at hin
        cases hin
    | some ip =>
        refine ⟨ip, Ipv4Addr.fromStr_eq_some_iff.mp hip, ?_⟩
        rw [dispatch_unban hip] at hout
        have hremoved : (g.bannedIps.remove ip.toU32).1.get? key = none := hout
        rw [BoundedMap.get?_remove] at hremoved
        by_cases hkey : key = ip.toU32
        · rw [← hkey]
          exact hin
        · rw [if_neg hkey] at hremoved
          rw [hremoved] at hin
          cases hin
  · rintro ⟨ip, rfl, hin⟩
    refine ⟨ip.toU32, hin, ?_⟩
    rw [dispatch_unban (Ipv4Addr.fromStr_toText ip)]
    show (g.bannedIps.remove ip.toU32).1.get? ip.toU32 = none
    rw [BoundedMap.get?_remove, if_pos rfl]

end Targets

/-- In every state, for every text: a `Ban` or an `Unban` of it is
accepted if and only if it is the text of an address, and otherwise
answered "invalid ip" with nothing touched, as is every text with a
character that is neither a digit nor a dot; and an `Unban` of it takes
something out of the table if and only if `List` shows it. -/
theorem targets_are_texts (g : Guard) (utc : Option Int64)
    (target : String) (ttl : Option UInt64) :
    ((dispatch g utc (.ban target ttl)).2 = .ok
      ↔ ∃ ip : Ipv4Addr, target = ip.toText)
    ∧ ((dispatch g utc (.unban target)).2 = .ok
      ↔ ∃ ip : Ipv4Addr, target = ip.toText)
    ∧ ((¬ ∃ ip : Ipv4Addr, target = ip.toText)
        ∨ (∃ ch ∈ target.toList, ch.isDigit = false ∧ ch ≠ '.') →
      dispatch g utc (.ban target ttl) = (g, .error "invalid ip")
        ∧ dispatch g utc (.unban target) = (g, .error "invalid ip"))
    ∧ ((∃ key, (g.bannedIps.get? key).isSome
        ∧ (dispatch g utc (.unban target)).1.bannedIps.get? key = none)
      ↔ ∃ items, (dispatch g utc .list).2 = .list items
        ∧ target ∈ items) := by
  have hrefused : (¬ ∃ ip : Ipv4Addr, target = ip.toText) →
      dispatch g utc (.ban target ttl) = (g, .error "invalid ip")
        ∧ dispatch g utc (.unban target) = (g, .error "invalid ip") :=
    fun h => refused (fun ip hip => h ⟨ip, hip⟩) ttl
  refine ⟨⟨fun hok => ?_, ?_⟩, ⟨fun hok => ?_, ?_⟩, ?_, ?_⟩
  · by_contra h
    rw [(hrefused h).1] at hok
    cases hok
  · rintro ⟨ip, rfl⟩
    rw [dispatch_ban (Ipv4Addr.fromStr_toText ip)]
  · by_contra h
    rw [(hrefused h).2] at hok
    cases hok
  · rintro ⟨ip, rfl⟩
    rw [dispatch_unban (Ipv4Addr.fromStr_toText ip)]
  · rintro (h | ⟨ch, hch, hdigit, hdot⟩)
    · exact hrefused h
    · exact refused (ne_toText_of_mem hch hdigit hdot) ttl
  · rw [unban_removes_iff]
    constructor
    · intro h
      exact ⟨dump g.bannedIps, rfl, h⟩
    · rintro ⟨items, hlist, h⟩
      obtain rfl : dump g.bannedIps = items :=
        DaemonResponse.list.inj hlist
      exact h

end RustGuard
