/-
`list` as a dump: what it prints can be fed back, line by line, in any
order.

Three facts about one answer. Its lines, read the way a target is read,
are the keys of the table, each once. Sent as `unban`s they empty the
table. Sent as permanent `ban`s to a daemon with an empty table they
give a table with the same keys, and that none of those bans is lost on
the way (the daemon ignores a failed insert, and says `Ok`) is a matter
of room: a table on its way to becoming the dumped one holds only keys
of the dumped one, and that had room for them all.
-/
import RustGuard.Proofs.Dispatch

namespace RustGuard

open Lib

-- ====================================================== what is replayed

/-- The texts of a dump sent back as requests, each with what the clock
says then. -/
def replay (req : String → DaemonRequest)
    (lines : List (String × Option Int64)) : List Event :=
  lines.map fun line => .request (req line.1) line.2

/-- A line of a dump of the table. -/
def LineOf (bannedIps : BannedIps) (text : String) (ip : Ipv4Addr) : Prop :=
  Ipv4Addr.fromStr text = some ip ∧ (bannedIps.get? ip.toU32).isSome

/-- The texts `list` answers. -/
def dump (bannedIps : BannedIps) : List String :=
  bannedIps.keys.map fun key => (Ipv4Addr.ofU32 key).toText

section Lines

variable {bannedIps : BannedIps}

/-- The one key a line names. -/
theorem LineOf.names_iff {text : String} {ip : Ipv4Addr}
    (h : LineOf bannedIps text ip) {key : UInt32} :
    Ipv4Addr.fromStr text = some (Ipv4Addr.ofU32 key) ↔ key = ip.toU32 := by
  rw [h.1, Option.some.injEq, Ipv4Addr.eq_ofU32_iff]

/-- Every line is one of an address in the table. -/
theorem lineOf_dump {text : String} (h : text ∈ dump bannedIps) :
    ∃ ip, LineOf bannedIps text ip := by
  obtain ⟨key, hkey, rfl⟩ := List.mem_map.mp h
  refine ⟨Ipv4Addr.ofU32 key, Ipv4Addr.fromStr_toText _, ?_⟩
  rw [Ipv4Addr.toU32_ofU32]
  exact (BoundedMap.mem_keys bannedIps key).mp hkey

variable {lines : List (String × Option Int64)}

/-- A replayed dump is of lines of the table, whatever the order. -/
theorem lineOf_of_perm (hperm : (lines.map Prod.fst).Perm (dump bannedIps)) :
    ∀ line ∈ lines, ∃ ip, LineOf bannedIps line.1 ip := by
  intro line hline
  exact lineOf_dump (hperm.mem_iff.mp (List.mem_map_of_mem hline))

/-- And it has a line for the keys of the table and for no other. -/
theorem named_iff_of_perm
    (hperm : (lines.map Prod.fst).Perm (dump bannedIps)) (key : UInt32) :
    (∃ line ∈ lines, Ipv4Addr.fromStr line.1 = some (Ipv4Addr.ofU32 key))
      ↔ (bannedIps.get? key).isSome := by
  constructor
  · intro ⟨line, hline, hkey⟩
    obtain ⟨ip, hlineOf⟩ := lineOf_of_perm hperm line hline
    rw [hlineOf.names_iff.mp hkey]
    exact hlineOf.2
  · intro hin
    have htext : (Ipv4Addr.ofU32 key).toText ∈ dump bannedIps :=
      List.mem_map_of_mem ((BoundedMap.mem_keys bannedIps key).mpr hin)
    obtain ⟨line, hline, heq⟩ := List.mem_map.mp (hperm.mem_iff.mpr htext)
    exact ⟨line, hline, by rw [heq, Ipv4Addr.fromStr_toText]⟩

end Lines

section Replay

variable (nt : NetworkTypes) {bannedIps : BannedIps} {g : Guard}
  {lines : List (String × Option Int64)}

/-- Unbans take out the addresses they name and nothing else. -/
theorem replay_unban_get?
    (hlines : ∀ line ∈ lines, ∃ ip, LineOf bannedIps line.1 ip)
    (key : UInt32) :
    (Machine.runState (Guard.step nt) g (replay .unban lines)).bannedIps.get?
        key
      = if ∃ line ∈ lines,
          Ipv4Addr.fromStr line.1 = some (Ipv4Addr.ofU32 key) then none
        else g.bannedIps.get? key := by
  induction lines generalizing g with
  | nil => simp [replay]
  | cons line lines ih =>
      obtain ⟨ip, hline⟩ := hlines line (by simp)
      have hstep : (g.step nt (.request (.unban line.1) line.2)).1
          = { g with bannedIps := (g.bannedIps.remove ip.toU32).1 } := by
        show (dispatch g line.2 (.unban line.1)).1 = _
        rw [dispatch_unban hline.1]
      rw [replay, List.map_cons, Machine.runState_cons, hstep]
      refine (ih fun line' h => hlines line' (by simp [h])).trans ?_
      rw [BoundedMap.get?_remove]
      by_cases hrest : ∃ line ∈ lines,
          Ipv4Addr.fromStr line.1 = some (Ipv4Addr.ofU32 key)
      · simp [hrest]
      · simp [hrest, hline.names_iff]

/-- Bans of addresses of a table, sent to a daemon that holds some of
them already, add the addresses they name: there is room for every
one. -/
theorem replay_ban_isSome
    (hlines : ∀ line ∈ lines, ∃ ip, LineOf bannedIps line.1 ip)
    (hsub : ∀ key, (g.bannedIps.get? key).isSome →
      (bannedIps.get? key).isSome) (key : UInt32) :
    ((Machine.runState (Guard.step nt) g
        (replay (.ban · none) lines)).bannedIps.get? key).isSome
      ↔ (∃ line ∈ lines,
          Ipv4Addr.fromStr line.1 = some (Ipv4Addr.ofU32 key))
        ∨ (g.bannedIps.get? key).isSome := by
  induction lines generalizing g with
  | nil => simp [replay]
  | cons line lines ih =>
      obtain ⟨ip, hline⟩ := hlines line (by simp)
      -- an address that is not there yet leaves the table smaller than
      -- the dumped one
      have hfits : g.bannedIps.Fits ip.toU32 := by
        cases hget : g.bannedIps.get? ip.toU32 with
        | some ban => exact Or.inl (by simp [hget])
        | none =>
            have hlt := BoundedMap.size_lt_of_dom hsub hget hline.2
            exact Or.inr (Nat.lt_of_lt_of_le hlt bannedIps.size_le)
      obtain ⟨value, hstep⟩ : ∃ value,
          (g.step nt (.request (.ban line.1 none) line.2)).1
            = { g with
              bannedIps := (g.bannedIps.insert ip.toU32 value).1 } := by
        refine ⟨⟨endTime (getBootTimeNs line.2) none⟩, ?_⟩
        show (dispatch g line.2 (.ban line.1 none)).1 = _
        rw [dispatch_ban hline.1]
      have hget : ∀ key, ((g.bannedIps.insert ip.toU32 value).1.get?
          key).isSome ↔ key = ip.toU32 ∨ (g.bannedIps.get? key).isSome := by
        intro key
        rw [BoundedMap.get?_insert]
        by_cases hkey : key = ip.toU32
        · simp [hkey, hfits]
        · simp [hkey]
      rw [replay, List.map_cons, Machine.runState_cons, hstep]
      refine (ih (fun line' h => hlines line' (by simp [h])) ?_).trans ?_
      · intro key hsome
        rcases (hget key).mp hsome with rfl | hsome
        · exact hline.2
        · exact hsub key hsome
      · show _ ∨ ((g.bannedIps.insert ip.toU32 value).1.get? key).isSome ↔ _
        rw [hget, List.exists_mem_cons_iff, hline.names_iff, or_assoc,
          or_left_comm]

end Replay

/-- A `list` is a complete dump of the table and can be replayed: its
texts parse to the keys, each once; unbanning them in any order empties
the table; banning them in any order fills an empty table with the same
keys. -/
theorem list_replayable (nt : NetworkTypes) (history : List Event)
    (utc : Option Int64) :
    ∃ items,
      dispatch (Guard.run nt history) utc .list
        = (Guard.run nt history, .list items)
      ∧ (∃ ips : List Ipv4Addr,
        items.map Ipv4Addr.fromStr = ips.map some
        ∧ (ips.map Ipv4Addr.toU32).Nodup
        ∧ ∀ key, key ∈ ips.map Ipv4Addr.toU32
          ↔ ((Guard.run nt history).bannedIps.get? key).isSome)
      ∧ (∀ lines : List (String × Option Int64),
        (lines.map Prod.fst).Perm items → ∀ key,
        (Machine.runState (Guard.step nt) (Guard.run nt history)
          (replay .unban lines)).bannedIps.get? key = none)
      ∧ (∀ (lines : List (String × Option Int64)) (g : Guard),
        (lines.map Prod.fst).Perm items →
        (∀ key, g.bannedIps.get? key = none) → ∀ key,
        ((Machine.runState (Guard.step nt) g
            (replay (.ban · none) lines)).bannedIps.get? key).isSome
          ↔ ((Guard.run nt history).bannedIps.get? key).isSome) := by
  generalize Guard.run nt history = dumped
  refine ⟨dump dumped.bannedIps, rfl, ?_, ?_, ?_⟩
  · refine ⟨dumped.bannedIps.keys.map Ipv4Addr.ofU32, ?_, ?_, ?_⟩
    · simp [dump]
    · simpa [List.map_map, Function.comp_def]
        using dumped.bannedIps.keys_nodup
    · intro key
      simpa [List.map_map, Function.comp_def]
        using BoundedMap.mem_keys dumped.bannedIps key
  · intro lines hperm key
    rw [replay_unban_get? nt (lineOf_of_perm hperm)]
    split
    · rfl
    · rename_i hno
      rw [named_iff_of_perm hperm] at hno
      simpa using hno
  · intro lines g hperm hempty key
    rw [replay_ban_isSome nt (lineOf_of_perm hperm) (by simp [hempty]),
      named_iff_of_perm hperm, hempty]
    simp

end RustGuard
