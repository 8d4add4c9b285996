/-
When does the order of requests matter?

To the requests for one address, always: the last one stands, and the
one right before it might as well not have been sent. To requests for
different addresses, only around the last entry of the table. Two bans of
new addresses cannot be swapped when one entry is left, and a ban of a
new address cannot be swapped with an unban when none is; in every other
case no answer and no verdict, from there on and for ever, tells the two
orders apart (`requests_compose`).

So a run that never bans more than 1024 addresses is a matter of what
was last asked for each of them (`order_irrelevant`), and a run without
an unban is a matter of who came first (`first_come_first_served`): the
first 1024 addresses have the table for good, expired or not.

Events become writes to the table (`Event.write?`, `run_writes`); the
rest is Lib/Writes.lean.
-/
import RustGuard.Proofs.Expiry
import RustGuard.Proofs.Stats
import RustGuard.Lib.Writes

namespace RustGuard

open Lib

-- ===================================================== events as writes

/-- What an event writes to the table. -/
def Event.write? : Event → Option (UInt32 × Option BanValue)
  | .request (.ban target ttl) utc =>
      (Ipv4Addr.fromStr target).map fun ip =>
        (ip.toU32, some ⟨endTime (getBootTimeNs utc) ttl⟩)
  | .request (.unban target) _ =>
      (Ipv4Addr.fromStr target).map fun ip => (ip.toU32, none)
  | .request .list _ => none
  | .request .stats _ => none
  | .frame _ _ => none

/-- The address an event asks to ban. -/
def Event.bans? : Event → Option Ipv4Addr
  | .request (.ban target _) _ => Ipv4Addr.fromStr target
  | _ => none

/-- The event is a ban or an unban of the address. -/
def Event.isAbout (ip : Ipv4Addr) (e : Event) : Bool :=
  e.write?.any fun w => w.1 = ip.toU32

/-- The address an event asks to unban. -/
def Event.unbans? : Event → Option Ipv4Addr
  | .request (.unban target) _ => Ipv4Addr.fromStr target
  | _ => none

theorem write?_ban {target : String} {ip : Ipv4Addr}
    (hip : Ipv4Addr.fromStr target = some ip) (ttl : Option UInt64)
    (utc : Option Int64) :
    Event.write? (.request (.ban target ttl) utc)
      = some (ip.toU32, some ⟨endTime (getBootTimeNs utc) ttl⟩) := by
  rw [Event.write?, hip, Option.map_some]

theorem write?_unban {target : String} {ip : Ipv4Addr}
    (hip : Ipv4Addr.fromStr target = some ip) (utc : Option Int64) :
    Event.write? (.request (.unban target) utc) = some (ip.toU32, none) := by
  rw [Event.write?, hip, Option.map_some]

/-- A ban writes a value under the key of its address, and nothing else
writes a value. -/
theorem write?_some_iff {e : Event} {key : UInt32} :
    (∃ v, e.write? = some (key, some v))
      ↔ ∃ ip, e.bans? = some ip ∧ ip.toU32 = key := by
  cases e with
  | frame ctx ktime => simp [Event.write?, Event.bans?]
  | request req utc =>
      cases req with
      | list | stats => simp [Event.write?, Event.bans?]
      | unban target => simp [Event.write?, Event.bans?]
      | ban target ttl =>
          cases hip : Ipv4Addr.fromStr target with
          | none => simp [Event.write?, Event.bans?, hip]
          | some ip => simp [Event.write?, Event.bans?, hip]

/-- One event. -/
theorem step_bannedIps (nt : NetworkTypes) (g : Guard) (e : Event) :
    (g.step nt e).1.bannedIps
      = match e.write? with
        | some w => g.bannedIps.write w
        | none => g.bannedIps := by
  cases e with
  | frame ctx ktime => rfl
  | request req utc =>
      show (dispatch g utc req).1.bannedIps = _
      cases req with
      | list => rfl
      | stats => rw [dispatch_stats]; rfl
      | ban target ttl =>
          cases hip : Ipv4Addr.fromStr target with
          | none =>
              rw [dispatch_ban_invalid hip, Event.write?, hip]
              rfl
          | some ip =>
              rw [dispatch_ban hip, write?_ban hip]
              rfl
      | unban target =>
          cases hip : Ipv4Addr.fromStr target with
          | none =>
              rw [dispatch_unban_invalid hip, Event.write?, hip]
              rfl
          | some ip =>
              rw [dispatch_unban hip, write?_unban hip]
              rfl

theorem step_write {nt : NetworkTypes} {g : Guard} {e : Event}
    {w : UInt32 × Option BanValue} (he : e.write? = some w) :
    (g.step nt e).1.bannedIps = g.bannedIps.write w := by
  rw [step_bannedIps, he]

/-- The table a history leaves is what its bans and unbans write, and
nothing else in it matters. -/
theorem run_writes (nt : NetworkTypes) (history : List Event) :
    (Guard.run nt history).bannedIps
      = BoundedMap.empty.writes (history.filterMap Event.write?) := by
  induction history using List.reverseRecOn with
  | nil => rfl
  | append_singleton history e ih =>
      rw [Guard.run, Machine.runState_append, ← Guard.run,
        List.filterMap_append, Machine.runState_cons, Machine.runState_nil,
        step_bannedIps, ih]
      cases hw : e.write? with
      | none => simp [hw]
      | some w => simp [hw, BoundedMap.writes_concat]

/-- No run touches the counter's map. -/
theorem run_stats (nt : NetworkTypes) (history : List Event) :
    (Guard.run nt history).stats = .empty := by
  refine Machine.runState_inv (Guard.step nt)
    (P := fun g => g.stats = .empty) (fun g e hg => ?_) rfl history
  cases e with
  | frame ctx ktime =>
      show (rustguard nt g.bannedIps g.stats ktime ctx).2.stats = .empty
      rw [rustguard_stats, hg]
      split
      · exact BoundedMap.modify_of_none _ rfl
      · rfl
  | request req utc =>
      show (dispatch g utc req).1.stats = .empty
      have harm := dispatch_arm g utc req
      generalize dispatch g utc req = r at harm ⊢
      cases harm with
      | ban | banInvalid | unban | unbanInvalid | list | counted | noStats =>
          exact hg

-- ==================================================== telling runs apart

/-- Two runs whose tables read alike answer alike for ever. -/
theorem sameAnswers_run {nt : NetworkTypes} {history history' : List Event}
    (h : ∀ key, (Guard.run nt history').bannedIps.get? key
      = (Guard.run nt history).bannedIps.get? key) (events : List Event) :
    SameAnswers nt (Guard.run nt history) (Guard.run nt history') events := by
  refine sameAnswers_of_get?_eq nt ?_ h events
  rw [run_stats, run_stats]

/-- One `List` shows which keys there are. -/
theorem isSome_of_sameAnswers {nt : NetworkTypes} {g g' : Guard}
    {utc : Option Int64}
    (h : SameAnswers nt g g' [.request .list utc]) (key : UInt32) :
    (g.bannedIps.get? key).isSome = (g'.bannedIps.get? key).isSome := by
  obtain ⟨hlist, -⟩ := List.forall₂_cons.mp h
  have hkeys : ∀ m : BannedIps, (Ipv4Addr.ofU32 key).toText
      ∈ (m.keys.map fun key => (Ipv4Addr.ofU32 key).toText)
        ↔ (m.get? key).isSome := by
    intro m
    rw [← BoundedMap.mem_keys]
    refine List.mem_map_of_injective (f := fun key : UInt32 =>
      (Ipv4Addr.ofU32 key).toText) fun a b hab => ?_
    exact Ipv4Addr.ofU32_injective (Ipv4Addr.toText_injective hab)
  have hsame := hlist (Ipv4Addr.ofU32 key).toText
  rw [hkeys, hkeys] at hsame
  exact Bool.eq_iff_iff.mpr hsame

-- ========================================================= two requests

/-- A history and two more events. -/
theorem run_two {nt : NetworkTypes} {history : List Event} {e e' : Event}
    {w w' : UInt32 × Option BanValue} (he : e.write? = some w)
    (he' : e'.write? = some w') :
    (Guard.run nt (history ++ [e, e'])).bannedIps
      = ((Guard.run nt history).bannedIps.write w).write w' := by
  rw [Guard.run, Machine.runState_append, ← Guard.run,
    Machine.runState_cons, Machine.runState_cons, Machine.runState_nil,
    step_write he', step_write he]

/-- After any history, of two valid requests in a row. If they are for
the same address, the first might as well not have been sent. If they are
for different ones, the two orders cannot be told apart by any events
that follow, if and only if neither request takes or frees the last entry
that the other one needs. -/
theorem requests_compose (nt : NetworkTypes) (history : List Event)
    (e e' : Event) (w w' : UInt32 × Option BanValue)
    (he : e.write? = some w) (he' : e'.write? = some w') :
    (w.1 = w'.1 → ∀ events, SameAnswers nt
      (Guard.run nt (history ++ [e, e'])) (Guard.run nt (history ++ [e']))
      events)
    ∧ (w.1 ≠ w'.1 →
      ((∀ events, SameAnswers nt (Guard.run nt (history ++ [e, e']))
          (Guard.run nt (history ++ [e', e])) events)
        ↔ ¬ ((Guard.run nt history).bannedIps.Crowds w w'
          ∨ (Guard.run nt history).bannedIps.Crowds w' w))) := by
  constructor
  · intro hkey events
    refine sameAnswers_run (fun key => ?_) events
    obtain ⟨k, o⟩ := w
    obtain ⟨k', o'⟩ := w'
    obtain rfl : k = k' := hkey
    have hone : (Guard.run nt (history ++ [e'])).bannedIps
        = (Guard.run nt history).bannedIps.write (k, o') := by
      rw [Guard.run, Machine.runState_append, ← Guard.run,
        Machine.runState_cons, Machine.runState_nil, step_write he']
    rw [run_two he he', hone, BoundedMap.write_write]
  · intro hne
    constructor
    · intro hall
      refine BoundedMap.not_crowds_of_swap hne fun key => ?_
      rw [← run_two he he', ← run_two he' he]
      exact isSome_of_sameAnswers (hall [.request .list none]) key
    · intro hno events
      refine sameAnswers_run (fun key => ?_) events
      rw [run_two he he', run_two he' he]
      exact (BoundedMap.swap_get? hne hno key).symm

/-- Two bans of a fresh daemon, either way round, and a `List`. -/
theorem requests_compose_fresh :
    SameAnswers networkTypes
      (Guard.run networkTypes ([] ++
        [.request (.ban "10.0.0.1" none) none,
          .request (.ban "10.0.0.2" none) none]))
      (Guard.run networkTypes ([] ++
        [.request (.ban "10.0.0.2" none) none,
          .request (.ban "10.0.0.1" none) none]))
      [.request .list none] := by
  refine ((requests_compose networkTypes []
    (.request (.ban "10.0.0.1" none) none)
    (.request (.ban "10.0.0.2" none) none)
    (0x0a000001, some ⟨0⟩) (0x0a000002, some ⟨0⟩) (by decide)
    (by decide)).2 (by decide)).mpr ?_ _
  -- an empty table is far from its last entry
  rintro (⟨-, -, ⟨-, -, hsize⟩ | ⟨hnone, -⟩⟩
    | ⟨-, -, ⟨-, -, hsize⟩ | ⟨hnone, -⟩⟩)
  · exact absurd hsize (by decide)
  · cases hnone
  · exact absurd hsize (by decide)
  · cases hnone

-- =========================================================== whole runs

/-- The keys a history writes values under are those of the addresses it
bans. -/
theorem write_isSome {history : List Event}
    {w : UInt32 × Option BanValue}
    (hw : w ∈ history.filterMap Event.write?) (hval : w.2.isSome) :
    ∃ ip ∈ history.filterMap Event.bans?, ip.toU32 = w.1 := by
  obtain ⟨e, he, hwrite⟩ := List.mem_filterMap.mp hw
  obtain ⟨key, value⟩ := w
  obtain ⟨v, rfl⟩ := Option.isSome_iff_exists.mp hval
  obtain ⟨ip, hip, hkey⟩ := write?_some_iff.mp ⟨v, hwrite⟩
  exact ⟨ip, List.mem_filterMap.mpr ⟨e, he, hip⟩, hkey⟩

/-- With at most 1024 addresses ever banned, the table holds what was
last asked for each. -/
theorem get?_run_of_few (nt : NetworkTypes) {history : List Event}
    (hfew : (history.filterMap Event.bans?).toFinset.card ≤ maxEntries)
    (key : UInt32) :
    (Guard.run nt history).bannedIps.get? key
      = latest (history.filterMap Event.write?) key := by
  have hcard : ((history.filterMap Event.bans?).toFinset.image
      Ipv4Addr.toU32).card ≤ maxEntries := Finset.card_image_le.trans hfew
  rw [run_writes]
  refine BoundedMap.writes_latest hcard (fun w hw hval => ?_) key
  obtain ⟨ip, hip, hkey⟩ := write_isSome hw hval
  exact Finset.mem_image.mpr ⟨ip, List.mem_toFinset.mpr hip, hkey⟩

/-- What is written under the key of an address. -/
theorem filter_write? (history : List Event) (ip : Ipv4Addr) :
    (history.filterMap Event.write?).filter (·.1 = ip.toU32)
      = (history.filter (·.isAbout ip)).filterMap Event.write? := by
  induction history with
  | nil => rfl
  | cons e history ih =>
      cases hw : e.write? with
      | none => simp [hw, Event.isAbout, ih]
      | some w =>
          by_cases hk : w.1 = ip.toU32 <;> simp [hw, hk, Event.isAbout, ih]

/-- A ban is about the address it bans. -/
theorem isAbout_of_bans {e : Event} {ip : Ipv4Addr}
    (h : e.bans? = some ip) : e.isAbout ip = true := by
  obtain ⟨v, hw⟩ := write?_some_iff.mpr ⟨ip, h, rfl⟩
  rw [Event.isAbout, hw, Option.any_some]
  exact decide_eq_true rfl

/-- A request is about the address it names. -/
theorem isAbout_of_write {e : Event} {ip : Ipv4Addr} {o : Option BanValue}
    (h : e.write? = some (ip.toU32, o)) (ip' : Ipv4Addr) :
    e.isAbout ip' = decide (ip = ip') := by
  rw [Event.isAbout, h, Option.any_some]
  exact decide_eq_decide.mpr Ipv4Addr.toU32_injective.eq_iff

/-- Two histories that ban and unban every single address in the same
order, at most 1024 addresses in all, cannot be told apart by any events
that follow, however the requests for different addresses, and whatever
else there is, are mixed. The table of both is what was last asked for
each address. -/
theorem order_irrelevant (nt : NetworkTypes) (history history' : List Event)
    (hfew : (history.filterMap Event.bans?).toFinset.card ≤ 1024)
    (hsame : ∀ ip : Ipv4Addr, history.filter (·.isAbout ip)
      = history'.filter (·.isAbout ip)) :
    (∀ ip : Ipv4Addr, (Guard.run nt history).bannedIps.get? ip.toU32
      = latest (history.filterMap Event.write?) ip.toU32)
    ∧ ∀ events, SameAnswers nt (Guard.run nt history)
        (Guard.run nt history') events := by
  have hsub : (history'.filterMap Event.bans?).toFinset
      ⊆ (history.filterMap Event.bans?).toFinset := by
    intro ip hip
    obtain ⟨e, he, hbans⟩ := List.mem_filterMap.mp (List.mem_toFinset.mp hip)
    have hmem : e ∈ history'.filter (·.isAbout ip) :=
      List.mem_filter.mpr ⟨he, isAbout_of_bans hbans⟩
    rw [← hsame ip] at hmem
    exact List.mem_toFinset.mpr (List.mem_filterMap.mpr
      ⟨e, (List.mem_filter.mp hmem).1, hbans⟩)
  have hfew' := (Finset.card_le_card hsub).trans hfew
  refine ⟨fun ip => get?_run_of_few nt hfew ip.toU32, fun events => ?_⟩
  refine sameAnswers_run (fun key => ?_) events
  have hkey := Ipv4Addr.toU32_ofU32 key
  rw [get?_run_of_few nt hfew, get?_run_of_few nt hfew', ← latest_filter,
    ← latest_filter (history.filterMap Event.write?), ← hkey,
    filter_write?, filter_write?, hsame]

/-- Two clients, a request of the one before or after those of the
other, and a `List`. -/
theorem order_irrelevant_two :
    SameAnswers networkTypes
      (Guard.run networkTypes
        [.request (.ban "10.0.0.1" none) none, .request .list none,
          .request (.unban "10.0.0.1") none,
          .request (.ban "10.0.0.2" none) none])
      (Guard.run networkTypes
        [.request (.ban "10.0.0.2" none) none,
          .request (.ban "10.0.0.1" none) none,
          .request (.unban "10.0.0.1") none])
      [.request .list none] := by
  have h1 : Ipv4Addr.fromStr "10.0.0.1" = some ⟨10, 0, 0, 1⟩ := by decide
  have h2 : Ipv4Addr.fromStr "10.0.0.2" = some ⟨10, 0, 0, 2⟩ := by decide
  have hone : ∀ ip, Event.isAbout ip (.request (.ban "10.0.0.1" none) none)
      = decide (⟨10, 0, 0, 1⟩ = ip) :=
    isAbout_of_write (write?_ban h1 none none)
  have hundo : ∀ ip, Event.isAbout ip (.request (.unban "10.0.0.1") none)
      = decide (⟨10, 0, 0, 1⟩ = ip) :=
    isAbout_of_write (write?_unban h1 none)
  have htwo : ∀ ip, Event.isAbout ip (.request (.ban "10.0.0.2" none) none)
      = decide (⟨10, 0, 0, 2⟩ = ip) :=
    isAbout_of_write (write?_ban h2 none none)
  have hlist : ∀ ip, Event.isAbout ip (.request .list none) = false :=
    fun _ => rfl
  refine (order_irrelevant networkTypes _ _
    ((List.toFinset_card_le _).trans ?_) fun ip => ?_).2 _
  · exact (List.length_filterMap_le ..).trans (by decide)
  simp only [List.filter_cons, hone, hundo, htwo, hlist]
  by_cases hip : ⟨10, 0, 0, 1⟩ = ip
  · have hne : (⟨10, 0, 0, 2⟩ : Ipv4Addr) ≠ ip := by
      rw [← hip]
      decide
    simp [hip, hne]
  · simp [hip]

-- ========================================================= first come

/-- Without unbans, what an event writes under is the key of what it
bans. -/
theorem write?_of_no_unban {e : Event} (h : e.unbans? = none) :
    e.write?.map Prod.fst = e.bans?.map Ipv4Addr.toU32
      ∧ ∀ w, e.write? = some w → w.2.isSome := by
  cases e with
  | frame ctx ktime => exact ⟨rfl, nofun⟩
  | request req utc =>
      cases req with
      | list | stats => exact ⟨rfl, nofun⟩
      | unban target =>
          have hip : Ipv4Addr.fromStr target = none := h
          have hwrite : Event.write? (.request (.unban target) utc)
              = none := by
            rw [Event.write?, hip, Option.map_none]
          rw [hwrite]
          exact ⟨rfl, nofun⟩
      | ban target ttl =>
          cases hip : Ipv4Addr.fromStr target with
          | none => simp [Event.write?, Event.bans?, hip]
          | some ip =>
              rw [write?_ban hip]
              refine ⟨by rw [Event.bans?, hip]; rfl, fun w hw => ?_⟩
              obtain rfl := Option.some.inj hw
              rfl

theorem keys_of_no_unban {history : List Event}
    (hno : ∀ e ∈ history, e.unbans? = none) :
    (history.filterMap Event.write?).map Prod.fst
      = (history.filterMap Event.bans?).map Ipv4Addr.toU32 := by
  rw [List.map_filterMap, List.map_filterMap]
  exact List.filterMap_congr fun e he => (write?_of_no_unban (hno e he)).1

/-- Without unbans, every write stores something. -/
theorem write_isSome_of_no_unban {history : List Event}
    (hno : ∀ e ∈ history, e.unbans? = none) :
    ∀ w ∈ history.filterMap Event.write?, w.2.isSome := by
  intro w hw
  obtain ⟨e, he, hwrite⟩ := List.mem_filterMap.mp hw
  exact (write?_of_no_unban (hno e he)).2 w hwrite

/-- The table of a run without unbans. -/
theorem get?_run_of_no_unban (nt : NetworkTypes) {history : List Event}
    (hno : ∀ e ∈ history, e.unbans? = none) (ip : Ipv4Addr) :
    (Guard.run nt history).bannedIps.get? ip.toU32
      = if ip ∈ (firsts (history.filterMap Event.bans?)).take maxEntries
        then latest (history.filterMap Event.write?) ip.toU32 else none := by
  have hholds : ((BoundedMap.empty : BannedIps).writes
      (history.filterMap Event.write?)).HoldsFirsts
        (firsts ((history.filterMap Event.write?).map Prod.fst))
        (latest (history.filterMap Event.write?)) :=
    BoundedMap.writes_firsts (write_isSome_of_no_unban hno)
  rw [run_writes, hholds.get?, keys_of_no_unban hno,
    firsts_map Ipv4Addr.toU32_injective, ← List.map_take]
  have hmem := List.mem_map_of_injective Ipv4Addr.toU32_injective (a := ip)
    (l := (firsts (history.filterMap Event.bans?)).take maxEntries)
  by_cases hip : ip ∈ (firsts (history.filterMap Event.bans?)).take maxEntries
  · rw [if_pos hip, if_pos (hmem.mpr hip)]
  · rw [if_neg hip, if_neg fun h => hip (hmem.mp h)]

/-- Who is in the table of a run without unbans. -/
theorem isSome_run_of_no_unban (nt : NetworkTypes) {history : List Event}
    (hno : ∀ e ∈ history, e.unbans? = none) (ip : Ipv4Addr) :
    ((Guard.run nt history).bannedIps.get? ip.toU32).isSome
      ↔ ip ∈ (firsts (history.filterMap Event.bans?)).take maxEntries := by
  rw [get?_run_of_no_unban nt hno]
  split
  case isFalse hip => simp [hip]
  case isTrue hip =>
    refine iff_of_true (latest_isSome (write_isSome_of_no_unban hno) ?_) hip
    rw [keys_of_no_unban hno]
    exact List.mem_map_of_mem (mem_firsts.mp (List.mem_of_mem_take hip))

/-- A run without unbans gives the table to the first 1024 addresses it
bans, each with the end it was last given, and to nobody else. Once there
are as many, no later ban changes who is in the table, however long the
bans in it have been over. -/
theorem first_come_first_served (nt : NetworkTypes) (history : List Event)
    (hno : ∀ e ∈ history, e.unbans? = none) :
    (∀ ip : Ipv4Addr, (Guard.run nt history).bannedIps.get? ip.toU32
      = if ip ∈ (firsts (history.filterMap Event.bans?)).take 1024
        then latest (history.filterMap Event.write?) ip.toU32 else none)
    ∧ ∀ later : List Event, (∀ e ∈ later, e.unbans? = none) →
      1024 ≤ (firsts (history.filterMap Event.bans?)).length →
      ∀ ip : Ipv4Addr,
        ((Guard.run nt (history ++ later)).bannedIps.get? ip.toU32).isSome
          ↔ ((Guard.run nt history).bannedIps.get? ip.toU32).isSome := by
  refine ⟨get?_run_of_no_unban nt hno, fun later hlater hfull ip => ?_⟩
  have hboth : ∀ e ∈ history ++ later, e.unbans? = none := by
    intro e he
    rcases List.mem_append.mp he with he | he
    · exact hno e he
    · exact hlater e he
  obtain ⟨rest, hrest⟩ := firsts_prefix (history.filterMap Event.bans?)
    (later.filterMap Event.bans?)
  have hroom : maxEntries ≤ (firsts (history.filterMap Event.bans?)).length :=
    hfull
  rw [isSome_run_of_no_unban nt hboth, isSome_run_of_no_unban nt hno,
    List.filterMap_append, ← hrest, List.take_append_of_le_length hroom]

/-- One address banned twice, and one in between. -/
theorem first_come_first_served_two :
    (Guard.run networkTypes
        [.request (.ban "10.0.0.1" (some 1)) (some 5),
          .request (.ban "10.0.0.2" none) none,
          .request (.ban "10.0.0.1" none) none]).bannedIps.get?
        (Ipv4Addr.toU32 ⟨10, 0, 0, 1⟩) = some ⟨0⟩ := by
  rw [(first_come_first_served networkTypes
    [.request (.ban "10.0.0.1" (some 1)) (some 5),
      .request (.ban "10.0.0.2" none) none,
      .request (.ban "10.0.0.1" none) none] (by decide)).1 ⟨10, 0, 0, 1⟩]
  decide

end RustGuard
