/-
Can anyone tell an expired ban from no ban?

The XDP program cannot: past its end a ban stops nothing. The daemon can,
in two places, because it never looks at an end time. `List` lists every
key, and the command line prints the lot under "Active bans:"; and an
entry that is over still counts towards the 1024, so a new ban can be
lost to it.

# The argument

Two runs over the same events, one from a table `T`, one from `T` without
the entries that are over at `k`. `Behind` relates the two states: equal
but for entries of the first that are over at `k`. One step keeps it and
answers alike (`behind_step`), if the step is not one of the two places
(`Unnoticed`); the rest is the lockstep rule. In the other direction one
`List` is enough to tell the two apart, so `expiry_invisible` also says
when NO continuation can.
-/
import RustGuard.Proofs.Enforcement

namespace RustGuard

open Lib

-- ========================================================= the two runs

/-- The ban is over at `now`: it has an end, and the end is past. -/
def BanValue.expired (ban : BanValue) (now : Nat) : Bool :=
  ban.endTime ≠ 0 ∧ ban.endTime.toNat < now

/-- The state without the entries that are over at `k`. -/
def Guard.prune (g : Guard) (k : Nat) : Guard :=
  { g with bannedIps := g.bannedIps.filter fun ban => !ban.expired k }

/-- Some entry of the table is over at `k`. -/
def Guard.HoldsExpired (g : Guard) (k : Nat) : Prop :=
  ∃ key ban, g.bannedIps.get? key = some ban ∧ ban.expired k

/-- The times of the frames among some events. -/
def ktimes (events : List Event) : List Nat :=
  events.filterMap fun
    | .frame _ ktime => some ktime
    | .request _ _ => none

/-- The events can follow the instant `k`: no frame is earlier, and the
frames come in order. -/
def Continues (k : Nat) (events : List Event) : Prop :=
  (∀ ktime ∈ ktimes events, k ≤ ktime)
    ∧ (ktimes events).Pairwise (· ≤ ·)

/-- The same answer, `List` answers as sets. -/
def Output.Same : Output → Output → Prop
  | .response (.list items), .response (.list items') =>
      ∀ item, item ∈ items ↔ item ∈ items'
  | o, o' => o = o'

theorem Output.Same.refl (o : Output) : o.Same o := by
  cases o with
  | verdict action => rfl
  | response resp => cases resp <;> simp [Output.Same]

/-- The step does not look at what is over: a `List` finds nothing that
is over, and a ban either has room or is not short of room because of an
entry that is over. -/
def Unnoticed (k : Nat) (g : Guard) : Event → Prop
  | .request .list _ => ¬ g.HoldsExpired k
  | .request (.ban target _) _ =>
      ∀ ip, Ipv4Addr.fromStr target = some ip →
        g.bannedIps.Fits ip.toU32 ∨ ¬ g.HoldsExpired k
  | _ => True

-- ======================================================= the simulation

/-- The second state is the first without some entries that are over
at `k`. -/
structure Behind (k : Nat) (g g' : Guard) : Prop where
  stats : g.stats = g'.stats
  entries : ∀ key, g'.bannedIps.get? key = g.bannedIps.get? key
    ∨ (g'.bannedIps.get? key = none
      ∧ ∃ ban, g.bannedIps.get? key = some ban ∧ ban.expired k)

theorem behind_prune (g : Guard) (k : Nat) : Behind k g (g.prune k) where
  stats := rfl
  entries key := by
    show (g.bannedIps.filter _).get? key = _
      ∨ ((g.bannedIps.filter _).get? key = none ∧ _)
    rw [BoundedMap.get?_filter]
    cases hget : g.bannedIps.get? key with
    | none => exact Or.inl rfl
    | some ban =>
        cases hexp : ban.expired k with
        | true => exact Or.inr ⟨by simp [hexp], ban, rfl, hexp⟩
        | false => exact Or.inl (by simp [hexp])

namespace Behind

variable {k : Nat} {g g' : Guard}

/-- What the second state has, the first has. -/
theorem isSome (h : Behind k g g') (key : UInt32)
    (hkey : (g'.bannedIps.get? key).isSome) :
    (g.bannedIps.get? key).isSome := by
  rcases h.entries key with heq | ⟨hnone, -⟩
  · rw [← heq]
    exact hkey
  · rw [hnone] at hkey
    cases hkey

/-- With nothing over in the first, the two tables read alike. -/
theorem get?_eq (h : Behind k g g') (hno : ¬ g.HoldsExpired k)
    (key : UInt32) : g'.bannedIps.get? key = g.bannedIps.get? key := by
  rcases h.entries key with heq | ⟨-, ban, hget, hexp⟩
  · exact heq
  · exact absurd ⟨key, ban, hget, hexp⟩ hno

/-- The second table has room where the first has. -/
theorem fits (h : Behind k g g') {key : UInt32}
    (hfit : g.bannedIps.Fits key) : g'.bannedIps.Fits key := by
  have hsize := BoundedMap.size_le_of_dom h.isSome
  rcases hfit with hsome | hroom
  · rcases h.entries key with heq | ⟨hnone, -⟩
    · exact Or.inl (by rw [heq]; exact hsome)
    · -- the entry it lacks is the room it has
      have hlt := BoundedMap.size_lt_of_dom h.isSome hnone hsome
      exact Or.inr (hlt.trans_le g.bannedIps.size_le)
  · exact Or.inr (hsize.trans_lt hroom)

/-- And, where nothing is over, only there. -/
theorem fits_of_fits (h : Behind k g g') (hno : ¬ g.HoldsExpired k)
    {key : UInt32} (hfit : g'.bannedIps.Fits key) :
    g.bannedIps.Fits key := by
  have hsize : g.bannedIps.size ≤ g'.bannedIps.size :=
    BoundedMap.size_le_of_dom fun key hkey => by
      rw [h.get?_eq hno]
      exact hkey
  rcases hfit with hsome | hroom
  · exact Or.inl (h.isSome key hsome)
  · exact Or.inr (hsize.trans_lt hroom)

/-- A frame at `k` or later meets the same bans. -/
theorem banned_eq (h : Behind k g g') (srcAddr : UInt32) {ktime : Nat}
    (hk : k ≤ ktime) :
    banned g'.bannedIps srcAddr ktime = banned g.bannedIps srcAddr ktime := by
  rw [banned, banned]
  rcases h.entries srcAddr with heq | ⟨hnone, ban, hget, hexp⟩
  · rw [heq]
  · have hover : ban.endTime ≠ 0 ∧ ban.endTime.toNat < k := by
      simpa [BanValue.expired] using hexp
    rw [hnone, hget, Option.any_none, Option.any_some, eq_comm,
      inForce_eq_false_iff]
    exact ⟨hover.1, hover.2.trans_le hk⟩

/-- A ban, stored in both tables or in neither. -/
theorem insert (h : Behind k g g') {key : UInt32} (value : BanValue)
    (hfit : g.bannedIps.Fits key ↔ g'.bannedIps.Fits key) :
    Behind k { g with bannedIps := (g.bannedIps.insert key value).1 }
      { g' with bannedIps := (g'.bannedIps.insert key value).1 } where
  stats := h.stats
  entries key' := by
    show (g'.bannedIps.insert key value).1.get? key'
        = (g.bannedIps.insert key value).1.get? key'
      ∨ ((g'.bannedIps.insert key value).1.get? key' = none
        ∧ ∃ ban, (g.bannedIps.insert key value).1.get? key' = some ban ∧ _)
    rw [BoundedMap.get?_insert, BoundedMap.get?_insert]
    by_cases hnew : key' = key ∧ g.bannedIps.Fits key
    · rw [if_pos hnew, if_pos ⟨hnew.1, hfit.mp hnew.2⟩]
      exact Or.inl rfl
    · rw [if_neg hnew, if_neg (fun hc => hnew ⟨hc.1, hfit.mpr hc.2⟩)]
      exact h.entries key'

/-- An unban. -/
theorem remove (h : Behind k g g') (key : UInt32) :
    Behind k { g with bannedIps := (g.bannedIps.remove key).1 }
      { g' with bannedIps := (g'.bannedIps.remove key).1 } where
  stats := h.stats
  entries key' := by
    show (g'.bannedIps.remove key).1.get? key'
        = (g.bannedIps.remove key).1.get? key'
      ∨ ((g'.bannedIps.remove key).1.get? key' = none
        ∧ ∃ ban, (g.bannedIps.remove key).1.get? key' = some ban ∧ _)
    rw [BoundedMap.get?_remove, BoundedMap.get?_remove]
    by_cases hkey : key' = key
    · rw [if_pos hkey, if_pos hkey]
      exact Or.inl rfl
    · rw [if_neg hkey, if_neg hkey]
      exact h.entries key'

/-- With nothing over in the first, the two list the same addresses. -/
theorem list_same (h : Behind k g g') (hno : ¬ g.HoldsExpired k)
    (utc : Option Int64) :
    Output.Same (.response (dispatch g utc .list).2)
      (.response (dispatch g' utc .list).2) := by
  intro item
  rw [List.mem_map, List.mem_map]
  simp only [BoundedMap.mem_keys, h.get?_eq hno]

end Behind

/-- The frames of a continuation are not earlier than `k`. -/
def Event.NotBefore (k : Nat) : Event → Prop
  | .frame _ ktime => k ≤ ktime
  | .request _ _ => True

/-- One step: still behind, and the same answer. -/
theorem behind_step (nt : NetworkTypes) (k : Nat) (g g' : Guard)
    (e : Event) (h : Behind k g g') (he : Unnoticed k g e ∧ e.NotBefore k) :
    Behind k (g.step nt e).1 (g'.step nt e).1
      ∧ (g.step nt e).2.Same (g'.step nt e).2 := by
  obtain ⟨hun, hk⟩ := he
  cases e with
  | frame ctx ktime =>
      have hv : verdict g'.bannedIps ktime ctx
          = verdict g.bannedIps ktime ctx := by
        simp only [verdict, h.banned_eq ctx.srcAddr hk]
      constructor
      · refine ⟨?_, h.entries⟩
        show (rustguard nt g.bannedIps g.stats ktime ctx).2.stats
          = (rustguard nt g'.bannedIps g'.stats ktime ctx).2.stats
        rw [rustguard_stats, rustguard_stats, hv, h.stats]
      · rw [step_frame_verdict, step_frame_verdict, hv]
        exact Output.Same.refl _
  | request req utc =>
      show Behind k (dispatch g utc req).1 (dispatch g' utc req).1
        ∧ Output.Same (.response (dispatch g utc req).2)
          (.response (dispatch g' utc req).2)
      cases req with
      | list => exact ⟨h, h.list_same hun utc⟩
      | stats =>
          rw [dispatch_stats, dispatch_stats]
          refine ⟨h, ?_⟩
          rw [dispatch, dispatch, h.stats]
          split <;> exact Output.Same.refl _
      | ban target ttl =>
          cases hip : Ipv4Addr.fromStr target with
          | none =>
              rw [dispatch_ban_invalid hip, dispatch_ban_invalid hip]
              exact ⟨h, Output.Same.refl _⟩
          | some ip =>
              rw [dispatch_ban hip, dispatch_ban hip]
              refine ⟨h.insert _ ⟨h.fits, fun hfit => ?_⟩,
                Output.Same.refl _⟩
              rcases hun ip hip with hroom | hno
              · exact hroom
              · exact h.fits_of_fits hno hfit
      | unban target =>
          cases hip : Ipv4Addr.fromStr target with
          | none =>
              rw [dispatch_unban_invalid hip, dispatch_unban_invalid hip]
              exact ⟨h, Output.Same.refl _⟩
          | some ip =>
              rw [dispatch_unban hip, dispatch_unban hip]
              exact ⟨h.remove _, Output.Same.refl _⟩

/-- Every event of a continuation is at `k` or later. -/
theorem Continues.notBefore {k : Nat} {events : List Event}
    (h : Continues k events) : ∀ e ∈ events, e.NotBefore k := by
  intro e he
  cases e with
  | request req utc => trivial
  | frame ctx ktime =>
      exact h.1 ktime (List.mem_filterMap.mpr ⟨_, he, rfl⟩)

-- ==================================================== telling them apart

/-- The answers of two runs over the same events, one by one. -/
def SameAnswers (nt : NetworkTypes) (g g' : Guard) (events : List Event) :
    Prop :=
  List.Forall₂ Output.Same (Machine.outputs (Guard.step nt) g events)
    (Machine.outputs (Guard.step nt) g' events)

/-- Nothing is over at the beginning of time, so there a state is behind
only what reads alike, and no step can notice. -/
theorem sameAnswers_of_get?_eq (nt : NetworkTypes) {g g' : Guard}
    (hstats : g.stats = g'.stats)
    (hget : ∀ key, g'.bannedIps.get? key = g.bannedIps.get? key)
    (events : List Event) : SameAnswers nt g g' events := by
  have hnever : ∀ g : Guard, ¬ g.HoldsExpired 0 := by
    intro g hold
    obtain ⟨key, ban, -, hexp⟩ := hold
    simp [BanValue.expired] at hexp
  have hall : ∀ (g : Guard) (e : Event), Unnoticed 0 g e ∧ e.NotBefore 0 := by
    intro g e
    cases e with
    | frame ctx ktime => exact ⟨trivial, Nat.zero_le ktime⟩
    | request req utc =>
        cases req with
        | ban target ttl => exact ⟨fun _ _ => Or.inr (hnever g), trivial⟩
        | unban target => exact ⟨trivial, trivial⟩
        | list => exact ⟨hnever g, trivial⟩
        | stats => exact ⟨trivial, trivial⟩
  have hbehind : Behind 0 g g' := ⟨hstats, fun key => Or.inl (hget key)⟩
  exact Machine.lockstep (Guard.step nt) (behind_step nt 0) hbehind
    (Machine.Along.of_forall _ hall g events)

/-- One `List` tells a table that holds something over from the table
without it. -/
theorem list_notices (nt : NetworkTypes) {g : Guard} {k : Nat}
    (h : g.HoldsExpired k) (utc : Option Int64) :
    ¬ SameAnswers nt g (g.prune k) [.request .list utc] := by
  obtain ⟨key, ban, hget, hexp⟩ := h
  intro hsame
  obtain ⟨hlist, -⟩ := List.forall₂_cons.mp hsame
  have hitem : (Ipv4Addr.ofU32 key).toText
      ∈ g.bannedIps.keys.map fun key => (Ipv4Addr.ofU32 key).toText := by
    refine List.mem_map.mpr ⟨key, ?_, rfl⟩
    rw [BoundedMap.mem_keys, hget]
    rfl
  obtain ⟨key', hkey', htext⟩ := List.mem_map.mp ((hlist _).mp hitem)
  -- the text names the key, so the pruned table would still have it
  have hkey : key' = key :=
    Ipv4Addr.ofU32_injective (Ipv4Addr.toText_injective htext)
  rw [hkey, BoundedMap.mem_keys] at hkey'
  have hgone : (g.prune k).bannedIps.get? key = none := by
    show (g.bannedIps.filter _).get? key = none
    rw [BoundedMap.get?_filter, hget]
    simp [hexp]
  rw [hgone] at hkey'
  cases hkey'

/-- After any history, with the entries that are over at `k` or without
them: the answers to a continuation are the same if every step of it goes
unnoticed; and they are the same for EVERY continuation if and only if
there is no such entry. -/
theorem expiry_invisible (nt : NetworkTypes) (history : List Event)
    (k : Nat) :
    (∀ events, Continues k events →
      Machine.Along (Guard.step nt) (Unnoticed k) (Guard.run nt history)
        events →
      SameAnswers nt (Guard.run nt history) ((Guard.run nt history).prune k)
        events)
    ∧ ((∀ events, Continues k events →
        SameAnswers nt (Guard.run nt history)
          ((Guard.run nt history).prune k) events)
      ↔ ¬ (Guard.run nt history).HoldsExpired k) := by
  generalize Guard.run nt history = g
  refine ⟨?_, ?_, ?_⟩
  · intro events hcont halong
    refine Machine.lockstep (Guard.step nt) (behind_step nt k)
      (behind_prune g k) ?_
    exact halong.imp_mem _ fun g e he hun => ⟨hun, hcont.notBefore e he⟩
  · intro hall hexp
    exact list_notices nt hexp none (hall _ ⟨by simp [ktimes], by simp [ktimes]⟩)
  · intro hno events _
    have hbehind := behind_prune g k
    exact sameAnswers_of_get?_eq nt hbehind.stats (hbehind.get?_eq hno)
      events

/-- An expired entry that a frame and a ban do not notice. -/
theorem expiry_invisible_frame :
    SameAnswers networkTypes
      (Guard.run networkTypes
        [.request (.ban "10.0.0.1" (some 0)) (some 1)])
      ((Guard.run networkTypes
        [.request (.ban "10.0.0.1" (some 0)) (some 1)]).prune 2)
      [.frame (frameFrom ⟨10, 0, 0, 1⟩ 6 54) 3,
        .request (.ban "10.0.0.2" none) none] := by
  refine (expiry_invisible networkTypes
    [.request (.ban "10.0.0.1" (some 0)) (some 1)] 2).1 _
    ⟨by decide, by decide⟩ ⟨trivial, ?_, trivial⟩
  intro ip _
  exact Or.inl (Or.inr (by decide))

/-- A ban that ended at 1, at 2: `List` still reports it. -/
theorem expired_still_listed :
    Continues 2 [.request .list none]
    ∧ Machine.outputs (Guard.step networkTypes)
        (Guard.run networkTypes
          [.request (.ban "10.0.0.1" (some 0)) (some 1)])
        [.request .list none]
      = [.response (.list ["10.0.0.1"])]
    ∧ Machine.outputs (Guard.step networkTypes)
        ((Guard.run networkTypes
          [.request (.ban "10.0.0.1" (some 0)) (some 1)]).prune 2)
        [.request .list none]
      = [.response (.list [])]
    ∧ ¬ Output.Same (.response (.list ["10.0.0.1"])) (.response (.list [])) := by
  refine ⟨⟨by decide, by decide⟩, by decide, by decide, fun h => ?_⟩
  exact absurd ((h "10.0.0.1").mp (List.mem_cons_self ..)) (by simp)

end RustGuard
