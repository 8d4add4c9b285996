/-
Texts that can be read back from their front.

A text is `Readable` for what it shows if, whatever stands behind it,
the two can be told apart: two texts with something behind them that
come out the same show the same, and have the same behind them. That is
what lets one field stand behind another and one record behind another
without anything being escaped (`Readable.append`, `Readable.flatMap`).

Three kinds of field are readable on their own: one that is always
equally long, whatever is in it (`readable_fixed`); one that ends in a
symbol it does not contain (`readable_word`); and one with filling in
front that it does not start with (`Readable.fill`). Filling behind is
no field of its own, it follows from what is filled up
(`Readable.follow`).
-/
import Mathlib.Data.List.Basic

namespace Lib

section Readable

variable {σ α β γ : Type*}

/-- What a text shows, and where it ends, can be read off its front. -/
def Readable (text : α → List σ) (shown : α → β) : Prop :=
  ∀ ⦃a a' : α⦄ ⦃rest rest' : List σ⦄,
    text a ++ rest = text a' ++ rest' → shown a = shown a' ∧ rest = rest'

-- ============================================================== fields

/-- A field of one length shows all of itself. -/
theorem readable_fixed {text : α → List σ} {n : Nat}
    (hlen : ∀ a, (text a).length = n) : Readable text text := by
  intro a a' rest rest' h
  exact List.append_inj h ((hlen a).trans (hlen a').symm)

/-- So does one that ends in a symbol it has nowhere else. -/
theorem readable_word {text : α → List σ} {stop : σ}
    (hstop : ∀ a, stop ∉ text a) :
    Readable (fun a => text a ++ [stop]) text := by
  classical
  have htake : ∀ a rest,
      (text a ++ [stop] ++ rest).takeWhile (· ≠ stop) = text a := by
    intro a rest
    have hall : ∀ c ∈ text a, decide (c ≠ stop) = true := by
      intro c hc
      exact decide_eq_true fun heq => hstop a (heq ▸ hc)
    rw [List.append_assoc, List.takeWhile_append_of_pos hall]
    simp
  intro a a' rest rest' h
  have hword := congrArg (List.takeWhile (· ≠ stop)) h
  rw [htake, htake] at hword
  simp only [hword] at h
  exact ⟨hword, List.append_cancel_left h⟩

variable {text : α → List σ} {shown : α → β}

/-- Filling in front is told from a field that does not start with
it. -/
theorem Readable.fill (h : Readable text shown) (width : α → Nat)
    (blank : σ) (hhead : ∀ a, ∃ c cs, text a = c :: cs ∧ c ≠ blank) :
    Readable (fun a => List.replicate (width a) blank ++ text a) shown := by
  classical
  -- both sides without the blanks in front
  have hdrop : ∀ a rest,
      (List.replicate (width a) blank ++ text a ++ rest).dropWhile
        (· = blank) = text a ++ rest := by
    intro a rest
    obtain ⟨c, cs, htext, hne⟩ := hhead a
    rw [List.append_assoc, List.dropWhile_append_of_pos (by simp), htext,
      List.cons_append, List.dropWhile_cons_of_neg (by simpa using hne)]
  intro a a' rest rest' heq
  have heq := congrArg (List.dropWhile (· = blank)) heq
  rw [hdrop, hdrop] at heq
  exact h heq

/-- What is determined by what is shown can stand behind it. -/
theorem Readable.follow (h : Readable text shown) {more : α → List σ}
    (hmore : ∀ a a', shown a = shown a' → more a = more a') :
    Readable (fun a => text a ++ more a) shown := by
  intro a a' rest rest' heq
  simp only [List.append_assoc] at heq
  obtain ⟨hshown, heq⟩ := h heq
  rw [hmore a a' hshown] at heq
  exact ⟨hshown, List.append_cancel_left heq⟩

/-- The same text, put together otherwise. -/
theorem Readable.congr (h : Readable text shown) {text' : α → List σ}
    (heq : ∀ a, text' a = text a) : Readable text' shown := by
  rwa [funext heq]

/-- A field of a part of a record. -/
theorem Readable.comp (h : Readable text shown) (part : γ → α) :
    Readable (fun c => text (part c)) fun c => shown (part c) :=
  fun _ _ _ _ heq => h heq

-- ============================================================= records

/-- One field behind the other shows both. -/
theorem Readable.append (h : Readable text shown) {text' : α → List σ}
    {shown' : α → γ} (h' : Readable text' shown') :
    Readable (fun a => text a ++ text' a) fun a => (shown a, shown' a) := by
  intro a a' rest rest' heq
  simp only [List.append_assoc] at heq
  obtain ⟨hshown, heq⟩ := h heq
  obtain ⟨hshown', hrest⟩ := h' heq
  exact ⟨Prod.ext hshown hshown', hrest⟩

/-- A text shows what can be made out from what it shows. -/
theorem Readable.imp (h : Readable text shown) {shown' : α → γ}
    (himp : ∀ a a', shown a = shown a' → shown' a = shown' a') :
    Readable text shown' := by
  intro a a' rest rest' heq
  exact (h heq).imp_left (himp a a')

/-- Any number of texts, one behind the other, show what each of them
shows. -/
theorem Readable.flatMap (h : Readable text shown)
    (hne : ∀ a, text a ≠ []) {as as' : List α}
    (heq : as.flatMap text = as'.flatMap text) :
    as.map shown = as'.map shown := by
  induction as generalizing as' with
  | nil =>
      cases as' with
      | nil => rfl
      | cons a' as' =>
          rw [List.flatMap_cons, List.flatMap_nil] at heq
          exact absurd (List.append_eq_nil_iff.mp heq.symm).1 (hne a')
  | cons a as ih =>
      cases as' with
      | nil =>
          rw [List.flatMap_cons, List.flatMap_nil] at heq
          exact absurd (List.append_eq_nil_iff.mp heq).1 (hne a)
      | cons a' as' =>
          rw [List.flatMap_cons, List.flatMap_cons] at heq
          obtain ⟨hshown, hrest⟩ := h heq
          rw [List.map_cons, List.map_cons, hshown, ih hrest]

end Readable

end Lib
