import GroundLink.View.EventLog
import Mathlib.Data.List.Induction

/-!
# What the event log keeps

A log shows the latest of all events that it has been given, earlier history first.
-/

namespace GroundLink.View.EventLog

open Model

lemma latest_suffix {α : Type} (window : Option Nat) (items : List α) :
    latest window items <:+ items := by
  cases window with
  | none => exact List.suffix_rfl
  | some size => exact List.drop_suffix ..

/-- What a window has dropped does not come back. -/
lemma latest_append {α : Type} (window : Option Nat) (items more : List α) :
    latest window (latest window items ++ more) = latest window (items ++ more) := by
  cases window with
  | none => rfl
  | some size =>
    have hlength : (items ++ more).length - size = (items.length - size)
        + ((items.drop (items.length - size) ++ more).length - size) := by
      simp only [List.length_append, List.length_drop]
      omega
    rw [latest, latest, latest, hlength, ← List.drop_drop,
      List.drop_append_of_le_length (Nat.sub_le ..)]

/-- The latest of two lists of items are the latest of the second one, behind what there is room for
of the first one. -/
lemma latest_eq_append {α : Type} (size : Nat) (items more : List α) :
    latest (some size) (items ++ more)
      = items.drop (items.length + more.length - size) ++ latest (some size) more := by
  rw [latest, latest, List.drop_append, List.length_append]
  congr 2
  omega

lemma window_ofHistory (window : Option Nat) (prior : List Event) :
    (ofHistory window prior).window = window := by
  induction prior using List.reverseRecOn with
  | nil => rfl
  | append_singleton prior e ih =>
    rw [ofHistory, List.foldl_append]
    exact ih

lemma events_ofHistory (window : Option Nat) (prior : List Event) :
    (ofHistory window prior).events = latest window prior := by
  induction prior using List.reverseRecOn with
  | nil =>
    cases window with
    | none => rfl
    | some size => exact List.drop_nil.symm
  | append_singleton prior e ih =>
    have hpush : ofHistory window (prior ++ [e]) = (ofHistory window prior).push e :=
      List.foldl_append ..
    rw [hpush, push, window_ofHistory, ih, latest_append]

/-- Events that are added one by one might as well have been there from the beginning. -/
lemma foldl_push_ofHistory (window : Option Nat) (prior more : List Event) :
    more.foldl push (ofHistory window prior) = ofHistory window (prior ++ more) :=
  (List.foldl_append ..).symm

/-! ### Windows -/

/-- What a window keeps of some items: of their suffixes that it has room for, the longest one. -/
structure Keeps {α : Type} (window : Option Nat) (items kept : List α) : Prop where
  suffix : kept <:+ items
  fits : ∀ size, window = some size → kept.length ≤ size
  longest : ∀ other, other <:+ items → (∀ size, window = some size → other.length ≤ size) →
    other <:+ kept

section Keeps

variable {α : Type} {window : Option Nat} {items kept : List α}

lemma keeps_latest (window : Option Nat) (items : List α) :
    Keeps window items (latest window items) where
  suffix := latest_suffix window items
  fits := by
    rintro size rfl
    rw [length_latest_some]
    exact Nat.min_le_left ..
  longest := by
    intro other hother hfits
    cases window with
    | none => exact hother
    | some size =>
      refine List.suffix_of_suffix_length_le hother (latest_suffix ..) ?_
      rw [length_latest_some]
      exact Nat.le_min.mpr ⟨hfits size rfl, hother.length_le⟩

/-- No two lists are what a window keeps. -/
lemma Keeps.eq_latest (hkept : Keeps window items kept) : kept = latest window items := by
  obtain ⟨hsuffix, hfits, hlongest⟩ := hkept
  have hlatest := keeps_latest window items
  have hback := hlongest _ hlatest.suffix hlatest.fits
  exact (hlatest.longest _ hsuffix hfits).eq_of_length_le hback.length_le

/-- Without a window everything is kept. -/
lemma keeps_none_iff : Keeps none items kept ↔ kept = items :=
  ⟨fun hkept => hkept.eq_latest, fun heq => heq ▸ keeps_latest none items⟩

end Keeps

/-- What a log says of all events that it has been given: it lists those that its window keeps, in
their order, and counts these. -/
structure Shows (window : Option Nat) (all : List Event) (log : EventLog) : Prop where
  limit : log.window = window
  events : Keeps window all log.events
  size : log.size = log.events.length
  isEmpty : log.isEmpty = true ↔ log.events = []

lemma shows_ofHistory (window : Option Nat) (all : List Event) :
    Shows window all (ofHistory window all) where
  limit := window_ofHistory window all
  events := events_ofHistory window all ▸ keeps_latest window all
  size := rfl
  isEmpty := List.isEmpty_iff

/-- After any earlier history and any events that have been added to it, a log shows the longest
suffix of all of them that its window has room for, and without a window all of them. It makes no
difference which of the events were there from the beginning. -/
theorem shows_latest (window : Option Nat) (prior pushed : List Event) :
    Shows window (prior ++ pushed) (pushed.foldl push (ofHistory window prior))
      ∧ (pushed.foldl push (ofHistory none prior)).events = prior ++ pushed
      ∧ pushed.foldl push (ofHistory window prior)
        = (prior ++ pushed).foldl push (ofHistory window [])
      ∧ pushed.foldl push (ofHistory window prior) = ofHistory window (prior ++ pushed)
      ∧ (pushed.foldl push (ofHistory window prior)).events
        <:+ (pushed.foldl push (ofHistory none prior)).events := by
  have hshows := shows_ofHistory window (prior ++ pushed)
  have hall : (ofHistory none (prior ++ pushed)).events = prior ++ pushed :=
    keeps_none_iff.mp (shows_ofHistory none (prior ++ pushed)).events
  rw [foldl_push_ofHistory window, foldl_push_ofHistory none, hall]
  exact ⟨hshows, rfl, rfl, rfl, hshows.events.suffix⟩

end GroundLink.View.EventLog
