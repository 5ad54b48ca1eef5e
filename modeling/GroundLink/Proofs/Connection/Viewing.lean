import GroundLink.Connection.Operation
import Mathlib.Data.List.Range

/-!
# What streams show

A viewer makes items of the updates of a call. The streams of commands and events show all that is
known before any update, and again behind each update of their kind; updates of other kinds leave no
trace.
-/

namespace GroundLink.Connection

open Model Protocol View

namespace Viewer

/-- A viewer that has seen some updates. -/
def after (v : Viewer) (us : List Update) : Viewer := us.foldl (fun v u => (v.apply u).2) v

/-- The items that updates make. -/
def outputs (v : Viewer) : List Update → List Item
  | [] => []
  | u :: us => (v.apply u).1.toList ++ (v.apply u).2.outputs us

/-- All that a viewer shows, with the item that comes before any update. -/
def shown (v : Viewer) (us : List Update) : List Item := v.first?.toList ++ v.outputs us

variable {v v' : Viewer} {us rest : List Update}

@[simp] lemma after_nil (v : Viewer) : v.after [] = v := rfl

@[simp] lemma after_cons (v : Viewer) (u : Update) (us : List Update) :
    v.after (u :: us) = (v.apply u).2.after us := rfl

lemma after_append (v : Viewer) (us vs : List Update) :
    v.after (us ++ vs) = (v.after us).after vs :=
  List.foldl_append ..

lemma outputs_append (v : Viewer) (us vs : List Update) :
    v.outputs (us ++ vs) = v.outputs us ++ (v.after us).outputs vs := by
  induction us generalizing v with
  | nil => rfl
  | cons u us ih => rw [List.cons_append, outputs, ih, outputs, after_cons, List.append_assoc]

lemma shown_append (v : Viewer) (us vs : List Update) :
    v.shown (us ++ vs) = v.shown us ++ (v.after us).outputs vs := by
  rw [shown, outputs_append, shown, List.append_assoc]

/-- What has been shown stays. -/
lemma shown_mono (v : Viewer) {us vs : List Update} (h : us <+: vs) :
    v.shown us <+: v.shown vs := by
  obtain ⟨ws, rfl⟩ := h
  rw [shown_append]
  exact List.prefix_append ..

/-- The updates up to the one that makes the next item are taken. -/
lemma next_of_some {item : Item} (h : v.next us = (some item, v', rest)) :
    ∃ taken, us = taken ++ rest ∧ v.outputs taken = [item] ∧ v.after taken = v' := by
  induction us generalizing v with
  | nil => cases h
  | cons u us ih =>
    rw [next] at h
    split at h
    case h_1 item' v'' happly =>
      cases h
      exact ⟨[u], rfl, by rw [outputs, happly]; rfl, by rw [after_cons, happly]; rfl⟩
    case h_2 v'' happly =>
      obtain ⟨taken, rfl, houtputs, hafter⟩ := ih h
      exact ⟨u :: taken, rfl, by rw [outputs, happly, houtputs]; rfl,
        by rw [after_cons, happly, hafter]⟩

/-- Updates that make no item are all taken. -/
lemma next_of_none (h : v.next us = (none, v', rest)) :
    rest = [] ∧ v.outputs us = [] ∧ v.after us = v' := by
  induction us generalizing v with
  | nil =>
    cases h
    exact ⟨rfl, rfl, rfl⟩
  | cons u us ih =>
    rw [next] at h
    split at h
    case h_1 => cases h
    case h_2 v'' happly =>
      obtain ⟨hrest, houtputs, hafter⟩ := ih h
      exact ⟨hrest, by rw [outputs, happly, houtputs]; rfl, by rw [after_cons, happly, hafter]⟩

/-- What is left of some updates comes at their end, and is empty where they make no item. -/
lemma next_eq (v : Viewer) (us : List Update) :
    (v.next us).2.2 <:+ us ∧ ((v.next us).1 = none → (v.next us).2.2 = []) := by
  rcases hnext : v.next us with ⟨_ | item, v', rest⟩
  · obtain ⟨rfl, -, -⟩ := next_of_none hnext
    exact ⟨List.nil_suffix, fun _ => rfl⟩
  · obtain ⟨taken, rfl, -, -⟩ := next_of_some hnext
    exact ⟨List.suffix_append .., by rintro ⟨⟩⟩

end Viewer

/-! ### Growing knowledge -/

section

variable {σ β : Type}

/-- What is known before any payload, and again behind each of them: the item in place `k` shows
what is known from the first `k` payloads. -/
def growing (payload? : Update → Option β) (add : σ → β → σ) (item : σ → Item) (start : σ)
    (us : List Update) : List Item :=
  let payloads := us.filterMap payload?
  (List.range (payloads.length + 1)).map fun k => item ((payloads.take k).foldl add start)

variable {payload? : Update → Option β} {add : σ → β → σ} {item : σ → Item}

@[simp] lemma growing_nil (start : σ) : growing payload? add item start [] = [item start] := rfl

/-- An update of another kind leaves no trace. -/
lemma growing_cons_of_none (start : σ) {u : Update} (us : List Update) (hu : payload? u = none) :
    growing payload? add item start (u :: us) = growing payload? add item start us := by
  rw [growing, List.filterMap_cons_none hu, growing]

lemma growing_cons_of_some (start : σ) {u : Update} {b : β} (us : List Update)
    (hu : payload? u = some b) : growing payload? add item start (u :: us)
      = item start :: growing payload? add item (add start b) us := by
  rw [growing, List.filterMap_cons_some hu, growing, List.length_cons, List.range_succ_eq_map,
    List.map_cons, List.map_map]
  rfl

/-- A viewer that keeps what it knows, and shows all of it whenever it learns more. -/
lemma shown_eq_growing {f : σ → Viewer} (hfirst : ∀ s, (f s).first? = some (item s))
    (hlearn : ∀ s u b, payload? u = some b →
      (f s).apply u = (some (item (add s b)), f (add s b)))
    (hskip : ∀ s u, payload? u = none → (f s).apply u = (none, f s)) (start : σ)
    (us : List Update) : (f start).shown us = growing payload? add item start us := by
  induction us generalizing start with
  | nil => rw [Viewer.shown, hfirst]; rfl
  | cons u us ih =>
    rw [Viewer.shown, hfirst, Viewer.outputs]
    cases hu : payload? u with
    | none =>
      rw [hskip start u hu, growing_cons_of_none start us hu, ← ih start, Viewer.shown, hfirst]
      rfl
    | some b =>
      rw [hlearn start u b hu, growing_cons_of_some start us hu, ← ih, Viewer.shown, hfirst]
      rfl

end

/-! ### Commands and events -/

/-- The entry of the command history in an update. -/
def command? (u : Update) : Option CommandEntry :=
  match u.payload with
  | .commands e => some e
  | _ => none

/-- The event in an update. -/
def event? (u : Update) : Option Event :=
  match u.payload with
  | .events e => some e
  | _ => none

/-- What a stream of commands shows of earlier history and updates. -/
def commandItems (prior : List CommandEntry) (us : List Update) : List Item :=
  growing command? CommandLog.apply (fun log => .commands log.snapshot) (.ofHistory prior) us

/-- What a stream of events shows of earlier history and updates. -/
def eventItems (window : Option Nat) (prior : List Event) (us : List Update) : List Item :=
  growing event? EventLog.push (fun log => .events log.events) (.ofHistory window prior) us

theorem shown_commands (prior : List CommandEntry) (us : List Update) :
    (Viewer.commands (.ofHistory prior)).shown us = commandItems prior us := by
  refine shown_eq_growing (f := .commands) (fun _ => rfl) ?_ ?_ _ us
  · rintro log ⟨c, n, payload⟩ e he
    cases payload <;> cases he
    rfl
  · rintro log ⟨c, n, payload⟩ hnone
    cases payload <;> first | rfl | cases hnone

theorem shown_events (window : Option Nat) (prior : List Event) (us : List Update) :
    (Viewer.events (.ofHistory window prior)).shown us = eventItems window prior us := by
  refine shown_eq_growing (f := .events) (fun _ => rfl) ?_ ?_ _ us
  · rintro log ⟨c, n, payload⟩ e he
    cases payload <;> cases he
    rfl
  · rintro log ⟨c, n, payload⟩ hnone
    cases payload <;> first | rfl | cases hnone

/-- What a plan with earlier history shows of updates, where it has its history. -/
inductive Plan.Shows (s : Setting) : Plan → (List Update → List Item) → Prop
  | commands {prior : List CommandEntry} :
      s.history.commands = .ok prior → Shows s .commands (commandItems prior)
  | commandsAfter (prior : List CommandEntry) :
      Shows s (.commandsAfter prior) (commandItems prior)
  | events {prior : List Event} :
      s.history.events = .ok prior → Shows s .events (eventItems s.config.eventWindow prior)
  | eventsAfter (prior : List Event) :
      Shows s (.eventsAfter prior) (eventItems s.config.eventWindow prior)

lemma Plan.Shows.shown_eq {s : Setting} {plan : Plan} {items : List Update → List Item} {v : Viewer}
    (h : plan.Shows s items) (hv : Operation.viewer s plan = .ok v) (us : List Update) :
    v.shown us = items us := by
  cases h with
  | commands hprior =>
    rw [Operation.viewer, hprior] at hv
    cases hv
    exact shown_commands ..
  | commandsAfter prior =>
    cases hv
    exact shown_commands ..
  | events hprior =>
    rw [Operation.viewer, hprior] at hv
    cases hv
    exact shown_events ..
  | eventsAfter prior =>
    cases hv
    exact shown_events ..

end GroundLink.Connection
