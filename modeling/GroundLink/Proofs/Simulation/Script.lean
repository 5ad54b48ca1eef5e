import GroundLink.Proofs.Connection.Waiting
import GroundLink.Simulation.Script

/-!
# Scripts as runs

A script starts operations, reads and lets go by acts of callers and consumers. Between its steps
the dispatcher runs, the server takes what is written and callers look after their operations, and
these are acts as well. So what is true of all runs of a system is true of whatever a script does.
-/

namespace GroundLink.Simulation

open Connection

/-- One simulation comes of another by acts. -/
def Follows (s s' : Simulation) : Prop := ∃ as : List System.Act, s'.system = s.system.play as

namespace Follows

variable {s s' s'' : Simulation}

lemma of_eq (h : s'.system = s.system) : Follows s s' := ⟨[], h⟩

lemma refl (s : Simulation) : Follows s s := of_eq rfl

lemma trans (h : Follows s s') (h' : Follows s' s'') : Follows s s'' := by
  obtain ⟨as, has⟩ := h
  obtain ⟨bs, hbs⟩ := h'
  exact ⟨as ++ bs, by rw [System.play_append, ← has, hbs]⟩

lemma act (a : System.Act) (s : Simulation) : Follows s (s.act a) := ⟨[a], rfl⟩

lemma foldl {α : Type} {f : Simulation → α → Simulation} (hf : ∀ s a, Follows s (f s a))
    (as : List α) (s : Simulation) : Follows s (as.foldl f s) := by
  induction as generalizing s with
  | nil => exact refl s
  | cons a as ih => exact (hf s a).trans (ih (f s a))

end Follows

/-! ### Operations -/

lemma follows_release (name : String) (s : Simulation) : Follows s (s.release name) := by
  rw [release]
  split
  · exact .act _ s
  · exact .refl s

lemma follows_hold (name : String) (h : Handle) (s : Simulation) : Follows s (s.hold name h) :=
  follows_release name s

lemma follows_finish (name : String) (t : Ticket) (result : Except Client.Error Outcome)
    (s : Simulation) : Follows s (finish name t result s) := by
  rw [finish]
  split
  · exact follows_hold name _ { s with results := s.results ++ [(name, result)] }
  · exact .of_eq rfl

lemma follows_look (name : String) (t : Ticket) (s : Simulation) :
    Follows s (look name t s) := by
  rw [look]
  split
  · split
    · exact .act (.look t) s
    · exact .trans (.act (.look t) s) (follows_finish ..)
  · exact .refl s

lemma follows_launch (name : String) (a : System.Act) (s : Simulation) :
    Follows s (launch name a s) := by
  rw [launch]
  split
  · exact follows_finish ..
  · exact .trans (.act a s) (follows_look ..)

lemma follows_lookAfterAll (s : Simulation) : Follows s s.lookAfterAll := by
  have hlook : ∀ (s : Simulation) (p : String × Ticket), Follows s (look p.1 p.2 s) :=
    fun s p => follows_look p.1 p.2 s
  exact .foldl hlook s.operations { s with operations := [] }

lemma follows_abandon (name : String) (s : Simulation) : Follows s (s.abandon name).2 := by
  have habandon : ∀ (s : Simulation) (p : String × Ticket), Follows s (s.act (.abandon p.2)) :=
    fun s p => .act _ s
  exact .foldl habandon _ { s with operations := (s.operations.partition (·.1 = name)).2 }

/-! ### Settling -/

lemma follows_drain (max : Option Nat) (s : Simulation) : Follows s (s.drain max) := by
  rw [drain]
  dsimp only
  split
  · exact .refl s
  · exact .act (.take _) s

lemma follows_dispatch (s : Simulation) : Follows s s.dispatch :=
  ⟨List.replicate s.system.channel.work .dispatch, (System.play_dispatch ..).symm⟩

lemma follows_round (s : Simulation) : Follows s s.round := by
  rw [round]
  split
  · exact (follows_dispatch s).trans (follows_lookAfterAll _)
  · exact ((follows_dispatch s).trans (follows_drain none _)).trans (follows_lookAfterAll _)

lemma follows_settleFor (fuel : Nat) (s : Simulation) : Follows s (settleFor fuel s) := by
  induction fuel generalizing s with
  | zero => exact .refl s
  | succ fuel ih =>
    rw [settleFor]
    split
    · exact follows_round s
    · exact (follows_round s).trans (ih s.round)

lemma follows_settle (s : Simulation) : Follows s s.settle := follows_settleFor ..

/-! ### Moves -/

lemma follows_readUpTo (h : Handle) (max : Nat) (s : Simulation) :
    Follows s (readUpTo h max s).2.2 := by
  induction max generalizing s with
  | zero => exact .refl s
  | succ max ih =>
    rw [readUpTo]
    split
    · exact .trans (.act h.read s) (ih _)
    · exact .act h.read s
    · exact .act h.read s

lemma follows_withHandle {name : String} {s : Simulation} {f : Handle → Answer × Simulation}
    (hf : ∀ h, Follows s (f h).2) : Follows s (s.withHandle name f).2 := by
  rw [withHandle]
  split
  · exact hf _
  · exact .refl s

lemma follows_withConnection {s : Simulation} {f : Answer × Simulation} (hf : Follows s f.2) :
    Follows s (s.withConnection f).2 := by
  rw [withConnection]
  split
  · exact hf
  · exact .refl s

lemma follows_close (s : Simulation) : Follows s s.close.2 := by
  rw [close]
  split
  · exact .act .close s
  · exact follows_launch ..

lemma follows_perform (move : Move) (s : Simulation) : Follows s (s.perform move).2 := by
  cases move with
  | send name request => exact follows_withConnection (follows_launch ..)
  | subscribe name request => exact follows_withConnection (follows_launch ..)
  | stream name plan => exact follows_withConnection (follows_launch ..)
  | askState name => exact follows_withConnection (follows_launch ..)
  | listen name => exact follows_withConnection (.trans (.act .listen s) (follows_hold ..))
  | abandon name => exact follows_abandon name s
  | push text => exact .act (.push text) s
  | next name max => exact follows_withHandle fun h => follows_readUpTo h max s
  | info name => exact follows_withHandle fun h => .refl s
  | release name => exact follows_withHandle fun h => follows_release name s
  | advance span => exact .act (.advance span) s
  | hangUp => exact .act .hangUp s
  | cutWriter => exact .act .cutWriter s
  | drain max => exact follows_drain max s
  | traffic => exact follows_withConnection (.refl s)
  | isOpen => exact follows_withConnection (.refl s)
  | close => exact follows_withConnection (follows_close s)
  | dropConnection => exact follows_withConnection (.act .disconnect s)

/-! ### Steps -/

lemma follows_performAll {after : Simulation → Simulation} (hafter : ∀ s, Follows s (after s))
    (moves : List Move) (s : Simulation) : Follows s (performAll after moves s).2 := by
  induction moves generalizing s with
  | nil => exact .refl s
  | cons move moves ih => exact ((follows_perform move s).trans (hafter _)).trans (ih _)

lemma follows_step (step : Step) (s : Simulation) : Follows s (s.step step).2 := by
  cases step with
  | one move => exact (follows_perform move s).trans (follows_settle _)
  | together moves => exact (follows_performAll .refl moves s).trans (follows_settle _)
  | inTurn moves => exact (follows_performAll follows_settle moves s).trans (follows_settle _)

lemma follows_run (steps : List Step) (s : Simulation) : Follows s (run steps s).2 := by
  induction steps generalizing s with
  | nil => exact .refl s
  | cons step steps ih => exact (follows_step step s).trans (ih _)

/-- Wherever a script leads, a run of the system leads. -/
theorem exists_run (setting : Setting) (textRoom : Nat) (manualDrain : Bool) (steps : List Step) :
    ∃ h, Run setting textRoom h (run steps (start setting textRoom manualDrain)).2.system := by
  obtain ⟨as, has⟩ := follows_run steps (start setting textRoom manualDrain)
  rw [has]
  exact ⟨_, Run.start.play as⟩

end GroundLink.Simulation
