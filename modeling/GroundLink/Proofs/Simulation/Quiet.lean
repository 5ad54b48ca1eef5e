import GroundLink.Proofs.Simulation.Script

/-!
# Quiet between steps

After each step of a script everything goes on, round by round, until nothing can move. A round that
leaves something that can move has the next one make way: the dispatcher takes a step at least, or
the server finds the end. Callers who are looked after bring no more than what is at stake. So the
rounds come to an end, and there are enough of them.
-/

namespace GroundLink.Simulation

open Connection

variable {s s' s'' : Simulation}

/-! ### Less to do -/

/-- A bound on the rounds that make way. The server finds the end once. -/
def toil (s : Simulation) : Nat := s.system.toil + if s.endSeen then 0 else 1

lemma toil_lt_effort (s : Simulation) : s.toil < s.effort := by
  have hload := s.system.channel.load_le_work
  have hstake := s.system.stake_le
  rw [toil, System.toil, effort]
  split <;> omega

/-- No more is left to do, and nothing more is left to the server. -/
structure Calms (s s' : Simulation) : Prop where
  manualDrain : s'.manualDrain = s.manualDrain
  endSeen : s.endSeen = true → s'.endSeen = true
  toil : s'.system.toil ≤ s.system.toil
  written : s'.system.channel.written = s.system.channel.written
  taken : s.system.channel.taken ≤ s'.system.channel.taken
  reads : s'.system.channel.serverReads = true → s.system.channel.serverReads = true

namespace Calms

lemma of_eq (hmanual : s'.manualDrain = s.manualDrain) (hseen : s'.endSeen = s.endSeen)
    (hsystem : s'.system = s.system) : Calms s s' where
  manualDrain := hmanual
  endSeen := hseen.trans
  toil := by rw [hsystem]
  written := by rw [hsystem]
  taken := by rw [hsystem]
  reads := by
    rw [hsystem]
    exact id

lemma refl (s : Simulation) : Calms s s := of_eq rfl rfl rfl

lemma trans (h : Calms s s') (h' : Calms s' s'') : Calms s s'' where
  manualDrain := h'.manualDrain.trans h.manualDrain
  endSeen := h'.endSeen ∘ h.endSeen
  toil := h'.toil.trans h.toil
  written := h'.written.trans h.written
  taken := h.taken.trans h'.taken
  reads := h.reads ∘ h'.reads

lemma act {a : System.Act} (ha : a ≠ .dispatch) (h : (s.system.act a).toil ≤ s.system.toil) :
    Calms s (s.act a) where
  manualDrain := rfl
  endSeen := id
  toil := h
  written := (System.uses_act ha s.system).written
  taken := (System.uses_act ha s.system).taken
  reads := (System.uses_act ha s.system).reads

lemma foldl {α : Type} {f : Simulation → α → Simulation} (hf : ∀ s a, Calms s (f s a))
    (as : List α) (s : Simulation) : Calms s (as.foldl f s) := by
  induction as generalizing s with
  | nil => exact refl s
  | cons a as ih => exact (hf s a).trans (ih (f s a))

lemma toil_le (h : Calms s s') : s'.toil ≤ s.toil := by
  refine Nat.add_le_add h.toil ?_
  split
  case isTrue => exact Nat.zero_le _
  case isFalse hnot => rw [if_neg fun hseen => hnot (h.endSeen hseen)]

end Calms

/-! ### Those who act in a round -/

lemma calms_release (name : String) (s : Simulation) : Calms s (s.release name) := by
  rw [release]
  split
  case h_1 h _ => cases h with
    | consumer t =>
      have hact : Calms s (s.act (.release t)) := .act (by rintro ⟨⟩) (s.system.toil_release t)
      exact hact.trans (.of_eq rfl rfl rfl)
    | frames l =>
      have hact : Calms s (s.act (.leave l)) := .act (by rintro ⟨⟩) (s.system.toil_leave l)
      exact hact.trans (.of_eq rfl rfl rfl)
  · exact .refl s

lemma calms_finish (name : String) (t : Ticket) (result : Except Client.Error Outcome)
    (s : Simulation) : Calms s (finish name t result s) := by
  rw [finish]
  split
  · have hreport : Calms s { s with results := s.results ++ [(name, result)] } :=
      .of_eq rfl rfl rfl
    exact (hreport.trans (calms_release name _)).trans (.of_eq rfl rfl rfl)
  · exact .of_eq rfl rfl rfl

lemma calms_look (name : String) (t : Ticket) (s : Simulation) : Calms s (look name t s) := by
  have hlook : Calms s (s.act (.look t)) := .act (by rintro ⟨⟩) (s.system.toil_look t)
  rw [look]
  split
  · split
    · exact hlook.trans (.of_eq rfl rfl rfl)
    · exact hlook.trans (calms_finish ..)
  · exact .refl s

lemma calms_lookAfterAll (s : Simulation) : Calms s s.lookAfterAll := by
  have hlook : ∀ (s : Simulation) (p : String × Ticket), Calms s (look p.1 p.2 s) :=
    fun s p => calms_look p.1 p.2 s
  have hclear : Calms s { s with operations := [] } := .of_eq rfl rfl rfl
  exact hclear.trans (.foldl hlook s.operations _)

lemma calms_drain (max : Option Nat) (s : Simulation) : Calms s (s.drain max) := by
  rw [drain]
  dsimp only
  split
  · exact .refl s
  · have htake : Calms s (s.act (.take (max.getD s.system.channel.backlog.length))) :=
      .act (by rintro ⟨⟩) (s.system.toil_take _)
    refine htake.trans ?_
    exact {
      manualDrain := rfl
      endSeen := fun hseen => by simp [hseen]
      toil := Nat.le_refl _
      written := rfl
      taken := Nat.le_refl _
      reads := id }

lemma toil_dispatch_le (s : Simulation) : s.dispatch.toil ≤ s.toil := by
  have hload := Channel.load_runFor s.system.channel.work s.system.channel
  exact Nat.add_le_add_right (Nat.add_le_add_right hload _) _

lemma toil_dispatch_lt (h : s.system.channel.step? ≠ none) : s.dispatch.toil < s.toil :=
  Nat.add_lt_add_right (Nat.add_lt_add_right (Channel.load_run_lt h) _) _

lemma dispatch_of_waiting (h : s.system.channel.step? = none) : s.dispatch = s := by
  rw [dispatch, Channel.run, Channel.runFor_of_waiting h]

/-! ### Rounds -/

/-- The server has taken all that is written, unless it waits for the script or reads no more. -/
def IsDrained (s : Simulation) : Prop :=
  s.manualDrain = false → s.system.channel.serverReads = true → s.system.channel.backlog = []

lemma IsDrained.calms (hs : s.IsDrained) (h : Calms s s') : s'.IsDrained := by
  intro hmanual hreads
  have hbacklog := hs (h.manualDrain.symm.trans hmanual) (h.reads hreads)
  rw [Channel.backlog, List.drop_eq_nil_iff] at hbacklog ⊢
  rw [h.written]
  exact hbacklog.trans h.taken

lemma isDrained_drain (s : Simulation) : (s.drain none).IsDrained := by
  intro _ hreads
  have hreads' : s.system.channel.serverReads = true := (calms_drain none s).reads hreads
  rw [drain, hreads']
  exact s.system.channel.backlog_take

lemma isDrained_round (s : Simulation) : s.round.IsDrained := by
  rw [round]
  split
  case isTrue hmanual =>
    intro hauto
    cases hmanual.symm.trans ((calms_lookAfterAll _).manualDrain.symm.trans hauto)
  case isFalse => exact (isDrained_drain s.dispatch).calms (calms_lookAfterAll _)

lemma toil_round_le (s : Simulation) : s.round.toil ≤ s.dispatch.toil := by
  rw [round]
  split
  · exact (calms_lookAfterAll _).toil_le
  · exact ((calms_drain none _).trans (calms_lookAfterAll _)).toil_le

/-- The server finds the end where the dispatcher has stopped. -/
lemma endSeen_drain (hreads : s.system.channel.serverReads = true)
    (hstop : s.system.channel.isStopped = true) : (s.drain none).endSeen = true := by
  have hempty : (s.act (.take s.system.channel.backlog.length)).system.channel.backlog = [] :=
    s.system.channel.backlog_take
  simp only [drain, hreads, hstop]
  simp [hempty]

/-- Where the dispatcher has to wait, it is the server that can move: it has not taken everything,
or not found the end. -/
lemma of_busy (hstep : s.system.channel.step? = none) (hbusy : s.isQuiet = false) :
    s.manualDrain = false ∧ s.system.channel.serverReads = true
      ∧ (s.system.channel.backlog = [] →
        s.endSeen = false ∧ s.system.channel.isStopped = true) := by
  simpa [isQuiet, hstep, and_assoc] using hbusy

/-- What a round leaves to do makes the next one make way. -/
theorem toil_round_lt (hdrained : s.IsDrained) (hbusy : s.isQuiet = false) :
    s.round.toil < s.toil := by
  by_cases hstep : s.system.channel.step? = none
  · obtain ⟨hauto, hreads, hends⟩ := of_busy hstep hbusy
    obtain ⟨hseen, hstop⟩ := hends (hdrained hauto hreads)
    have hdrain : (s.drain none).toil < s.toil := by
      rw [toil, toil, hseen, endSeen_drain hreads hstop, if_pos rfl]
      exact Nat.lt_succ_of_le (calms_drain none s).toil
    have hround : s.round = (s.drain none).lookAfterAll := by
      rw [round, dispatch_of_waiting hstep, hauto]
      rfl
    rw [hround]
    exact (calms_lookAfterAll _).toil_le.trans_lt hdrain
  · exact (toil_round_le s).trans_lt (toil_dispatch_lt hstep)

lemma isQuiet_settleFor {fuel : Nat} (h : s.round.toil < fuel) :
    (settleFor fuel s).isQuiet = true := by
  induction fuel generalizing s with
  | zero => cases h
  | succ fuel ih =>
    rw [settleFor]
    split
    case isTrue hquiet => exact hquiet
    case isFalse hbusy =>
      have hround := toil_round_lt (isDrained_round s) (eq_false_of_ne_true hbusy)
      exact ih (hround.trans_le (Nat.le_of_lt_succ h))

/-- There are enough rounds for everything to settle. -/
theorem isQuiet_settle (s : Simulation) : s.settle.isQuiet = true :=
  isQuiet_settleFor
    (((toil_round_le s).trans (toil_dispatch_le s)).trans_lt (toil_lt_effort s))

/-! ### Steps -/

lemma isQuiet_step (step : Step) (s : Simulation) : (s.step step).2.isQuiet = true := by
  cases step <;> exact isQuiet_settle _

/-- Between the steps of a script, and after the last one, nothing can move. -/
theorem isQuiet_run (setting : Setting) (textRoom : Nat) (manualDrain : Bool) (steps : List Step) :
    (run steps (start setting textRoom manualDrain)).2.isQuiet = true := by
  have hrun : ∀ s : Simulation, s.isQuiet = true → (run steps s).2.isQuiet = true := by
    induction steps with
    | nil => exact fun s hs => hs
    | cons step steps ih => exact fun s _ => ih _ (isQuiet_step step s)
  exact hrun _ (by cases manualDrain <;> rfl)

end GroundLink.Simulation
