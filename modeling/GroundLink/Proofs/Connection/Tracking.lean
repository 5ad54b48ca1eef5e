import GroundLink.Proofs.Connection.Relaying
import GroundLink.Proofs.Protocol.Frame
import GroundLink.Proofs.View.Tracking

/-!
# Streams of one parameter

A stream of a parameter yields, for each payload of parameters, the last value whose number means
the parameter by the mappings up to this payload. Texts that are no frames and payloads of other
kinds leave no trace.
-/

namespace GroundLink.Protocol

open Model Schema

/-- The content of an event is read from a value, as its topic demands. -/
lemma Frame.payload_of_decode {text : String} {u : Update} (h : Frame.decode text = .event u) :
    ∃ data, Payload.read u.payload.topic data = .ok u.payload := by
  obtain ⟨_, e, -, -, hheld⟩ := held_of_decode h nofun
  cases hheld with
  | event _ _ _ hread => exact ⟨e.data, hread⟩

end GroundLink.Protocol

namespace GroundLink.Connection

open Model Protocol Schema View

variable {h : List Note} {s : System} {t : Ticket} {st : Stream}

/-! ### Payloads -/

/-- The parameter data in an update. -/
def parameters? (u : Update) : Option ParameterData :=
  match u.payload with
  | .parameters data => some data
  | _ => none

/-- The mappings that come with a frame list their numbers in their order. -/
lemma ordered_of_decode {text : String} {u : Update} (h : Frame.decode text = .event u)
    {data : ParameterData} (hdata : parameters? u = some data) : data.Ordered := by
  obtain ⟨j, hread⟩ := Frame.payload_of_decode h
  have hpayload : u.payload = .parameters data := by
    rw [parameters?] at hdata
    split at hdata
    case h_1 data' hpayload =>
      cases hdata
      exact hpayload
    case h_2 => cases hdata
  rw [hpayload] at hread
  obtain ⟨d, hd, hsame⟩ := map_eq_ok.mp hread
  cases hsame
  exact ParameterData.read_gives j data trivial hd

/-- What a stream of a parameter shows of updates. -/
def parameterItems (name : String) (us : List Update) : List Item :=
  (ParameterTracker.valuesOf name [] (us.filterMap parameters?)).map .parameter

lemma outputs_parameter {tracker : ParameterTracker} {name : String} {frames : List ParameterData}
    (hknows : tracker.Knows name frames) {us : List Update}
    (hus : ∀ d ∈ us.filterMap parameters?, d.Ordered) :
    (Viewer.parameter tracker).outputs us
      = (ParameterTracker.valuesOf name frames (us.filterMap parameters?)).map .parameter := by
  induction us generalizing tracker frames with
  | nil => rfl
  | cons u us ih =>
    cases hu : parameters? u with
    | none =>
      have hskip : (Viewer.parameter tracker).apply u = (none, .parameter tracker) := by
        obtain ⟨c, n, payload⟩ := u
        cases payload <;> first | rfl | cases hu
      rw [List.filterMap_cons_none hu] at hus ⊢
      rw [Viewer.outputs, hskip, ih hknows hus]
      rfl
    | some data =>
      have htake : (Viewer.parameter tracker).apply u
          = ((tracker.apply data).1.map .parameter, .parameter (tracker.apply data).2) := by
        obtain ⟨c, n, payload⟩ := u
        cases payload <;> cases hu
        rfl
      rw [List.filterMap_cons_some hu] at hus ⊢
      have hnext := hknows.apply (hus data List.mem_cons_self)
      rw [Viewer.outputs, htake, ih hnext fun d hd => hus d (List.mem_cons_of_mem data hd),
        hnext.picks, ParameterTracker.valuesOf, List.map_append]
      cases ParameterTracker.valueOf name frames data <;> rfl

/-- A stream of a parameter shows nothing before any update. -/
theorem shown_parameter (name : String) {us : List Update}
    (hus : ∀ d ∈ us.filterMap parameters?, d.Ordered) :
    (Viewer.parameter (.start name)).shown us = parameterItems name us := by
  rw [Viewer.shown, outputs_parameter (ParameterTracker.knows_start name) hus]
  rfl

/-! ### Frames -/

namespace System

/-- The dispatcher handles the text that it receives, and nothing else. -/
lemma handledFrames_dispatch (s : System) :
    handledFrames (s.notes .dispatch) = match s.channel.task? with
      | some (.receive text _) => [Frame.decode text]
      | _ => [] := by
  have hstop : ∀ ch ch' : Channel, handledFrames (Channel.stopNotes ch ch') = [] := by
    intro ch ch'
    rw [Channel.stopNotes]
    split <;> rfl
  rw [notes, handledFrames_append, hstop, List.append_nil, doings]
  cases s.channel.task? with
  | none => rfl
  | some task => cases task with
    | receive text rest => exact Channel.handledFrames_receive text rest s.channel
    | execute c rest => cases c <;> rfl
    | _ => rfl

end System

/-- A frame that has been handled is what a text is. -/
lemma Run.decoded {setting : Setting} {textRoom : Nat} (hrun : Run setting textRoom h s) {f : Frame}
    (hf : f ∈ handledFrames h) : ∃ text, Frame.decode text = f := by
  induction hrun with
  | start => cases hf
  | @act h s a hrun ih =>
    rw [handledFrames_append, List.mem_append] at hf
    refine hf.elim ih fun hf => ?_
    by_cases ha : a = .dispatch
    · rw [ha, System.handledFrames_dispatch] at hf
      split at hf
      case h_1 text _ _ => exact ⟨text, (List.mem_singleton.mp hf).symm⟩
      case h_2 => cases hf
    · rw [System.handledFrames_notes ha] at hf
      cases hf

lemma Run.ordered {setting : Setting} {textRoom : Nat} (hrun : Run setting textRoom h s)
    {before after : List Note} (hsplit : h = before ++ after) (c : CallId) :
    ∀ d ∈ (eventsOf c after).filterMap parameters?, d.Ordered := by
  intro d hd
  obtain ⟨u, hu, hdata⟩ := List.mem_filterMap.mp hd
  obtain ⟨n, hn, hevent⟩ := List.mem_filterMap.mp hu
  have hframe : n = .handled (.event u) := by
    cases n with
    | handled f => cases f with
      | event u' =>
        simp only [Note.eventOf?] at hevent
        split at hevent
        · cases hevent
          rfl
        · cases hevent
      | _ => cases hevent
    | _ => cases hevent
  have hhandled : Frame.event u ∈ handledFrames h := by
    refine List.mem_filterMap.mpr ⟨n, hsplit ▸ List.mem_append_right _ hn, ?_⟩
    rw [hframe]
    rfl
  obtain ⟨text, htext⟩ := hrun.decoded hhandled
  exact ordered_of_decode htext hdata

/-! ### Streams -/

/-- After any frames a tracker waits for a mapping if there has been none, and otherwise knows all
mappings put over one another, the newer over the older ones. Of a frame it picks the last value
whose number means its parameter by the mappings with that of the frame itself, so that nothing is
picked before a mapping, and frames before the first mapping leave no trace. A stream of a
parameter, in every run in which no two replies open the same call, emits these values for the
payloads of parameters that have been handled on its call since the reply to its request. -/
theorem Run.parameter_tracked (name : String) :
    (∀ frames : List ParameterData, (∀ f ∈ frames, f.Ordered) →
        ((ParameterTracker.start name).after frames).Knows name frames)
      ∧ (∀ (earlier : List ParameterData) (frame : ParameterData),
        (∀ f ∈ earlier ++ [frame], f.Ordered) →
        (((ParameterTracker.start name).after earlier).apply frame).1
            = ParameterTracker.valueOf name earlier frame
          ∧ ∀ v ∈ ParameterTracker.valueOf name earlier frame, v ∈ frame.values.getD []
            ∧ ∃ n, ParameterTracker.nameOf (earlier ++ [frame]) v.id = some n ∧ n.name = name)
      ∧ (∀ earlier frames : List ParameterData, (∀ f ∈ earlier, f.mapping = none) →
        ParameterTracker.valuesOf name [] (earlier ++ frames)
          = ParameterTracker.valuesOf name [] frames)
      ∧ ∀ {setting : Setting} {textRoom : Nat} {h : List Note} {s : System} {t : Ticket}
        {op : Operation} {st : Stream} {as : List System.Act}, Run setting textRoom h s →
        s.parties.find? t = some (.calling op) → op.plan? = some (.parameter name) →
        (s.act (.look t)).parties.find? t = some (.streaming st) →
        (numbered (h ++ s.log (.look t :: as))).length ≤ UInt64.size →
        CallsDistinct (h ++ s.log (.look t :: as)) →
        ∃ before r after c, h ++ s.log (.look t :: as) = before ++ .handled (.reply r) :: after
          ∧ replyOf t before = none ∧ replyOf t (h ++ s.log (.look t :: as)) = some r
          ∧ r.rejection = none ∧ r.call = some c
          ∧ Emits (s.play (.look t :: as)) t (parameterItems name (eventsOf c after))
            ((s.act (.look t)).emitted t as) := by
  refine ⟨ParameterTracker.knows_after name, ?_,
    fun _ frames h => ParameterTracker.valuesOf_append name h frames, ?_⟩
  · intro earlier frame hframes
    have hearlier := ParameterTracker.knows_after name earlier fun f hf =>
      hframes f (List.mem_append_left _ hf)
    exact ⟨(hearlier.apply (hframes frame (by simp))).picks,
      fun _ hv => ParameterTracker.valueOf_spec hv⟩
  · intro setting textRoom h s t op st as hrun hparty hplan hopen hlen hd
    obtain ⟨v, before, r, after, c, hv, hsplit, hnone, hanswer, hrejection, hcall, hemits⟩ :=
      hrun.streams_emit hparty hplan hopen hlen hd
    obtain rfl : Viewer.parameter (.start name) = v := Except.ok.inj hv
    have hordered := (hrun.play (.look t :: as)).ordered
      (hsplit.trans (List.append_cons before _ after)) c
    rw [shown_parameter name hordered] at hemits
    exact ⟨before, r, after, c, hsplit, hnone, hanswer, hrejection, hcall, hemits⟩

namespace Party

/-- Whether an operation opens a stream of a parameter. -/
def opensParameter (name : String) : Party → Bool
  | .calling op => match op.plan? with
    | some (.parameter n) => n = name
    | _ => false
  | _ => false

lemma eq_of_opensParameter {name : String} {p : Option Party}
    (hp : p.any (opensParameter name) = true) :
    ∃ op, p = some (.calling op) ∧ op.plan? = some (.parameter name) := by
  cases p with
  | none => cases hp
  | some p => cases p with
    | calling op =>
      refine ⟨op, rfl, ?_⟩
      simp only [Option.any_some, opensParameter] at hp
      split at hp
      case h_1 n hplan => rw [hplan, of_decide_eq_true hp]
      case h_2 => cases hp
    | _ => cases hp

end Party

namespace System

/-- A text of the server: parameter data, given as a list. -/
def parametersText (call seq : Nat) (mapping : String) (values : List String) : String :=
  "\x7b\"type\":\"parameters\",\"call\":" ++ toString call ++ ",\"seq\":" ++ toString seq
    ++ ",\"data\":[" ++ mapping ++ ",[" ++ ",".intercalate values ++ "]]\x7d"

/-- A value of a numbered parameter, given as a list. -/
def valueText (id : Nat) : String :=
  "[" ++ toString id ++ ",null,\x7b\"type\":\"AGGREGATE\"\x7d,\"2024-01-01T00:00:00Z\",null]"

/-- A stream of a parameter, up to the reply that opens its call. -/
def openingParameter : List Act :=
  [.stream (.parameter "/on"), .look ⟨0⟩, .dispatch, .push (openingText 1 5), .dispatch]

/-- A value comes before any mapping, then a mapping with a value of the parameter and one of
another one, a text that is no frame, a list of links, and last the number of the parameter goes to
another one in the frame with a value. -/
def trackingParameter : List Act :=
  [.push (parametersText 5 0 "null" [valueText 1]), .dispatch,
    .push (parametersText 5 1 "\x7b\"2\":[\"/off\",null],\"1\":[\"/on\",null]\x7d"
      [valueText 1, valueText 2]), .dispatch,
    .push "[", .dispatch, .push (eventText 5 2), .dispatch,
    .push (parametersText 5 3 "\x7b\"1\":[\"/off\",null]\x7d" [valueText 1]), .dispatch,
    .read ⟨0⟩, .read ⟨0⟩]

/-- Where the call is open. -/
def openedParameter : System := plain.play openingParameter

def parameterLog : List Note :=
  plain.log openingParameter ++ openedParameter.log (.look ⟨0⟩ :: trackingParameter)

end System

/-- Of three frames one has a value that is picked. -/
theorem Run.parameter_tracked_renumbered :
    (numbered System.parameterLog).length ≤ UInt64.size ∧ CallsDistinct System.parameterLog
      ∧ (∃ st, (System.openedParameter.act (.look ⟨0⟩)).parties.find? ⟨0⟩ = some (.streaming st))
      ∧ ((System.openedParameter.act (.look ⟨0⟩)).emitted ⟨0⟩ System.trackingParameter).length = 1
      ∧ ∃ before r after c, System.parameterLog = before ++ .handled (.reply r) :: after
        ∧ replyOf ⟨0⟩ before = none ∧ replyOf ⟨0⟩ System.parameterLog = some r
        ∧ r.rejection = none ∧ r.call = some c
        ∧ Emits (System.openedParameter.play (.look ⟨0⟩ :: System.trackingParameter)) ⟨0⟩
          (parameterItems "/on" (eventsOf c after))
          ((System.openedParameter.act (.look ⟨0⟩)).emitted ⟨0⟩ System.trackingParameter) := by
  obtain ⟨hlen, hd, hopens, hstreaming, hemitted⟩ :
      (numbered System.parameterLog).length ≤ UInt64.size ∧ CallsDistinct System.parameterLog
        ∧ (System.openedParameter.parties.find? ⟨0⟩).any (Party.opensParameter "/on") = true
        ∧ ((System.openedParameter.act (.look ⟨0⟩)).parties.find? ⟨0⟩).any Party.isStreaming = true
        ∧ ((System.openedParameter.act (.look ⟨0⟩)).emitted ⟨0⟩ System.trackingParameter).length
          = 1 := by
    decide +kernel
  obtain ⟨op, hparty, hplan⟩ := Party.eq_of_opensParameter hopens
  have hopen := Party.eq_of_isStreaming hstreaming
  refine ⟨hlen, hd, hopen, hemitted, ?_⟩
  obtain ⟨st, hst⟩ := hopen
  have hrun : Run ⟨.default, .none⟩ 64 (System.plain.log System.openingParameter)
      System.openedParameter := Run.plain System.openingParameter
  exact (Run.parameter_tracked "/on").2.2.2 hrun hparty hplan hst hlen hd

end GroundLink.Connection
