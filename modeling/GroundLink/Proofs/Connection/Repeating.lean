import GroundLink.Proofs.Connection.Showing
import GroundLink.Proofs.View.EventLog
import Mathlib.Data.List.Perm.Subperm

/-!
# Events that are listed twice

A stream of events is subscribed before its history is fetched, and each event that is delivered
goes to the end of the list. So an event that is recorded between the two is listed twice: it comes
from the archive, and it has been delivered. No other event is.
-/

namespace GroundLink.Connection

open Model Protocol View

variable {h : List Note} {s : System} {t : Ticket} {st : Stream}

/-! ### Lists of events -/

/-- What a stream of events shows are the latest of the earlier events and of those that have been
delivered up to then. -/
lemma getElem?_eventItems {window : Option Nat} {prior : List Event} {us : List Update} {k : Nat}
    {item : Item} (hitem : (eventItems window prior us)[k]? = some item) :
    item = .events (EventLog.latest window (prior ++ (us.filterMap event?).take k)) := by
  rw [eventItems, growing, List.getElem?_map, Option.map_eq_some_iff] at hitem
  obtain ⟨k', hk, rfl⟩ := hitem
  obtain ⟨hlt, rfl⟩ := List.getElem?_eq_some_iff.mp hk
  rw [List.getElem_range, EventLog.foldl_push_ofHistory, EventLog.events_ofHistory]

/-- What a server has recorded, and what has come of it: the archive knows the events up to the
fetch, and those since the reply are delivered, each of them once. -/
structure Recorded (events : List Event) (replied fetched : Nat) (prior live : List Event) :
    Prop where
  distinct : events.Nodup
  archive : prior = events.take fetched
  delivery : live.Subperm (events.drop replied)

namespace Recorded

variable {events prior live : List Event} {replied fetched : Nat}

/-- An event that is in the archive and has been delivered was recorded between the reply and the
fetch. -/
lemma mem_between (hr : Recorded events replied fetched prior live) {e : Event} (hprior : e ∈ prior)
    (hlive : e ∈ live) : e ∈ (events.take fetched).drop replied := by
  have hlater : e ∈ events.drop replied := hr.delivery.subset hlive
  rw [hr.archive, ← List.take_append_drop replied (events.take fetched), List.mem_append,
    List.take_take] at hprior
  refine hprior.resolve_left fun hearlier => ?_
  exact List.disjoint_take_drop hr.distinct (Nat.min_le_left ..) hearlier hlater

lemma count_le (hr : Recorded events replied fetched prior live) (window : Option Nat) (k : Nat)
    (e : Event) : (EventLog.latest window (prior ++ live.take k)).count e
      ≤ if e ∈ (events.take fetched).drop replied then 2 else 1 := by
  have hprior : prior.count e ≤ 1 := by
    rw [hr.archive]
    exact List.nodup_iff_count_le_one.mp (hr.distinct.sublist (List.take_sublist ..)) e
  have hlive : (live.take k).count e ≤ 1 :=
    calc (live.take k).count e
      _ ≤ live.count e := (List.take_sublist ..).count_le e
      _ ≤ (events.drop replied).count e := hr.delivery.count_le e
      _ ≤ 1 := List.nodup_iff_count_le_one.mp (hr.distinct.sublist (List.drop_sublist ..)) e
  have hall := (EventLog.latest_suffix window (prior ++ live.take k)).sublist.count_le e
  rw [List.count_append] at hall
  split
  case isTrue => omega
  case isFalse hbetween =>
    -- Elsewhere an event is in one of the two lists only.
    by_cases hmem : e ∈ prior
    · have hnot : e ∉ live.take k := fun hlive =>
        hbetween (hr.mem_between hmem (List.mem_of_mem_take hlive))
      rw [List.count_eq_zero_of_not_mem hnot] at hall
      omega
    · rw [List.count_eq_zero_of_not_mem hmem] at hall
      omega

end Recorded

/-! ### Runs -/

/-- The events that have been delivered to a ticket. -/
def delivered (t : Ticket) (h : List Note) : List Event := (story t h).arrived.filterMap event?

/-- In every run in which no two replies open the same call, a stream of events lists what the
archive knows and then what has been delivered, one more event each time. If the events that have
been recorded are all different, the archive knows those up to the fetch, and each one since the
reply is delivered once, then no event is listed more than once, but for those recorded between the
reply and the fetch, which are listed at most twice. -/
theorem Run.events_listed {setting : Setting} {textRoom : Nat} (hrun : Run setting textRoom h s)
    {op : Operation} (hparty : s.parties.find? t = some (.calling op))
    (hplan : op.plan? = some .events)
    (hopen : (s.act (.look t)).parties.find? t = some (.streaming st)) {as : List System.Act}
    (hlen : (numbered (h ++ s.log (.look t :: as))).length ≤ UInt64.size)
    (hd : CallsDistinct (h ++ s.log (.look t :: as))) {prior : List Event}
    (hprior : s.setting.history.events = .ok prior) {events : List Event} {replied fetched : Nat}
    (hr : Recorded events replied fetched prior (delivered t (h ++ s.log (.look t :: as)))) :
    ∀ k item, ((s.act (.look t)).emitted t as)[k]? = some item → ∃ list, item = .events list
      ∧ list = EventLog.latest s.setting.config.eventWindow
        (prior ++ (delivered t (h ++ s.log (.look t :: as))).take k)
      ∧ ∀ e, list.count e ≤ if e ∈ (events.take fetched).drop replied then 2 else 1 := by
  intro k item hitem
  obtain ⟨v, c, hv, -, hstreams⟩ := hrun.streams_open hparty hplan hopen hlen hd
  have hshows : Plan.Shows s.setting .events (eventItems s.setting.config.eventWindow prior) :=
    .events hprior
  have hpre := (hrun.play (.look t :: as)).emitted_shown hlen hd hstreams
  rw [hshows.shown_eq hv] at hpre
  obtain ⟨hlt, rfl⟩ := List.getElem?_eq_some_iff.mp hitem
  have hshown := getElem?_eventItems (List.prefix_iff_getElem?.mp hpre k hlt)
  exact ⟨_, hshown, rfl, hr.count_le _ k⟩

/-- The list of events that an item is. -/
def Item.events? : Item → Option (List Event)
  | .events es => some es
  | _ => none

lemma Item.eq_of_events {item : Item} {es : List Event} (h : item.events? = some es) :
    item = .events es := by
  cases item <;> cases h
  rfl

namespace System

def recordedEvent (n : Nat) : Event :=
  ⟨"ASTRA", ⟨19723, 0, 0⟩, ⟨19723, 0, 0⟩, .ofNat n, none, "recorded", .info⟩

/-- A text of the server: an event that has been recorded. -/
def recordedText (call seq n : Nat) : String :=
  "\x7b\"type\":\"events\",\"call\":" ++ toString call ++ ",\"seq\":" ++ toString seq
    ++ ",\"data\":\x7b\"source\":\"ASTRA\",\"generationTime\":\"2024-01-01T00:00:00Z\","
    ++ "\"receptionTime\":\"2024-01-01T00:00:00Z\",\"seqNumber\":" ++ toString n
    ++ ",\"message\":\"recorded\",\"severity\":\"INFO\"\x7d\x7d"

/-- A stream of events. An event has been recorded before the reply, and another one comes while the
history is fetched. -/
def fetchingEvents : List Act :=
  [.archive ⟨.ok [], .ok [], ⟨1000⟩⟩, .stream .events, .look ⟨0⟩, .dispatch,
    .push (openingText 1 5), .dispatch, .look ⟨0⟩, .push (recordedText 5 0 2), .dispatch,
    .advance ⟨1000⟩, .archive ⟨.ok [], .ok [recordedEvent 1, recordedEvent 2], ⟨1000⟩⟩]

/-- Where the history has been fetched. -/
def fetchedEvents : System := plain.play fetchingEvents

/-- What is noted until the stream has been read twice. -/
def eventsLog : List Note :=
  plain.log fetchingEvents ++ fetchedEvents.log [.look ⟨0⟩, .read ⟨0⟩, .read ⟨0⟩]

end System

/-- How the stream in `fetchingEvents` is opened, and what has been recorded. -/
structure System.Fetched : Prop where
  run : Run ⟨.default, .none⟩ 64 (plain.log fetchingEvents) fetchedEvents
  length : (numbered eventsLog).length ≤ UInt64.size
  calls : CallsDistinct eventsLog
  caller : fetchedEvents.parties.find? ⟨0⟩
    = some (.calling (.fetch .events (.opened ⟨5⟩ .events ⟨0⟩) 1000))
  opened : ∃ st, (fetchedEvents.act (.look ⟨0⟩)).parties.find? ⟨0⟩ = some (.streaming st)
  archive : fetchedEvents.setting.history.events = .ok [recordedEvent 1, recordedEvent 2]
  recorded : Recorded [recordedEvent 1, recordedEvent 2] 1 2 [recordedEvent 1, recordedEvent 2]
    (delivered ⟨0⟩ eventsLog)

lemma System.fetched : Fetched := by
  obtain ⟨hlength, hcalls, hlive⟩ : (numbered eventsLog).length ≤ UInt64.size
      ∧ CallsDistinct eventsLog ∧ delivered ⟨0⟩ eventsLog = [recordedEvent 2] := by
    decide +kernel
  refine ⟨Run.plain fetchingEvents, hlength, hcalls, ?_, ?_, rfl, by decide, rfl, ?_⟩
  · exact Party.eq_of_fetching (fun | .events => true | _ => false) (by rintro ⟨⟩ <;> simp)
      (by decide +kernel)
  · exact Party.eq_of_isStreaming (by decide +kernel)
  · rw [hlive]
    exact .refl _

/-- The second event is listed twice once it has been read. -/
theorem Run.event_listed_twice : System.Fetched
    ∧ ¬∀ list, .events list ∈ (System.fetchedEvents.act (.look ⟨0⟩)).emitted ⟨0⟩
        [.read ⟨0⟩, .read ⟨0⟩] → list.Nodup := by
  refine ⟨System.fetched, fun hall => ?_⟩
  have hemitted : ((System.fetchedEvents.act (.look ⟨0⟩)).emitted ⟨0⟩
      [.read ⟨0⟩, .read ⟨0⟩]).filterMap Item.events?
        = [[System.recordedEvent 1, System.recordedEvent 2],
          [System.recordedEvent 1, System.recordedEvent 2, System.recordedEvent 2]] := by
    decide +kernel
  have htwice : [System.recordedEvent 1, System.recordedEvent 2, System.recordedEvent 2]
      ∈ ((System.fetchedEvents.act (.look ⟨0⟩)).emitted ⟨0⟩
        [.read ⟨0⟩, .read ⟨0⟩]).filterMap Item.events? := by
    rw [hemitted]
    exact List.mem_cons_of_mem _ (List.mem_singleton_self _)
  obtain ⟨item, hitem, hevents⟩ := List.mem_filterMap.mp htwice
  rw [Item.eq_of_events hevents] at hitem
  exact absurd (hall _ hitem) (by decide)

/-- Nothing but the second event is listed twice. -/
theorem Run.events_listed_fetched : System.Fetched
    ∧ ∀ k item, ((System.fetchedEvents.act (.look ⟨0⟩)).emitted ⟨0⟩
        [.read ⟨0⟩, .read ⟨0⟩])[k]? = some item → ∃ list, item = .events list
        ∧ list = EventLog.latest System.fetchedEvents.setting.config.eventWindow
          ([System.recordedEvent 1, System.recordedEvent 2]
            ++ (delivered ⟨0⟩ System.eventsLog).take k)
        ∧ ∀ e, list.count e ≤ if e = System.recordedEvent 2 then 2 else 1 := by
  obtain ⟨hrun, hlen, hd, hparty, ⟨st, hopen⟩, harchive, hrecorded⟩ := System.fetched
  refine ⟨System.fetched, fun k item hitem => ?_⟩
  obtain ⟨list, hevents, hlist, hcount⟩ :=
    hrun.events_listed hparty rfl hopen hlen hd harchive hrecorded k item hitem
  refine ⟨list, hevents, hlist, fun e => ?_⟩
  have hbetween : ([System.recordedEvent 1, System.recordedEvent 2].take 2).drop 1
      = [System.recordedEvent 2] := rfl
  simpa only [hbetween, List.mem_singleton] using hcount e

end GroundLink.Connection
