import Mathlib.Data.List.DropRight
import Provenance.Simulation.EventLog

/-!
What a log of limited size tells of the events that were recorded. All the events in their order are
the head of the log, one run of events that are left out, and the tail of the log. The tail stays
empty until the head is full, and nothing is left out until the tail is full. One event more keeps
this (`Tells.record`), so it holds after any number of them (`Tells.recordAll`), and with the two
capacities it settles what the head, the tail and the count of what is left out are.
-/

set_option autoImplicit false
set_option relaxedAutoImplicit false

namespace Provenance.Simulation.EventLog

variable {log : EventLog} {events omitted : List String}

/-- Records some events one after the other. -/
def recordAll (events : List String) (log : EventLog) : EventLog :=
  events.foldl (fun log event ↦ log.record event) log

theorem capacities_record (event : String) (log : EventLog) :
    (log.record event).firstCapacity = log.firstCapacity ∧
      (log.record event).tailCapacity = log.tailCapacity := by
  unfold record
  split_ifs <;> exact ⟨rfl, rfl⟩

theorem capacities_recordAll (events : List String) (log : EventLog) :
    (log.recordAll events).firstCapacity = log.firstCapacity ∧
      (log.recordAll events).tailCapacity = log.tailCapacity := by
  induction events generalizing log with
  | nil => exact ⟨rfl, rfl⟩
  | cons event rest ih =>
    obtain ⟨hfirst, htail⟩ := capacities_record event log
    obtain ⟨hfirst', htail'⟩ := ih (log.record event)
    exact ⟨hfirst'.trans hfirst, htail'.trans htail⟩

/-- A log tells of some events all but one run of them, which it counts. -/
structure Tells (log : EventLog) (omitted events : List String) : Prop where
  eq_append : events = log.first ++ omitted ++ log.tail
  dropped_eq : log.dropped = omitted.length
  first_le : log.first.length ≤ log.firstCapacity
  tail_le : log.tail.length ≤ log.tailCapacity
  /-- While the head has room, it holds all there is. -/
  of_first_lt : log.first.length < log.firstCapacity → omitted = [] ∧ log.tail = []
  /-- While the tail has room, nothing is left out. -/
  of_tail_lt : log.tail.length < log.tailCapacity → omitted = []

namespace Tells

theorem empty (firstCapacity tailCapacity : Nat) :
    (EventLog.empty firstCapacity tailCapacity).Tells [] [] where
  eq_append := rfl
  dropped_eq := rfl
  first_le := Nat.zero_le _
  tail_le := Nat.zero_le _
  of_first_lt _ := ⟨rfl, rfl⟩
  of_tail_lt _ := rfl

/-! ### One more event -/

theorem intoHead (h : log.Tells omitted events)
    (hroom : log.first.length < log.firstCapacity) (event : String) :
    Tells { log with first := log.first ++ [event] } [] (events ++ [event]) := by
  obtain ⟨rfl, htail⟩ := h.of_first_lt hroom
  refine ⟨?_, h.dropped_eq, ?_, h.tail_le, fun _ ↦ ⟨rfl, htail⟩, fun _ ↦ rfl⟩
  · simp [h.eq_append, htail]
  · rw [List.length_append, List.length_singleton]
    exact hroom

theorem leftOut (h : log.Tells omitted events) (hhead : ¬log.first.length < log.firstCapacity)
    (hnone : log.tailCapacity = 0) (event : String) :
    Tells { log with dropped := log.dropped + 1 } (omitted ++ [event]) (events ++ [event]) := by
  have htail : log.tail = [] :=
    List.eq_nil_of_length_eq_zero (Nat.le_zero.mp (hnone ▸ h.tail_le))
  refine ⟨?_, ?_, h.first_le, h.tail_le, fun hlt ↦ absurd hlt hhead, fun hlt ↦ ?_⟩
  · simp [h.eq_append, htail]
  · simp [h.dropped_eq]
  · exact absurd (hnone ▸ hlt) (Nat.not_lt_zero _)

/-- The oldest event of a full tail makes room for the newest. -/
theorem pushedOut (h : log.Tells omitted events) (hhead : ¬log.first.length < log.firstCapacity)
    (hsome : log.tailCapacity ≠ 0) (hfull : log.tail.length = log.tailCapacity) (event : String) :
    ∃ oldest, Tells { log with tail := log.tail.drop 1 ++ [event], dropped := log.dropped + 1 }
      (omitted ++ [oldest]) (events ++ [event]) := by
  obtain ⟨oldest, rest, htail⟩ := List.exists_cons_of_ne_nil (l := log.tail) fun hnil ↦ by
    rw [hnil] at hfull
    exact hsome hfull.symm
  have hlength : (log.tail.drop 1 ++ [event]).length = log.tailCapacity := by
    rw [← hfull, htail, List.drop_one, List.tail_cons, List.length_append, List.length_singleton,
      List.length_cons]
  refine ⟨oldest, ?_, ?_, h.first_le, Nat.le_of_eq hlength, fun hlt ↦ absurd hlt hhead,
    fun hlt ↦ absurd hlength (Nat.ne_of_lt hlt)⟩
  · simp [h.eq_append, htail]
  · simp [h.dropped_eq]

theorem intoTail (h : log.Tells omitted events) (hhead : ¬log.first.length < log.firstCapacity)
    (hroom : log.tail.length < log.tailCapacity) (event : String) :
    Tells { log with tail := log.tail ++ [event] } [] (events ++ [event]) := by
  obtain rfl := h.of_tail_lt hroom
  refine ⟨?_, h.dropped_eq, h.first_le, ?_, fun hlt ↦ absurd hlt hhead, fun _ ↦ rfl⟩
  · simp [h.eq_append]
  · rw [List.length_append, List.length_singleton]
    exact hroom

theorem record (h : log.Tells omitted events) (event : String) :
    ∃ omitted', (log.record event).Tells omitted' (events ++ [event]) := by
  unfold EventLog.record
  split_ifs with hroom hnone hfull
  · exact ⟨_, h.intoHead hroom event⟩
  · exact ⟨_, h.leftOut hroom hnone event⟩
  · obtain ⟨oldest, hnext⟩ := h.pushedOut hroom hnone hfull event
    exact ⟨_, hnext⟩
  · exact ⟨_, h.intoTail hroom (Nat.lt_of_le_of_ne h.tail_le hfull) event⟩

theorem recordAll (h : log.Tells omitted events) (more : List String) :
    ∃ omitted', (log.recordAll more).Tells omitted' (events ++ more) := by
  induction more generalizing log omitted events with
  | nil => exact ⟨omitted, by rwa [List.append_nil]⟩
  | cons event rest ih =>
    obtain ⟨_, hone⟩ := h.record event
    obtain ⟨omitted', hall⟩ := ih hone
    refine ⟨omitted', ?_⟩
    rwa [List.append_assoc, List.singleton_append] at hall

/-! ### What is kept and what is not -/

theorem length_eq (h : log.Tells omitted events) :
    events.length = log.first.length + omitted.length + log.tail.length := by
  rw [h.eq_append, List.length_append, List.length_append]

theorem length_first (h : log.Tells omitted events) :
    log.first.length = min events.length log.firstCapacity := by
  have hlength := h.length_eq
  have hle := h.first_le
  by_cases hroom : log.first.length < log.firstCapacity
  · obtain ⟨rfl, htail⟩ := h.of_first_lt hroom
    rw [htail, List.length_nil] at hlength
    omega
  · omega

theorem length_tail (h : log.Tells omitted events) :
    log.tail.length = min log.tailCapacity (events.length - log.first.length) := by
  have hlength := h.length_eq
  have hle := h.tail_le
  by_cases hroom : log.tail.length < log.tailCapacity
  · obtain rfl := h.of_tail_lt hroom
    rw [List.length_nil] at hlength
    omega
  · omega

theorem first_eq (h : log.Tells omitted events) :
    log.first = events.take (min events.length log.firstCapacity) := by
  rw [← h.length_first, h.eq_append, List.append_assoc, List.take_left]

theorem tail_eq (h : log.Tells omitted events) :
    log.tail = (events.drop log.first.length).rtake
      (min log.tailCapacity (events.length - log.first.length)) := by
  have hdrop : events.drop log.first.length = omitted ++ log.tail := by
    rw [h.eq_append, List.append_assoc, List.drop_left]
  rw [← h.length_tail, hdrop, List.rtake, List.length_append, Nat.add_sub_cancel_right,
    List.drop_left]

theorem dropped_eq_sub (h : log.Tells omitted events) :
    log.dropped = events.length - log.first.length - log.tail.length := by
  have hlength := h.length_eq
  have hdropped := h.dropped_eq
  omega

/-- A report shows the events in their order, and in the place of the run that is left out how many
it has. -/
theorem dump_eq (h : log.Tells omitted events) (header : String) :
    log.dump header = header :: log.first.map ("  " ++ ·) ++
      (if omitted = [] then [] else [s!"  ... {omitted.length} events omitted ..."]) ++
      log.tail.map ("  " ++ ·) := by
  unfold dump
  rw [h.dropped_eq]
  cases omitted with
  | nil => rfl
  | cons _ _ => rfl

end Tells

/-- After any events, a log that was empty holds as many of the first of them as its head can hold
and as many of the last of the others as its tail can hold, and counts the rest. The rest is one run
of events between the two, and a report tells of each event once: it is shown in its order, or it is
one of the run that is counted. -/
theorem head_and_tail_kept (firstCapacity tailCapacity : Nat) (events : List String)
    (header : String) :
    let log : EventLog := recordAll events (empty firstCapacity tailCapacity)
    log.first = events.take (min events.length firstCapacity) ∧
      log.tail = (events.drop log.first.length).rtake
        (min tailCapacity (events.length - log.first.length)) ∧
      log.dropped = events.length - log.first.length - log.tail.length ∧
      ∃ omitted, events = log.first ++ omitted ++ log.tail ∧ omitted.length = log.dropped ∧
        log.dump header = header :: log.first.map ("  " ++ ·) ++
          (if omitted = [] then [] else [s!"  ... {omitted.length} events omitted ..."]) ++
          log.tail.map ("  " ++ ·) := by
  intro log
  obtain ⟨hfirst, htail⟩ := capacities_recordAll events (empty firstCapacity tailCapacity)
  obtain ⟨omitted, htells⟩ := (Tells.empty firstCapacity tailCapacity).recordAll events
  rw [List.nil_append] at htells
  refine ⟨?_, ?_, htells.dropped_eq_sub, omitted, htells.eq_append, htells.dropped_eq.symm,
    htells.dump_eq header⟩
  · rw [htells.first_eq, hfirst]
    rfl
  · rw [htells.tail_eq, htail]
    rfl

example : recordAll ["a", "b", "c", "d", "e"] (empty 1 2) = ⟨1, 2, ["a"], ["d", "e"], 2⟩ := by
  decide

end Provenance.Simulation.EventLog
