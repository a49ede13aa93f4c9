import Provenance.Driver.Relational
import Provenance.Proofs.PlannedFailures
import Provenance.Reading

/-!
Reading rows that a statement has given out. `Reading.outcome` evaluates a reading on the rows
alone, without a driver. Reading from a relational store comes to just that unless a planned failure
of a fetch is met: then one failure is used up and the statement is reported as failed
(`run_eq_outcome_or_failed`). Reading never changes the store.
-/

set_option autoImplicit false
set_option relaxedAutoImplicit false

namespace Provenance

open Relational (Cursor Statement World)

variable {α : Type}

namespace Reading

/-- What a reading makes of a cursor: a call that the cursor does not allow fails the statement. -/
def outcome (query : Query) : Reading α → Option Cursor → Except Error α
  | stop result, _ => result
  | fetch _, none => .error (.statement query.name)
  | fetch next, some ⟨_, []⟩ => (next false).outcome query (some ⟨none, []⟩)
  | fetch next, some ⟨_, row :: rest⟩ => (next true).outcome query (some ⟨some row, rest⟩)
  | column index next, cursor =>
    match (cursor.bind (·.current)).bind fun row ↦ row[index]? with
    | some value => (next value).outcome query cursor
    | none => .error (.statement query.name)
  | close next, _ => next.outcome query none

end Reading

/-- The driver of a relational store under a plan of failures. -/
abbrev Relational.faulty (config : Relational.Config) : Driver (Faulty World) Statement :=
  Faulty.driver (Relational.driver config)

variable {config : Relational.Config} {query : Query} {handle : Statement} {w : Faulty World}
  {log : List Event}

theorem closeQuietly_faulty :
    Opened.closeQuietly (Relational.faulty config) query ⟨handle, w, log⟩ =
      ⟨{ handle with cursor := none }, w, log⟩ := rfl

/-- The first call of a reading, made on the rows. -/
theorem fetch_faulty (config : Relational.Config) (handle : Statement)
    (h : w.plan.queues .fetch = []) :
    (Relational.faulty config).fetch handle w =
      ((Relational.fetch handle w.world).1, (Relational.fetch handle w.world).2.1, w) := by
  have hworld : (Relational.fetch handle w.world).2.2 = w.world := by
    unfold Relational.fetch
    rcases handle.cursor with _ | ⟨_, _ | _⟩ <;> rfl
  change Faulty.guardedOn .fetch Relational.fetch handle w = _
  rw [Faulty.guardedOn_of_nil _ _ h, hworld]

theorem column_faulty (index : Nat) (handle : Statement) (w : Faulty World) :
    (Relational.faulty config).column index handle w =
      ((Relational.column index handle w.world).1, (Relational.column index handle w.world).2.1,
        ⟨w.plan, (Relational.column index handle w.world).2.2⟩) := rfl

theorem column_faulty_of_some (config : Relational.Config) {index : Nat} {value : Value}
    (w : Faulty World)
    (h : ((handle.cursor.bind (·.current)).bind fun row ↦ row[index]?) = some value) :
    (Relational.faulty config).column index handle w = (.ok value, handle, w) := by
  obtain ⟨row, hrow, hvalue⟩ := Option.bind_eq_some_iff.mp h
  have hcolumn : Relational.column index handle w.world = (.ok value, handle, w.world) := by
    simp only [Relational.column, hrow, hvalue]
  rw [column_faulty, hcolumn]

theorem column_faulty_of_none (config : Relational.Config) {index : Nat} (w : Faulty World)
    (h : ((handle.cursor.bind (·.current)).bind fun row ↦ row[index]?) = none) :
    ∃ err, (Relational.faulty config).column index handle w = (.error err, handle, w) := by
  have hcolumn : ∃ err, Relational.column index handle w.world = (.error err, handle, w.world) := by
    unfold Relational.column
    rcases hrow : handle.cursor.bind (·.current) with _ | row
    · exact ⟨_, rfl⟩
    · rw [hrow] at h
      simp only [show row[index]? = none from h]
      exact ⟨_, rfl⟩
  obtain ⟨err, herr⟩ := hcolumn
  exact ⟨err, by rw [column_faulty, herr]⟩

namespace Reading

/-- A reading that meets no planned failure comes to its outcome on the rows. One that does uses it
up, and the statement has failed. -/
theorem run_eq_outcome_or_failed (reading : Reading α) (handle : Statement) (w : Faulty World)
    (log : List Event) :
    ∃ left log', left.command = handle.command ∧
      (reading.run (Relational.faulty config) query ⟨handle, w, log⟩ =
          (reading.outcome query handle.cursor, ⟨left, w, log'⟩) ∨
        w.plan.queues .fetch ≠ [] ∧
          reading.run (Relational.faulty config) query ⟨handle, w, log⟩ =
            (.error (.statement query.name),
              ⟨left, ⟨w.plan.after .fetch, w.world⟩, log'⟩)) := by
  induction reading generalizing handle log with
  | stop result => exact ⟨handle, log, rfl, .inl rfl⟩
  | fetch next ih =>
    cases hqueue : w.plan.queues .fetch with
    | cons err rest =>
      -- The failure is met at once: no row is looked at.
      have hfetch : (Relational.faulty config).fetch handle w =
          (.error err, handle, ⟨w.plan.after .fetch, w.world⟩) :=
        Faulty.guardedOn_of_cons _ _ hqueue
      refine ⟨{ handle with cursor := none }, log ++ Event.ofError query.name err, rfl, .inr ?_⟩
      refine ⟨List.cons_ne_nil _ _, ?_⟩
      simp only [run, hfetch]
      rfl
    | nil =>
      have hfetch := fetch_faulty config handle hqueue
      rcases hcursor : handle.cursor with _ | ⟨current, _ | ⟨row, rest⟩⟩
      · let err := Relational.invalidCursor "fetch without an open cursor"
        refine ⟨{ handle with cursor := none }, log ++ Event.ofError query.name err, rfl, .inl ?_⟩
        simp only [run, hfetch, Relational.fetch, hcursor, outcome]
        rfl
      · obtain ⟨left, log', hleft, hrun⟩ :=
          ih false { handle with cursor := some ⟨none, []⟩ } log
        refine ⟨left, log', hleft, ?_⟩
        simpa only [run, hfetch, Relational.fetch, hcursor, outcome, hqueue] using hrun
      · obtain ⟨left, log', hleft, hrun⟩ :=
          ih true { handle with cursor := some ⟨some row, rest⟩ } log
        refine ⟨left, log', hleft, ?_⟩
        simpa only [run, hfetch, Relational.fetch, hcursor, outcome, hqueue] using hrun
  | column index next ih =>
    rcases hvalue : (handle.cursor.bind (·.current)).bind fun row ↦ row[index]? with _ | value
    · obtain ⟨err, hcolumn⟩ := column_faulty_of_none config w hvalue
      refine ⟨{ handle with cursor := none }, log ++ Event.ofError query.name err, rfl, .inl ?_⟩
      simp only [run, hcolumn, outcome, hvalue]
      rfl
    · have hcolumn := column_faulty_of_some config w hvalue
      obtain ⟨left, log', hleft, hrun⟩ := ih value handle log
      refine ⟨left, log', hleft, ?_⟩
      simpa only [run, hcolumn, outcome, hvalue] using hrun
  | close next ih =>
    obtain ⟨left, log', hleft, hrun⟩ := ih { handle with cursor := none } log
    refine ⟨left, log', hleft, ?_⟩
    simpa only [run, closeQuietly_faulty, outcome] using hrun

end Reading

end Provenance
