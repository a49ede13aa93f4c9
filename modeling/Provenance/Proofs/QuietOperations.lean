import Provenance.Proofs.ReadBack

/-!
Operations with nothing planned to fail. On a backend that is connected or may connect, an operation
whose request yields a result gives the answer and the rows that this result makes
(`Quiet.gives_of_ok`, `Quiet.gives_of_answering`). A request for rows that can be read yields what
each of them shows, in their order (`Store.yields_list`).
-/

set_option autoImplicit false
set_option relaxedAutoImplicit false

namespace Provenance

variable {α : Type}

namespace Store

variable {s : Store} {now : Value}

/-- A request for rows yields what is read off each of them. -/
theorem yields_list {made : Except Error (Request (List α))} (query : Query)
    (params : List Value) {reading : Reading α} {ρ : Type} {rows : List ρ} {columns : ρ → Row}
    {shown : ρ → α} (hmade : made = .ok (.list query params reading))
    (hplain : ∀ value ∈ params, value.IsPlain) (hwrites : query.writes = false)
    (harity : params.length = query.arity)
    (hrows : s.select query (params.getD · .null) = rows.map columns)
    (hreadable : ∀ row ∈ rows, ∀ value ∈ columns row, value.isGarbled = false)
    (hreads : ∀ row ∈ rows, reading.Reads (columns row) (shown row)) :
    s.Yields now made (.ok (rows.map shown)) s := by
  have hall : List.Forall₂ reading.Reads (rows.map columns) (rows.map shown) := by
    rw [List.forall₂_map_left_iff, List.forall₂_map_right_iff, List.forall₂_same]
    exact hreads
  exact yields_of_run (.list query params reading) hmade hplain
    (run_of_readable query params hwrites harity hrows (readable_map hreadable))
    (Request.readOff_list query params hall)

/-- A request for the id of one row yields it, if there is a row. -/
theorem yields_oneId {made : Except Error (Request Nat)} (query : Query) (params : List Value)
    {found : Option Nat} (hmade : made = .ok (.oneId query params))
    (hplain : ∀ value ∈ params, value.IsPlain) (hwrites : query.writes = false)
    (harity : params.length = query.arity)
    (hrows : s.select query (params.getD · .null) =
      (found.map fun id : Nat ↦ [Value.int id]).toList) :
    s.Yields now made (found.elim (.error .notFound) .ok) s := by
  have hreadable : Readable (found.map fun id : Nat ↦ [Value.int id]).toList := by
    rw [Option.toList_map]
    exact readable_ids found.toList
  refine yields_of_run (.oneId query params) hmade hplain
    (run_of_readable query params hwrites harity hrows hreadable) ?_
  cases found with
  | none => rfl
  | some id => exact Request.readOff_oneId query params id

end Store

/-- The answer of an enumeration that has handed out all of these rows. -/
def Answer.afterRows (rows : List α) : Answer := .listed (if rows.isEmpty then .noData else .ok)

theorem Answer.afterRows_map {β : Type} (f : α → β) (rows : List α) :
    afterRows (rows.map f) = afterRows rows := by
  rw [afterRows, List.isEmpty_map, afterRows]

/-- The answer of a lookup of an id. -/
def Answer.ofId (found : Option Nat) : Except Error Answer :=
  found.elim (.error .notFound) fun id ↦ .ok (.id id)

namespace FileSite

variable {site : FileSite} {s : Store} {backend : FileBackend} {op : Operation}

/-- The backend keeps this store. It is connected or may connect, and nothing is planned to fail. -/
structure Quiet (site : FileSite) (s : Store) (backend : FileBackend) : Prop where
  keeps : site.Keeps backend.connection.world.world s
  opens : backend.connection.isConnected = true ∨ backend.options.maxRetries ≠ 0
  queues : ∀ point, backend.connection.world.plan.queues point = []

/-- The operation answers so and hands out these rows, and the store stays as it is. -/
def Gives (site : FileSite) (s : Store) (backend : FileBackend) (op : Operation)
    (answer : Except Error Answer) (rows : List Listed) : Prop :=
  ∃ after, (op.run site.driver Backend.keepRow).run ([], backend) = (answer, (rows, after)) ∧
    site.Keeps after.connection.world.world s

/-- A call with valid arguments comes to what the store makes of its request, and the backend is
connected after it. -/
theorem Quiet.served_of_settled (h : site.Quiet s backend)
    (hsettled : backend.connection.Settled site s)
    {request : Reader → Except Error (Request α)} {valid : Request α}
    (hmade : request backend.reader = .ok valid) :
    ∃ after live, (Backend.call site.driver request).run backend =
        ((s.served backend.connection.world.world.now valid).1, after) ∧
      site.Quiet (s.served backend.connection.world.world.now valid).2 after ∧
      after.connection.IsOpen site (s.served backend.connection.world.world.now valid).2 live ∧
      after.connection.poolSize = backend.connection.poolSize ∧
      after.connection.world.world.now = backend.connection.world.world.now := by
  obtain ⟨c', hperform, hserved⟩ :=
    Connection.perform_of_nothing_planned hsettled h.opens valid 0 h.queues
  obtain ⟨live, hopen⟩ := hserved.isOpen
  have hconnected : c'.isConnected = true := by
    rw [Connection.isConnected, hopen.live_eq, Option.isSome_some]
  refine ⟨{ backend with connection := c' }, live, ?_, ?_, hopen, hserved.poolSize_eq,
    hserved.agree.now_eq.trans (now_led _ _ _)⟩
  · rw [Backend.run_call_of_ok hmade, hperform]
  · exact ⟨hopen.keeps, .inl hconnected, fun point ↦ by rw [hserved.queues, h.queues]⟩

theorem Quiet.served (h : site.Quiet s backend) (hreach : site.Reachable (.opened backend))
    {request : Reader → Except Error (Request α)} {valid : Request α}
    (hmade : request backend.reader = .ok valid) :
    ∃ after live, (Backend.call site.driver request).run backend =
        ((s.served backend.connection.world.world.now valid).1, after) ∧
      site.Quiet (s.served backend.connection.world.world.now valid).2 after ∧
      after.connection.IsOpen site (s.served backend.connection.world.world.now valid).2 live ∧
      after.connection.poolSize = backend.connection.poolSize := by
  obtain ⟨after, live, hcall, hafter, hopen, hsize, -⟩ :=
    h.served_of_settled (hreach.settled h.keeps).2 hmade
  exact ⟨after, live, hcall, hafter, hopen, hsize⟩

/-- A request that yields a result is performed with this result, and nothing is planned to fail
after it. -/
theorem Quiet.call_of_yields (request : Reader → Except Error (Request α))
    (h : site.Quiet s backend) (hsettled : backend.connection.Settled site s)
    {result : Except Error α} {s' : Store}
    (hyields : s.Yields backend.connection.world.world.now (request backend.reader) result s') :
    ∃ after, (Backend.call site.driver request).run backend = (result, after) ∧
      after.connection.Settled site s' ∧ site.Quiet s' after ∧
      after.connection.world.world.now = backend.connection.world.world.now := by
  obtain ⟨valid, rows, hmade, hreply, hread⟩ := hyields
  obtain ⟨after, live, hcall, hafter, hopen, -, hnow⟩ := h.served_of_settled hsettled hmade
  rw [Store.served_of_ok hreply] at hcall hafter hopen
  rw [hread] at hcall
  exact ⟨after, hcall, .inl ⟨live, hopen⟩, hafter, hnow⟩

/-- A request that yields a result is performed with this result. -/
theorem Quiet.exists_after (h : site.Quiet s backend) (hreach : site.Reachable (.opened backend))
    {request : Reader → Except Error (Request α)} {result : Except Error α}
    (hyields : s.Yields backend.connection.world.world.now (request backend.reader) result s) :
    ∃ after, (Backend.call site.driver request).run backend = (result, after) ∧
      site.Keeps after.connection.world.world s := by
  obtain ⟨after, hcall, -, hafter, -⟩ := h.call_of_yields request (hreach.settled h.keeps).2 hyields
  exact ⟨after, hcall, hafter.keeps⟩

/-- An operation whose request yields rows hands them out and answers. -/
theorem Quiet.gives_of_ok (h : site.Quiet s backend) (hreach : site.Reachable (.opened backend))
    {rows : op.form.Rows}
    (hyields : s.Yields backend.connection.world.world.now (op.form.request backend.reader)
      (.ok rows) s) :
    site.Gives s backend op (op.form.answer rows) (op.form.listed rows) := by
  obtain ⟨after, hcall, hkeeps⟩ := h.exists_after hreach hyields
  refine ⟨after, ?_, hkeeps⟩
  rw [Operation.run_keepRow, hcall]
  rfl

/-- An operation that answers with what it asks for hands out nothing. -/
theorem Quiet.gives_of_answering (h : site.Quiet s backend)
    (hreach : site.Reachable (.opened backend)) {request : Reader → Except Error (Request α)}
    {wrap : α → Answer} (hform : op.form = .answering request wrap) {result : Except Error α}
    (hyields : s.Yields backend.connection.world.world.now (request backend.reader) result s) :
    site.Gives s backend op (result.map wrap) [] := by
  obtain ⟨after, hcall, hkeeps⟩ := h.exists_after hreach hyields
  refine ⟨after, ?_, hkeeps⟩
  rw [Action.run] at hcall
  rw [Operation.run_eq_form, hform, ← Operation.answering_call, Operation.answering,
    Action.run_bind]
  simp only [Action.run, Action.onSecond, hcall]
  cases result <;> rfl

/-- An operation that looks up an id answers with it, if there is one. -/
theorem Quiet.gives_ofId (h : site.Quiet s backend) (hreach : site.Reachable (.opened backend))
    {request : Reader → Except Error (Request Nat)} (hform : op.form = .answering request .id)
    {found : Option Nat} (hyields : s.Yields backend.connection.world.world.now
      (request backend.reader) (found.elim (.error .notFound) .ok) s) :
    site.Gives s backend op (Answer.ofId found) [] := by
  have hgives := h.gives_of_answering hreach hform hyields
  cases found <;> exact hgives

end FileSite

end Provenance
