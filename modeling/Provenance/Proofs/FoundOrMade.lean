import Provenance.Context
import Provenance.Proofs.LastPass
import Provenance.Proofs.ObjectDirectory

/-!
Objects that are made if they are not found. A call comes to one of four things (`Backend.Ended`),
and where its result is not read off the rows of its request, the arguments or the driver are to
blame. So a lookup says that nothing was found only where there is nothing
(`Backend.ended_lookupObject`), and what is then made is the only one (`Asked.foundOrMade`). Over
any history in which nothing else makes or deletes an object of the name and kind, one is made at
most, every call that answers tells its id, and calls answer again when nothing fails
(`made_at_most_once`).
-/

set_option autoImplicit false
set_option relaxedAutoImplicit false

namespace Provenance

open Relational (Statement World)

variable {α : Type} {site : FileSite} {s s' : Store} {space name : String} {kind : ObjectKind}

/-! ### What a call comes to -/

namespace Backend

/-- The result of a call and the store that it leaves. -/
inductive Ended (s : Store) (now : Value) (made : Except Error (Request α)) :
    Except Error α → Store → Prop
  | refused {err : Error} (hmade : made = .error err) : Ended s now made (.error err) s
  /-- The driver has failed before the request was served. -/
  | failed {err : Error} (hdriver : err.isFromDriver = true) : Ended s now made (.error err) s
  | served {valid : Request α} {rows : List Row} {s' : Store} (hmade : made = .ok valid)
      (hreply : s.reply now valid = .ok (rows, s')) : Ended s now made (valid.readOff rows) s'
  /-- The request has been served, but the driver has failed to fetch its rows. -/
  | unread {valid : Request α} {rows : List Row} {s' : Store} {err : Error}
      (hmade : made = .ok valid) (hreply : s.reply now valid = .ok (rows, s'))
      (hdriver : err.isFromDriver = true) : Ended s now made (.error err) s'

variable {backend : FileBackend}

theorem exists_ended (request : Reader → Except Error (Request α))
    (h : backend.connection.Settled site s) :
    ∃ result after s', (call site.driver request).run backend = (result, after) ∧
      after.connection.Settled site s' ∧
      Ended s backend.connection.world.world.now (request backend.reader) result s' := by
  cases hmade : request backend.reader with
  | error err => exact ⟨_, _, s, run_call_of_error hmade, h, .refused rfl⟩
  | ok valid =>
    rw [run_call_of_ok hmade]
    rcases Connection.perform_cases valid backend.options.maxRetries 0 h with
      ⟨err, c', hperform, hdriver, hspared⟩ |
        ⟨last, live, result, c', rows, s', -, -, hperform, hserved⟩
    · rw [hperform]
      exact ⟨_, _, s, rfl, hspared.settled, .failed hdriver⟩
    · rw [hperform]
      refine ⟨_, _, s', rfl, .inl hserved.isOpen, ?_⟩
      rcases hserved.result with ⟨rfl, -⟩ | ⟨-, rfl, -⟩
      · exact .served rfl hserved.reply
      · exact .unread rfl hserved.reply rfl

end Backend

/-! ### Objects of a name and a kind -/

namespace Store

/-- The ids of the objects of a name and a kind, in the order in which they were made. -/
def idsOf (s : Store) (space name : String) (kind : ObjectKind) : List Nat :=
  (s.goingBy space name (some kind)).map (·.id)

variable {now : Value} {rows : List Row} {session : Nat}

theorem getLast?_idsOf : (s.goingBy space name (some kind)).getLast?.map (·.id) =
    (s.idsOf space name kind).getLast? := List.getLast?_map.symm

theorem idsOf_withObject (s : Store) (row : ObjectRow) (space name : String) (kind : ObjectKind) :
    (s.withObject row).idsOf space name kind = s.idsOf space name kind ++
      if row.goesBy space name (some kind) then [row.id] else [] := by
  rw [idsOf, goingBy, withObject, List.filter_append, List.map_append, List.filter_singleton]
  cases row.goesBy space name (some kind) <;> rfl

theorem goesBy_nextObject_iff {space' name' : String} {kind' : ObjectKind} :
    (s.nextObject now space' name' kind' session).goesBy space name (some kind) = true ↔
      space' = space ∧ name' = name ∧ kind' = kind := by
  have hcode : Value.int kind'.code = Value.int kind.code ↔ kind' = kind :=
    ⟨fun h ↦ ObjectKind.code_injective (Value.int.inj h), fun h ↦ by rw [h]⟩
  simp only [ObjectRow.goesBy, nextObject, Bool.and_eq_true, beq_iff_eq, Value.text.injEq, hcode,
    and_assoc]

/-- Whatever the clock shows, an object that is stored is stored as it is asked for. -/
theorem eq_withObject_of_addObject (kind : ObjectKind)
    (h : s.addObject now (.text space) (.text name) (.int kind.code) (.int session) =
      .ok (rows, s')) :
    rows = returned (s.lastObject + 1) ∧
      s' = s.withObject (s.nextObject now.inNumericColumn space name kind session) := by
  unfold addObject at h
  split at h
  · cases h
  split at h
  · cases h
  split at h
  · cases h
  split at h
  · cases h
  obtain ⟨rfl, rfl⟩ := Prod.mk.inj (Except.ok.inj h)
  exact ⟨rfl, rfl⟩

/-- Only a query for objects adds one, and only the deletion of a bundle removes one. -/
theorem Change.objects_eq {query : Query} (h : s.Change query rows s')
    (hfills : query.fills ≠ some .objects) (hdeletes : query ≠ .deleteBundle) :
    s'.objects = s.objects := by
  cases h with
  | object query row hid hobject hsession =>
    rcases hobject with rfl | rfl <;> exact absurd rfl hfills
  | deletion bundle => exact absurd rfl hdeletes
  | _ => rfl

end Store

/-! ### One operation -/

namespace Operation

variable {op : Operation} {reader : Reader} {now : Value} {request : Request op.form.Rows}
  {rows : List Row}

/-- An operation refuses its arguments as invalid. -/
theorem exists_of_refused (op : Operation) (reader : Reader) {err : Error}
    (h : op.form.request reader = .error err) :
    ∃ text, err = .invalidArgument text := by
  have hchecks := op.checks_request reader
  unfold Checks at hchecks
  split at hchecks
  · exact ⟨_, Except.error.inj (h.symm.trans hchecks)⟩
  · obtain ⟨request, hrequest, -⟩ := hchecks
    cases h.symm.trans hrequest

/-- The operation makes no object of this name and kind, and deletes nothing. -/
def Leaves (space name : String) (kind : ObjectKind) : Operation → Prop
  | createObject space' name' kind' _ => ¬ (space' = space ∧ name' = name ∧ kind' = kind)
  | createBundle name' space' _ => ¬ (space' = space ∧ name' = name ∧ ObjectKind.bundle = kind)
  | deleteBundle _ => False
  | _ => True

theorem Leaves.idsOf_eq (h : op.Leaves space name kind)
    (hrequest : op.form.request reader = .ok request)
    (hrun : s.run now request.query request.params = .ok (rows, s')) :
    s'.idsOf space name kind = s.idsOf space name kind := by
  by_cases hfills : op.fills = some .objects
  · cases op with
    | createObject space' name' kind' session =>
      obtain rfl := Request.ensures_createObject space' name' kind' session request hrequest
      obtain ⟨-, rfl⟩ := Store.eq_withObject_of_addObject kind' hrun
      rw [Store.idsOf_withObject, if_neg (mt Store.goesBy_nextObject_iff.mp h), List.append_nil]
    | createBundle name' space' session =>
      obtain rfl := Request.ensures_createBundle name' space' session request hrequest
      obtain ⟨-, rfl⟩ := Store.eq_withObject_of_addObject .bundle hrun
      rw [Store.idsOf_withObject, if_neg (mt Store.goesBy_nextObject_iff.mp h), List.append_nil]
    | _ => cases hfills
  · have hquery := op.ensures_query reader request hrequest
    have hdeletes : request.query ≠ .deleteBundle := by
      intro hsame
      obtain ⟨bundle, rfl⟩ := eq_deleteBundle_of_query (hquery.symm.trans hsame)
      exact h
    rw [← op.fills_query, ← hquery] at hfills
    have hobjects := (Store.Change.of_run hrun).objects_eq hfills hdeletes
    rw [Store.idsOf, Store.goingBy, hobjects]
    rfl

end Operation

/-! ### Looking up and making -/

theorem Error.ne_notFound_of_isFromDriver {err : Error} (h : err.isFromDriver = true) :
    err ≠ .notFound := by
  rintro rfl
  cases h

section Replies

variable {now : Value} {valid : Request Nat} {rows : List Row} {session : Nat}

/-- A lookup that is served finds the object that was made last. -/
theorem Store.of_reply_lookupObject (reader : Reader)
    (hmade : (Operation.lookupObject space name (some kind)).form.request reader = .ok valid)
    (hreply : s.reply now valid = .ok (rows, s')) :
    s' = s ∧ valid.readOff rows =
      (s.idsOf space name kind).getLast?.elim (.error .notFound) .ok := by
  have hlimits := Operation.not_refused_of_request hmade
  have hspace : ¬ Limit.space < space.utf8ByteSize := hlimits (.text _ space _) (.head _)
  have hname : ¬ Limit.name < name.utf8ByteSize := hlimits (.text _ name _) (.tail _ (.head _))
  have hyields : s.Yields now _ _ s :=
    yields_lastObject (Nat.not_lt.mp hspace) (Nat.not_lt.mp hname) (some kind)
  obtain ⟨_, _, hmade', hreply', hread⟩ := hyields
  cases hmade.symm.trans hmade'
  cases hreply.symm.trans hreply'
  rw [getLast?_idsOf] at hread
  exact ⟨rfl, hread⟩

/-- Making an object that is served adds one of the name, and tells its id. -/
theorem Store.of_reply_createObject (reader : Reader)
    (hmade : (Operation.createObject space name kind session).form.request reader = .ok valid)
    (hreply : s.reply now valid = .ok (rows, s')) :
    s'.idsOf space name kind = s.idsOf space name kind ++ [s.lastObject + 1] ∧
      valid.readOff rows = .ok (s.lastObject + 1) := by
  have hrun := Operation.run_of_reply hmade hreply
  obtain rfl := Request.ensures_createObject space name kind session valid hmade
  obtain ⟨rfl, rfl⟩ := eq_withObject_of_addObject kind hrun
  rw [idsOf_withObject, if_pos (goesBy_nextObject_iff.mpr ⟨rfl, rfl, rfl⟩)]
  exact ⟨rfl, Request.readOff_oneId _ _ _⟩

end Replies

namespace Backend

variable {backend : FileBackend} {session : Nat}

/-- A lookup finds the object that was made last, and says that nothing was found only if there is
nothing: whatever else goes wrong is said to be something else. -/
theorem ended_lookupObject (h : backend.connection.Settled site s) (space name : String)
    (kind : ObjectKind) :
    ∃ result after, (lookupObject site.driver space name (some kind)).run backend =
        (result, after) ∧ after.connection.Settled site s ∧
      ((∃ err, result = .error err ∧ err ≠ .notFound) ∨
        (result = .error .notFound ∧ s.idsOf space name kind = []) ∨
        ∃ id, result = .ok id ∧ (s.idsOf space name kind).getLast? = some id) := by
  obtain ⟨result, after, s', hrun, hsettled, hended⟩ :=
    exists_ended (fun _ ↦ Request.lookupObject space name (some kind)) h
  refine ⟨result, after, hrun, ?_⟩
  cases hended with
  | refused hmade =>
    obtain ⟨text, rfl⟩ :=
      Operation.exists_of_refused (.lookupObject space name (some kind)) backend.reader hmade
    exact ⟨hsettled, .inl ⟨_, rfl, fun h ↦ by cases h⟩⟩
  | failed hdriver =>
    exact ⟨hsettled, .inl ⟨_, rfl, Error.ne_notFound_of_isFromDriver hdriver⟩⟩
  | served hmade hreply =>
    obtain ⟨hsame, hread⟩ := Store.of_reply_lookupObject backend.reader hmade hreply
    rw [hsame] at hsettled
    refine ⟨hsettled, .inr ?_⟩
    rw [hread]
    cases hlast : (s.idsOf space name kind).getLast? with
    | none => exact .inl ⟨rfl, List.getLast?_eq_none_iff.mp hlast⟩
    | some id => exact .inr ⟨id, rfl, rfl⟩
  | unread hmade hreply hdriver =>
    obtain ⟨rfl, -⟩ := Store.of_reply_lookupObject backend.reader hmade hreply
    exact ⟨hsettled, .inl ⟨_, rfl, Error.ne_notFound_of_isFromDriver hdriver⟩⟩

/-- Making an object fails and leaves the store as it was, or an object is made, and no id but its
own is told. -/
theorem ended_createObject (h : backend.connection.Settled site s) (space name : String)
    (kind : ObjectKind) (session : Nat) :
    ∃ result after s', (createObject site.driver space name kind session).run backend =
        (result, after) ∧ after.connection.Settled site s' ∧
      ((∃ err, result = .error err) ∧ s' = s ∨
        ∃ id, s'.idsOf space name kind = s.idsOf space name kind ++ [id] ∧
          ∀ told, result = .ok told → told = id) := by
  obtain ⟨result, after, s', hrun, hsettled, hended⟩ :=
    exists_ended (fun _ ↦ Request.createObject space name kind session) h
  refine ⟨result, after, s', hrun, hsettled, ?_⟩
  cases hended with
  | refused hmade => exact .inl ⟨⟨_, rfl⟩, rfl⟩
  | failed hdriver => exact .inl ⟨⟨_, rfl⟩, rfl⟩
  | served hmade hreply =>
    obtain ⟨hids, hread⟩ := Store.of_reply_createObject backend.reader hmade hreply
    exact .inr ⟨_, hids, fun told h ↦ Except.ok.inj (h.symm.trans hread)⟩
  | unread hmade hreply hdriver =>
    obtain ⟨hids, -⟩ := Store.of_reply_createObject backend.reader hmade hreply
    exact .inr ⟨_, hids, fun told h ↦ by cases h⟩

end Backend

namespace Context

variable {W H : Type} {driver : Driver W H} {context : Context} {backend between : Backend W H}

theorem run_lookupOrCreateObject_of_detached {err : Error} (h : context.session = .error err) :
    (lookupOrCreateObject driver space name kind).run (context, backend) =
      (.error err, (context, backend)) := by
  simp only [Action.run, lookupOrCreateObject, withBackend, h]

variable {session : Nat} (hsession : context.session = .ok session)

include hsession

theorem run_lookupOrCreateObject_of_found {result : Except Error Nat}
    (hlookup : (Backend.lookupObject driver space name (some kind)).run backend =
      (result, between)) (hresult : result ≠ .error .notFound) :
    (lookupOrCreateObject driver space name kind).run (context, backend) =
      (result, (context, between)) := by
  simp only [Action.run] at hlookup
  simp only [Action.run, lookupOrCreateObject, withBackend, hsession, Action.onSecond, hlookup]
  cases result with
  | error err => cases err <;> first
    | rfl
    | exact absurd rfl hresult
  | ok id => rfl

theorem run_lookupOrCreateObject_of_notFound
    (hlookup : (Backend.lookupObject driver space name (some kind)).run backend =
      (.error .notFound, between)) :
    (lookupOrCreateObject driver space name kind).run (context, backend) =
      (((Backend.createObject driver space name kind session).run between).1,
        (context, ((Backend.createObject driver space name kind session).run between).2)) := by
  simp only [Action.run] at hlookup
  simp only [Action.run, lookupOrCreateObject, withBackend, hsession, Action.onSecond, hlookup]

end Context

/-- What looking an object up, and making it if there is none, comes to. -/
inductive Store.FoundOrMade (s : Store) (space name : String) (kind : ObjectKind) :
    Except Error Nat → Store → Prop
  | failed (err : Error) : FoundOrMade s space name kind (.error err) s
  | found {id : Nat} (hlast : (s.idsOf space name kind).getLast? = some id) :
      FoundOrMade s space name kind (.ok id) s
  /-- There was none, and one has been made; no id but its own is told. -/
  | made {answer : Except Error Nat} {s' : Store} {id : Nat}
      (hnone : s.idsOf space name kind = []) (hone : s'.idsOf space name kind = [id])
      (htold : ∀ told, answer = .ok told → told = id) :
      FoundOrMade s space name kind answer s'

namespace Store.FoundOrMade

variable {answer : Except Error Nat} {id : Nat} (h : s.FoundOrMade space name kind answer s')

include h

/-- Nothing is made, or the first of the name and kind is. -/
theorem idsOf_cases : s'.idsOf space name kind = s.idsOf space name kind ∨
    s.idsOf space name kind = [] ∧ ∃ id, s'.idsOf space name kind = [id] := by
  cases h with
  | failed err => exact .inl rfl
  | found hlast => exact .inl rfl
  | made hnone hone htold => exact .inr ⟨hnone, _, hone⟩

theorem getLast?_of_answer (hanswer : answer = .ok id) :
    (s'.idsOf space name kind).getLast? = some id := by
  cases h with
  | failed err => cases hanswer
  | found hlast =>
    cases hanswer
    exact hlast
  | made hnone hone htold => rw [hone, htold id hanswer, List.getLast?_singleton]

theorem getLast?_of_getLast? (hlast : (s.idsOf space name kind).getLast? = some id) :
    (s'.idsOf space name kind).getLast? = some id := by
  rcases h.idsOf_cases with hsame | ⟨hnone, -⟩
  · rw [hsame, hlast]
  · rw [hnone] at hlast
    cases hlast

end Store.FoundOrMade

namespace FileSite

variable {backend between after : FileBackend} {answer : Except Error Nat}

/-- One call looks an object up and makes it if there is none. -/
inductive Asked (site : FileSite) (space name : String) (kind : ObjectKind)
    (backend : FileBackend) : Except Error Nat → FileBackend → Prop
  | plain (context : Context) {context' : Context} {answer : Except Error Nat}
      {after : FileBackend}
      (hcall : (Context.lookupOrCreateObject site.driver space name kind).run (context, backend) =
        (answer, (context', after))) :
      Asked site space name kind backend answer after
  /-- Other failures are planned by the time the object is made. -/
  | replanned (context : Context) {session : Nat} {between after : FileBackend}
      {answer : Except Error Nat} (queues : FaultPoint → List DriverError)
      (hsession : context.session = .ok session)
      (hlookup : (Backend.lookupObject site.driver space name (some kind)).run backend =
        (.error .notFound, between))
      (hcreate : (Backend.createObject site.driver space name kind session).run
        (between.mapWorld (Faulty.replan queues)) = (answer, after)) :
      Asked site space name kind backend answer after

/-- The object is made only if there is none. -/
theorem foundOrMade_of_createObject {session : Nat} (hbetween : between.connection.Settled site s)
    (hnone : s.idsOf space name kind = [])
    (hcreate : (Backend.createObject site.driver space name kind session).run between =
      (answer, after)) :
    ∃ s', after.connection.Settled site s' ∧ s.FoundOrMade space name kind answer s' := by
  obtain ⟨_, _, s', hrun, hsettled, hended⟩ :=
    Backend.ended_createObject hbetween space name kind session
  cases hcreate.symm.trans hrun
  refine ⟨s', hsettled, ?_⟩
  rcases hended with ⟨⟨err, rfl⟩, rfl⟩ | ⟨id, hids, htold⟩
  · exact .failed err
  · rw [hnone, List.nil_append] at hids
    exact .made hnone hids htold

theorem Asked.foundOrMade (h : site.Asked space name kind backend answer after)
    (hs : backend.connection.Settled site s) :
    ∃ s', after.connection.Settled site s' ∧ s.FoundOrMade space name kind answer s' := by
  obtain ⟨result, between, hlookup, hbetween, hended⟩ :=
    Backend.ended_lookupObject hs space name kind
  cases h with
  | plain context hcall =>
    cases hsession : context.session with
    | error err =>
      cases (Context.run_lookupOrCreateObject_of_detached hsession).symm.trans hcall
      exact ⟨s, hs, .failed err⟩
    | ok session =>
      rcases hended with ⟨err, rfl, hother⟩ | ⟨rfl, hnone⟩ | ⟨id, rfl, hlast⟩
      · cases (Context.run_lookupOrCreateObject_of_found hsession hlookup
          (mt Except.error.inj hother)).symm.trans hcall
        exact ⟨s, hbetween, .failed err⟩
      · cases (Context.run_lookupOrCreateObject_of_notFound hsession hlookup).symm.trans hcall
        exact foundOrMade_of_createObject hbetween hnone rfl
      · cases (Context.run_lookupOrCreateObject_of_found hsession hlookup
          fun h ↦ by cases h).symm.trans hcall
        exact ⟨s, hbetween, .found hlast⟩
  | replanned context queues hsession hlookup' hcreate =>
    cases hlookup.symm.trans hlookup'
    rcases hended with ⟨err, herr, hother⟩ | ⟨-, hnone⟩ | ⟨id, hfound, -⟩
    · exact absurd (Except.error.inj herr).symm hother
    · exact foundOrMade_of_createObject ((steady_replan queues).settled hbetween) hnone hcreate
    · cases hfound

/-- In a session that is recorded, and with nothing planned to fail, a call answers: with the object
that was made last or, if there is none, with the one that it makes. -/
def Answers (site : FileSite) (space name : String) (kind : ObjectKind) (s : Store)
    (backend : FileBackend) : Prop :=
  ∀ session, s.hasSession session = true → 0 < session ∧ session ≤ Limit.id →
    site.Quiet s backend → backend.connection.world.world.now.IsClock →
      space.utf8ByteSize ≤ Limit.space → name.utf8ByteSize ≤ Limit.name →
        ∃ after, (Context.lookupOrCreateObject site.driver space name kind).run
          (⟨some session⟩, backend) =
            (.ok ((s.idsOf space name kind).getLast?.getD (s.lastObject + 1)),
              (⟨some session⟩, after))

theorem answers_of_settled (h : backend.connection.Settled site s) (space name : String)
    (kind : ObjectKind) : site.Answers space name kind s backend := by
  intro session hrecorded hsession hquiet hclock hspace hname
  obtain ⟨between, hlookup, hbetween, hquiet', hnow⟩ := hquiet.call_of_yields
    (fun _ ↦ Request.lookupObject space name (some kind)) h
    (Store.yields_lastObject hspace hname (some kind))
  rw [Store.getLast?_idsOf] at hlookup
  cases hlast : (s.idsOf space name kind).getLast? with
  | some id =>
    rw [hlast] at hlookup
    exact ⟨between, Context.run_lookupOrCreateObject_of_found rfl hlookup fun h ↦ by cases h⟩
  | none =>
    rw [hlast] at hlookup
    rw [← hnow] at hclock
    obtain ⟨after, hcreate, -⟩ := hquiet'.call_of_yields
      (fun _ ↦ Request.createObject space name kind session) hbetween
      (Store.yields_createObject hrecorded hclock hsession kind hspace hname)
    change (Backend.createObject site.driver space name kind session).run between = _ at hcreate
    refine ⟨after, (Context.run_lookupOrCreateObject_of_notFound rfl hlookup).trans ?_⟩
    rw [hcreate]
    rfl

/-- Calls that look an object up and make it if there is none, and in between whatever else can
happen at the site and leaves the objects of this name and kind as they are. -/
inductive Asks (site : FileSite) (space name : String) (kind : ObjectKind) (start : State) :
    List (Except Error Nat) → State → Prop
  | refl : Asks site space name kind start [] start
  | asked {answers : List (Except Error Nat)} {answer : Except Error Nat}
      {backend after : FileBackend} (h : Asks site space name kind start answers (.opened backend))
      (hasked : site.Asked space name kind backend answer after) :
      Asks site space name kind start (answers ++ [answer]) (.opened after)
  | other {answers : List (Except Error Nat)} {state state' : State}
      (h : Asks site space name kind start answers state) (hstep : site.Step state state')
      (hsame : ∀ s s', state.Keeps site s → state'.Keeps site s' →
        s'.idsOf space name kind = s.idsOf space name kind) :
      Asks site space name kind start answers state'

variable {start state state' : State} {answers : List (Except Error Nat)}

theorem Asks.idled (h : site.Asks space name kind start answers state)
    (hidles : site.Idles state state') : site.Asks space name kind start answers state' := by
  refine h.other hidles.step fun s s' hs hs' ↦ ?_
  rw [hs'.unique (hidles.keeps hs)]

theorem Asks.performed (h : site.Asks space name kind start answers (.opened backend))
    (op : Operation) (hop : op.Leaves space name kind) {C : Type}
    (callback : Listed → Action C Unit) (c : C) :
    site.Asks space name kind start answers
      (.opened ((op.run site.driver (Operation.passive callback)).run (c, backend)).2.2) := by
  refine h.other (.performed backend op callback c) fun s s' hs hs' ↦ ?_
  rw [Operation.run_passive_backend] at hs'
  obtain ⟨t, ht, rfl | ⟨request, now, rows, hrequest, hreply⟩⟩ :=
    Backend.settled_call op.form.request hs
  · rw [hs'.unique ht]
  · rw [hs'.unique ht]
    exact hop.idsOf_eq hrequest (Operation.run_of_reply hrequest hreply)

theorem Asks.exists_store (h : site.Asks space name kind start answers state)
    (hstart : start.Keeps site s) :
    ∃ t, state.Keeps site t ∧
      (t.idsOf space name kind = s.idsOf space name kind ∨
        s.idsOf space name kind = [] ∧ ∃ id, t.idsOf space name kind = [id]) ∧
      ∀ id, .ok id ∈ answers → (t.idsOf space name kind).getLast? = some id := by
  induction h with
  | refl => exact ⟨s, hstart, .inl rfl, fun id hid ↦ by cases hid⟩
  | @asked answers answer backend after h hasked ih =>
    obtain ⟨t, ht, hids, htold⟩ := ih
    obtain ⟨t', ht', hanswer⟩ := hasked.foundOrMade ht
    refine ⟨t', ht', ?_, fun id hid ↦ ?_⟩
    · rcases hanswer.idsOf_cases with hsame | ⟨hnone, hone⟩
      · rw [hsame]
        exact hids
      · rw [hnone] at hids
        rcases hids with hempty | ⟨hempty, -⟩
        · exact .inr ⟨hempty.symm, hone⟩
        · exact .inr ⟨hempty, hone⟩
    · rcases List.mem_append.mp hid with hearlier | hthis
      · exact hanswer.getLast?_of_getLast? (htold id hearlier)
      · exact hanswer.getLast?_of_answer (List.mem_singleton.mp hthis).symm
  | @other answers state state' h hstep hsame ih =>
    obtain ⟨t, ht, hids, htold⟩ := ih
    obtain ⟨t', ht', -⟩ := hstep.keeps ht
    refine ⟨t', ht', ?_⟩
    rw [hsame t t' ht ht']
    exact ⟨hids, htold⟩

/-- Whatever is planned to fail, all calls together make at most one object of the name and kind,
and none if there is one at the start. Every call that answers tells the id of the one that is last
in the end, so they all tell the same; and the next call answers, if nothing is planned to fail. -/
theorem made_at_most_once (hstart : start.Keeps site s)
    (h : site.Asks space name kind start answers state) :
    ∃ t, state.Keeps site t ∧
      (t.idsOf space name kind = s.idsOf space name kind ∨
        s.idsOf space name kind = [] ∧ ∃ id, t.idsOf space name kind = [id]) ∧
      (∀ id, .ok id ∈ answers → (t.idsOf space name kind).getLast? = some id) ∧
      ∀ backend, state = .opened backend → site.Answers space name kind t backend := by
  obtain ⟨t, ht, hids, htold⟩ := h.exists_store hstart
  refine ⟨t, ht, hids, htold, ?_⟩
  rintro backend rfl
  exact answers_of_settled ht space name kind

/-- The next call of this kind fails. -/
def failing (point : FaultPoint) : FaultPoint → List DriverError :=
  fun other ↦ if other = point then [.single "HY000" 0 "disk full"] else []

/-- The first lookup fails, and nothing is made. The second finds nothing, and the id of what is
made cannot be fetched. The third finds it, another object having been made meanwhile. -/
theorem made_once_despite_failures :
    ∃ answers state t, named.Asks "" "file" .entity (.closed untouched) answers state ∧
      state.Keeps named t ∧ t.idsOf "" "file" .entity = [1] ∧
      answers = [.error (.statement "LookupObjectByType"), .error (.statement "CreateObject"),
        .ok 1] := by
  let attached : Context := ⟨some 1⟩
  have hstarted : named.Asks "" "file" .entity (.closed untouched) [] (.opened first) :=
    Asks.refl.idled (.started {} ⟨0, none⟩ rfl)
  have hattached := hstarted.performed
    (.createSession ⟨"00:00:00:00:00:00", "user", 1, "program", "program --flag"⟩) trivial
    Operation.ignore ()
  have hfailed := (hattached.idled (.planned _ (failing .execute))).asked (.plain attached rfl)
  have hunread := (hfailed.idled (.planned _ fun _ ↦ [])).asked
    (.replanned attached (failing .fetch) rfl rfl rfl)
  have hbeside := hunread.performed (.createObject "" "beside" .entity 1)
    (fun h ↦ absurd h.2.1 (by decide)) Operation.ignore ()
  have hfound := hbeside.asked (.plain attached rfl)
  obtain ⟨t, ht, hids, htold, -⟩ := made_at_most_once fresh_untouched.keeps hfound
  have hlast := htold 1 (List.mem_append_right _ (List.mem_singleton.mpr rfl))
  refine ⟨_, _, t, hfound, ht, ?_, rfl⟩
  rcases hids with hnone | ⟨-, id, hone⟩
  · rw [hnone] at hlast
    cases hlast
  · rw [hone] at hlast ⊢
    cases hlast
    rfl

end FileSite

end Provenance
